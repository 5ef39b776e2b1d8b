import TableCatalog.Description
import TableCatalog.Failure
import TableCatalog.Identifier
import TableCatalog.Time

/-!
# The metadata service

Every request has a type of reply. A metadata service is anything that answers requests: from the
clock and its own state it makes a reply or a failure, and its next state.
-/

namespace TableCatalog

structure PageQuery where
  /-- The largest number of names in the page. -/
  limit : Option UInt32 := none
  /-- The token that came with the page before. -/
  token : Option String := none
  /-- A pattern that the names match. -/
  pattern : Option String := none
  deriving DecidableEq, Repr

inductive Request where
  | config
  | listDatabases
  | listDatabasesPaged (query : PageQuery)
  | createDatabase (name : String) (properties : Options)
  | getDatabase (name : String)
  | dropDatabase (name : String)
  | alterDatabase (name : String) (remove : List String) (set : Options)
  | listTables (database : String)
  | listTablesPaged (database : String) (query : PageQuery)
  | getTable (identifier : Identifier)
  /-- A data token for the files of a table. -/
  | loadTableToken (identifier : Identifier)
  deriving DecidableEq

/-- What a request is answered by, if not by a failure. -/
@[reducible] def Request.Reply : Request → Type
  | .config => ServerConfig
  | .listDatabases | .listTables _ => List String
  | .listDatabasesPaged _ | .listTablesPaged _ _ => Page String
  | .createDatabase _ _ | .dropDatabase _ | .alterDatabase _ _ _ => Unit
  | .getDatabase _ => DatabaseDescription
  | .getTable _ => TableDescription
  | .loadTableToken _ => TokenGrant

def Request.method : Request → String
  | .config => "get_config"
  | .listDatabases => "list_databases"
  | .listDatabasesPaged _ => "list_databases_paged"
  | .createDatabase _ _ => "create_database"
  | .getDatabase _ => "get_database"
  | .dropDatabase _ => "drop_database"
  | .alterDatabase _ _ _ => "alter_database"
  | .listTables _ => "list_tables"
  | .listTablesPaged _ _ => "list_tables_paged"
  | .getTable _ => "get_table"
  | .loadTableToken _ => "load_table_token"

abbrev Answer (r : Request) := Except Failure r.Reply

/-- A metadata service with states in `σ`. -/
structure Service (σ : Type) where
  /-- The answer to a request at a time, and the state after it. -/
  answer : Instant → σ → (r : Request) → Answer r × σ

/-! ## A service that answers from a script

For each method there is a list of answers. Every request of the method takes the next one, and the
last one is given for ever. A method without answers fails.
-/

abbrev Answers (α : Type) := List (Except Failure α)

structure Script where
  config : Answers ServerConfig := []
  listDatabases : Answers (List String) := []
  listDatabasesPaged : Answers (Page String) := []
  createDatabase : Answers Unit := []
  getDatabase : Answers DatabaseDescription := []
  dropDatabase : Answers Unit := []
  alterDatabase : Answers Unit := []
  listTables : Answers (List String) := []
  listTablesPaged : Answers (Page String) := []
  getTable : Answers TableDescription := []
  loadTableToken : Answers TokenGrant := []

namespace Script

def unscripted (method : String) : Failure :=
  .ofStatus ("no reply for " ++ method) "Unscripted" 500 .unknown

def next {α : Type} (method : String) : Answers α → Except Failure α × Answers α
  | [] => (.error (unscripted method), [])
  | [a] => (a, [a])
  | a :: rest => (a, rest)

def answer (s : Script) (r : Request) : Answer r × Script :=
  match r with
  | .config =>
    let (a, rest) := next r.method s.config
    (a, { s with config := rest })
  | .listDatabases =>
    let (a, rest) := next r.method s.listDatabases
    (a, { s with listDatabases := rest })
  | .listDatabasesPaged _ =>
    let (a, rest) := next r.method s.listDatabasesPaged
    (a, { s with listDatabasesPaged := rest })
  | .createDatabase _ _ =>
    let (a, rest) := next r.method s.createDatabase
    (a, { s with createDatabase := rest })
  | .getDatabase _ =>
    let (a, rest) := next r.method s.getDatabase
    (a, { s with getDatabase := rest })
  | .dropDatabase _ =>
    let (a, rest) := next r.method s.dropDatabase
    (a, { s with dropDatabase := rest })
  | .alterDatabase _ _ _ =>
    let (a, rest) := next r.method s.alterDatabase
    (a, { s with alterDatabase := rest })
  | .listTables _ =>
    let (a, rest) := next r.method s.listTables
    (a, { s with listTables := rest })
  | .listTablesPaged _ _ =>
    let (a, rest) := next r.method s.listTablesPaged
    (a, { s with listTablesPaged := rest })
  | .getTable _ =>
    let (a, rest) := next r.method s.getTable
    (a, { s with getTable := rest })
  | .loadTableToken _ =>
    let (a, rest) := next r.method s.loadTableToken
    (a, { s with loadTableToken := rest })

end Script

def scriptedService : Service Script where
  answer _ s r := s.answer r

end TableCatalog
