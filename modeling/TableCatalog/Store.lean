import TableCatalog.Service
import TableCatalog.Text.Basic

/-!
# A metadata service in memory

The service keeps databases with their properties and tables, and hands out data tokens. A database
has its location from the beginning: the one among its properties, or one below the root of the
warehouse; the paths of its tables lie below it. A table that is put again keeps its identity and
its branches. Everything that is addressed and is not there is a failure, and a failure changes
nothing.
-/

namespace TableCatalog

/-! ## Patterns and pages of names

In a pattern each percent sign stands for any characters, also none, and every other character for
itself. A page holds the first names beyond its token that match, and its own token is the last of
them if more follow.
-/

namespace Store

/-- The text behind the first occurrence of a part. -/
def afterFirst? (part : List Char) : List Char → Option (List Char)
  | [] => if part.isEmpty then some [] else none
  | c :: cs =>
    if part.isPrefixOf (c :: cs) then some ((c :: cs).drop part.length) else afterFirst? part cs

/-- Whether a text holds some parts one behind the other and ends in the last of them. -/
def matchesBehind : List (List Char) → List Char → Bool
  | [], cs => cs.isEmpty
  | [last], cs => last.isSuffixOf cs
  | part :: parts, cs =>
    match afterFirst? part cs with
    | some rest => matchesBehind parts rest
    | none => false

def matchesPattern (name pattern : String) : Bool :=
  match pattern.toList.splitOn '%' with
  | first :: part :: parts =>
    first.isPrefixOf name.toList && matchesBehind (part :: parts) (name.toList.drop first.length)
  | _ => name == pattern

/-- Whether a name belongs to a listing that goes on behind the token of a page. -/
def selects (query : PageQuery) (name : String) : Bool :=
  (query.pattern.all fun p => matchesPattern name p) && query.token.all (· < name)

/-- The page of increasing names that is asked for. No limit, or a limit of zero, means all. -/
def page (names : List String) (query : PageQuery) : Page String :=
  let selected := names.filter (selects query)
  match query.limit with
  | none => { elements := selected }
  | some limit =>
    if limit = 0 ∨ selected.length ≤ limit.toNat then { elements := selected }
    else
      let elements := selected.take limit.toNat
      { elements, next := elements.getLast? }

end Store

/-! ## Databases and tables -/

structure Store.Table where
  id : Nat
  schema : Schema
  audit : Audit
  /-- The names of its branches. -/
  branches : NameSet := NameMap.empty
  deriving DecidableEq

structure Store.Database where
  id : Nat
  location : String
  /-- The properties, without the location. -/
  options : Options
  audit : Audit := {}
  tables : NameMap Store.Table := NameMap.empty
  deriving DecidableEq

structure Store where
  databases : NameMap Store.Database := NameMap.empty
  /-- What clients are told of the configuration. -/
  config : ServerConfig := {}
  /-- The location below which databases lie by themselves. -/
  root : String := "memory://warehouse"
  /-- How long a data token lasts, in milliseconds. -/
  tokenLifetime : Int := 7200000
  /-- The number of data tokens handed out. -/
  tokensIssued : Nat := 0
  /-- The number of identities given to databases and tables. -/
  idsIssued : Nat := 0
  deriving DecidableEq

namespace Store

/-- The text of an identity, in the form of a time-ordered universally unique identifier. -/
def idText (n : Nat) : String :=
  let digits := Text.hexadecimal n
  "00000000-0000-7000-8000-" ++ String.ofList (List.replicate (12 - digits.length) '0' ++ digits)

/-- The store with another root of the warehouse, whose slashes at the end do not count. -/
def withRoot (s : Store) (root : String) : Store :=
  { s with root := String.ofList (root.toList.reverse.dropWhile (· = '/')).reverse }

/-! ### Failures -/

def noDatabase (name : String) : Failure :=
  .notFound ("Database " ++ name ++ " does not exist") "NoSuchDatabase"

def noTable (name : String) : Failure :=
  .notFound ("Table " ++ name ++ " does not exist") "NoSuchTable"

def databaseExists (name : String) : Failure :=
  .conflict ("Database " ++ name ++ " already exists") "AlreadyExists"

/-! ### Looking up -/

def database (s : Store) (name : String) : Except Failure Database :=
  match s.databases.get? name with
  | some d => .ok d
  | none => .error (noDatabase name)

/-- The table that an identifier addresses, and its database. A branch has to be registered. -/
def table (s : Store) (i : Identifier) : Except Failure (Database × Table) :=
  match s.databases.get? i.database with
  | none => .error (noTable i.text)
  | some d =>
    match d.tables.get? i.table with
    | none => .error (noTable i.text)
    | some t => if i.branch.all t.branches.contains then .ok (d, t) else .error (noTable i.text)

def describeDatabase (name : String) (d : Database) : DatabaseDescription :=
  { id := idText d.id, name, location := d.location, options := d.options, audit := d.audit }

def describeTable (i : Identifier) (d : Database) (t : Table) : TableDescription :=
  { id := idText t.id, name := i.table, path := d.location ++ "/" ++ i.table,
    schema := t.schema, audit := t.audit }

/-! ### Changing -/

def setDatabase (s : Store) (name : String) (d : Database) : Store :=
  { s with databases := s.databases.insert name d }

def createDatabase (s : Store) (name : String) (properties : Options) :
    Except Failure Unit × Store :=
  if s.databases.contains name then (.error (databaseExists name), s)
  else
    let location := (properties.get? Options.locationKey).getD (s.root ++ "/" ++ name ++ ".db")
    let d : Database :=
      { id := s.idsIssued, location, options := properties.erase Options.locationKey }
    (.ok (), { s.setDatabase name d with idsIssued := s.idsIssued + 1 })

def dropDatabase (s : Store) (name : String) : Except Failure Unit × Store :=
  if s.databases.contains name then
    (.ok (), { s with databases := s.databases.erase name })
  else (.error (noDatabase name), s)

def alterDatabase (s : Store) (name : String) (remove : List String) (set : Options) :
    Except Failure Unit × Store :=
  match s.database name with
  | .error e => (.error e, s)
  | .ok d =>
    (.ok (), s.setDatabase name { d with options := (d.options.eraseMany remove).overlay set })

def setDatabaseAudit (s : Store) (name : String) (audit : Audit) : Except Failure Unit × Store :=
  match s.database name with
  | .error e => (.error e, s)
  | .ok d => (.ok (), s.setDatabase name { d with audit })

/-- Puts a table into a database, in the stead of the one of its name, whose identity and branches
it takes over. The answer is its identity. -/
def putTable (s : Store) (database table : String) (schema : Schema) (audit : Audit) :
    Except Failure Nat × Store :=
  match s.database database with
  | .error e => (.error e, s)
  | .ok d =>
    match d.tables.get? table with
    | some t =>
      let t := { t with schema, audit }
      (.ok t.id, s.setDatabase database { d with tables := d.tables.insert table t })
    | none =>
      let t : Table := { id := s.idsIssued, schema, audit }
      (.ok t.id,
        { s.setDatabase database { d with tables := d.tables.insert table t } with
          idsIssued := s.idsIssued + 1 })

def putBranch (s : Store) (database table branch : String) : Except Failure Unit × Store :=
  let missing := Except.error (noTable (database ++ "." ++ table))
  match s.databases.get? database with
  | none => (missing, s)
  | some d =>
    match d.tables.get? table with
    | none => (missing, s)
    | some t =>
      let t := { t with branches := t.branches.add branch }
      (.ok (), s.setDatabase database { d with tables := d.tables.insert table t })

/-- The option of a data token that holds its secret. -/
def tokenKey : String := "fs.memory.token"

/-- The option of a data token that holds the time of its end. -/
def expirationKey : String := "fs.memory.expiration"

/-- Hands out a data token for a table. Its secret is made of the identity of the table and the
number of the token. -/
def issueToken (now : Instant) (s : Store) (i : Identifier) : Except Failure TokenGrant × Store :=
  match s.table i with
  | .error e => (.error e, s)
  | .ok (_, t) =>
    let serial := s.tokensIssued + 1
    let expiresAtMillis := Int64.ofInt (now.millis + s.tokenLifetime)
    (.ok
      { token := NameMap.ofList
          [(tokenKey, idText t.id ++ "-" ++ toString serial),
            (expirationKey, toString expiresAtMillis.toInt)]
        expiresAtMillis },
      { s with tokensIssued := serial })

/-! ### Requests -/

def answer (now : Instant) (s : Store) (r : Request) : Answer r × Store :=
  match r with
  | .config => (.ok s.config, s)
  | .listDatabases => (.ok s.databases.keys, s)
  | .listDatabasesPaged query => (.ok (page s.databases.keys query), s)
  | .createDatabase name properties => s.createDatabase name properties
  | .getDatabase name => ((s.database name).map (describeDatabase name), s)
  | .dropDatabase name => s.dropDatabase name
  | .alterDatabase name remove set => s.alterDatabase name remove set
  | .listTables database => ((s.database database).map (·.tables.keys), s)
  | .listTablesPaged database query =>
    ((s.database database).map fun d => page d.tables.keys query, s)
  | .getTable i => ((s.table i).map fun (d, t) => describeTable i d t, s)
  | .loadTableToken i => issueToken now s i

end Store

def storeService : Service Store where
  answer now s r := s.answer now r

end TableCatalog
