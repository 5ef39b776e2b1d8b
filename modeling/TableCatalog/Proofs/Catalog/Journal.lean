import Mathlib.Data.List.Forall2
import TableCatalog.Proofs.Catalog.Session
import TableCatalog.Proofs.Credential.Withheld

/-!
# What is told in the course of a session

A session in which catalogs are made and connected, called, and the accessors of loaded tables are
moved, in any order, with a journal of all that is told meanwhile: the spans that are opened and the
log events. Beside the journal stands what the service has answered, data tokens withheld.
-/

namespace TableCatalog

/-! ## Handles -/

def FileAccess.withheld : FileAccess → FileAccess
  | .static => .static
  | .token access => .token access.withheld

def Table.withheld (t : Table) : Table := { t with fileAccess := t.fileAccess.withheld }

namespace Catalog

/-- A request for a data token: who makes it, when, and for which table. -/
abbrev Asking := Credential.Caller × Instant × Identifier

namespace Handle

/-- A handle after a move of its accessor, the events of the move, and the request that it makes. -/
def move? (h : Handle) (m : Credential.Move) : Option (Handle × List Event × Option Asking) :=
  match h.table.fileAccess with
  | .static => none
  | .token access =>
    (Credential.step? access h.accessor (h.delivered m)).map fun (accessor, events) =>
      ({ h with accessor }, events, (h.delivered m).fetch? accessor)

/-- A handle whose caller was answered. -/
def answered (h : Handle) (caller : Credential.Caller) (answer : Except Failure TokenGrant) :
    Handle :=
  { h with answers := fun d => if d = caller then answer else h.answers d }

def withheld (h : Handle) : Handle where
  table := h.table.withheld
  accessor := h.accessor.withheld
  answers d := (h.answers d).map TokenGrant.withheld

end Handle

/-! ## What is told and what is answered -/

/-- An entry of a journal. -/
inductive Entry where
  | opened (span : Span)
  | told (e : Event)
  deriving DecidableEq

/-- What the service has answered to a request. -/
inductive Reply where
  | config (answer : Except Failure ServerConfig)
  | names (answer : Except Failure (List String))
  | page (answer : Except Failure (Page String))
  | done (answer : Except Failure Unit)
  | database (answer : Except Failure DatabaseDescription)
  | table (answer : Except Failure TableDescription)
  /-- A data token, which is withheld. -/
  | grant (answer : Except Failure TokenGrant)
  deriving DecidableEq

def Reply.of : (r : Request) → Answer r → Reply
  | .config, answer => .config answer
  | .listDatabases, answer | .listTables _, answer => .names answer
  | .listDatabasesPaged _, answer | .listTablesPaged _ _, answer => .page answer
  | .createDatabase _ _, answer | .dropDatabase _, answer | .alterDatabase _ _ _, answer =>
    .done answer
  | .getDatabase _, answer => .database answer
  | .getTable _, answer => .table answer
  | .loadTableToken _, answer => .grant (answer.map TokenGrant.withheld)

namespace Call

/-- The span of a call. -/
def span? : Call → Option Span
  | .connect _ _ => some { name := "catalog_connect" }
  | .listDatabases => some { name := "list_databases" }
  | .listDatabasesPaged query =>
    some { name := "list_databases_paged", fields := queryFields query "database_name_pattern" }
  | .createDatabase name ignoreIfExists _ =>
    some
      { name := "create_database"
        fields := [("name", name), ("ignore_if_exists", Event.bool ignoreIfExists)] }
  | .getDatabase name => some { name := "get_database", fields := [("name", name)] }
  | .dropDatabase name ignoreIfNotExists =>
    some
      { name := "drop_database"
        fields := [("name", name), ("ignore_if_not_exists", Event.bool ignoreIfNotExists)] }
  | .alterDatabase name _ => some { name := "alter_database", fields := [("name", name)] }
  | .listTables database => some { name := "list_tables", fields := [("database", database)] }
  | .listTablesPaged database query =>
    some
      { name := "list_tables_paged"
        fields := ("database", database) :: queryFields query "table_name_pattern" }
  | .createTable _ _ _ => none
  | .getTable identifier =>
    (Identifier.parse identifier).toOption.map fun i =>
      { name := "load_table", fields := [("identifier", i.text)] }
  | .loadTable i => some { name := "load_table", fields := [("identifier", i.text)] }

/-- The span of a call is the one in which its operation stands. -/
theorem exists_operation_within (c : Catalog) {call : Call} {span : Span}
    (is : call.span? = some span) :
    ∃ o : Operation call.Value, c.operation call = o.within span := by
  have load (i : Identifier) : ∃ o : Operation Table, c.loadTable i =
      o.within { name := "load_table", fields := [("identifier", i.text)] } :=
    ⟨_, by rw [Catalog.loadTable]⟩
  cases call with
  | getTable identifier =>
    simp only [span?, operation, Catalog.getTable] at is ⊢
    cases read : Identifier.parse identifier with
    | error refused =>
      rw [read] at is
      cases is
    | ok i =>
      rw [read] at is
      cases is
      exact load i
  | loadTable i =>
    cases is
    exact load i
  | connect | listDatabases | listDatabasesPaged | createDatabase | getDatabase | dropDatabase
  | alterDatabase | listTables | listTablesPaged =>
    cases is
    simp only [operation, Catalog.connect, Catalog.listDatabases, Catalog.listDatabasesPaged,
      Catalog.createDatabase, Catalog.getDatabase, Catalog.dropDatabase, Catalog.alterDatabase,
      Catalog.listTables, Catalog.listTablesPaged]
    exact ⟨_, rfl⟩
  | createTable => cases is

/-- **Whatever a call tells, it tells in its span.** -/
theorem head?_spans {σ : Type} {c : Catalog} {service : Service σ} {now : Instant} {state : σ}
    {call : Call} {e : Event} (told : e ∈ ((c.operation call).perform service now state).events) :
    e.spans.head? = call.span? := by
  cases is : call.span? with
  | some span =>
    obtain ⟨o, within⟩ := exists_operation_within c is
    rw [within, Operation.events_perform_within] at told
    obtain ⟨e', -, rfl⟩ := List.mem_map.mp told
    rfl
  | none =>
    cases call with
    | createTable =>
      rw [List.mem_singleton.mp told]
      rfl
    | getTable identifier =>
      have refused : (Identifier.parse identifier).toOption = none := Option.map_eq_none_iff.mp is
      simp only [operation, Catalog.getTable] at told
      cases read : Identifier.parse identifier with
      | error _ =>
        rw [read] at told
        cases told
      | ok i =>
        rw [read] at refused
        cases refused
    | _ => cases is

/-- What a call that connects has come to. -/
def connected : (call : Call) → CatalogResult call.Value → List (Option Catalog)
  | .connect _ _, result => [result.toOption]
  | _, _ => []

end Call

/-! ## Journals -/

/-- Something that is done in a session. -/
inductive Act where
  /-- A catalog is made of a configuration and options. -/
  | make (c : Catalog)
  | connect (clientOptions : Options) (env : Environment) (now : Instant)
  /-- A call of one of the catalogs. -/
  | call (catalog : Nat) (call : Call) (now : Instant)
  /-- A move of a caller of the accessor of a loaded table. -/
  | move (handle : Nat) (m : Credential.Move)

structure Journal (σ : Type) where
  service : σ
  /-- The catalogs, in their order. To connect may fail. -/
  catalogs : List (Option Catalog) := []
  handles : List Handle := []
  entries : List Entry := []
  replies : List Reply := []

namespace Journal

variable {σ : Type}

/-- The journal after a call. -/
def perform (service : Service σ) (j : Journal σ) (call : Call) (o : Operation call.Value)
    (now : Instant) : Journal σ :=
  let outcome := o.perform service now j.service
  { service := outcome.service
    catalogs := j.catalogs ++ call.connected outcome.result
    handles := j.handles ++ (call.table outcome.result).map ({ table := · })
    entries := j.entries ++ call.span?.toList.map .opened ++ outcome.events.map .told
    replies := j.replies ++ o.requests.map fun r => .of r (service.answer now j.service r).1 }

/-- The journal after a move. A move that cannot be made changes nothing. -/
def move (service : Service σ) (j : Journal σ) (n : Nat) (m : Credential.Move) : Journal σ :=
  match j.handles[n]?.bind (·.move? m) with
  | none => j
  | some (h, events, none) =>
    { j with handles := j.handles.set n h, entries := j.entries ++ events.map .told }
  | some (h, events, some (caller, now, asked)) =>
    let request := Request.loadTableToken asked
    let (answer, state) := service.answer now j.service request
    { j with
      service := state
      handles := j.handles.set n (h.answered caller answer)
      entries := j.entries ++ events.map .told
      replies := j.replies ++ [.of request answer] }

def step (service : Service σ) (j : Journal σ) : Act → Journal σ
  | .make c => { j with catalogs := j.catalogs ++ [some c] }
  | .connect clientOptions env now =>
    j.perform service (.connect clientOptions env) (Catalog.connect clientOptions env) now
  | .call n call now =>
    match j.catalogs[n]? with
    | some (some c) => j.perform service call (c.operation call) now
    | _ => j
  | .move n m => j.move service n m

/-- The journal of several acts. -/
def after (service : Service σ) (j : Journal σ) (acts : List Act) : Journal σ :=
  acts.foldl (step service) j

/-- The configurations of the catalogs. -/
def configs (j : Journal σ) : List (Option CatalogConfig) := j.catalogs.map (·.map Catalog.config)

/-! ## Diagnostic texts -/

def resolverTexts (j : Journal σ) : List (Option String) :=
  j.catalogs.map (·.map fun c => c.resolver.diagnostic.text)

def fileAccessTexts (j : Journal σ) : List String :=
  j.handles.map fun h => h.table.fileAccess.diagnostic.text

def accessorTexts (j : Journal σ) : List (Option String) :=
  j.handles.map fun h => h.table.fileAccess.tokenAccess?.map fun access => access.diagnostic.text

end Journal

end Catalog

end TableCatalog
