import TableCatalog.CatalogError
import TableCatalog.Config.Extraction
import TableCatalog.Diagnostic
import TableCatalog.Options
import TableCatalog.Service
import TableCatalog.Table

/-!
# Catalogs

A catalog has a configuration and options, and nothing of what it is told later: databases and
tables are asked for each time. To connect means to ask the metadata service for its configuration
once, to lay the options of the client between the defaults and the overrides of the service, and to
read the configuration of the catalog from the result.
-/

namespace TableCatalog

/-! ## Operations

An operation is settled by itself, or it makes one request to the metadata service and its outcome
is made of the answer. It says so before any service is there: the request, the events before it,
and for each answer the result and the events after it.
-/

abbrev CatalogResult (α : Type) := Except CatalogError α

inductive Operation (α : Type) where
  /-- It asks for nothing. -/
  | settled (result : CatalogResult α) (events : List Event)
  /-- It makes one request. -/
  | ask (request : Request) (before : List Event)
      (conclude : Answer request → CatalogResult α × List Event)

/-- What an operation leaves behind. -/
structure Outcome (σ α : Type) where
  result : CatalogResult α
  service : σ
  requests : List Request
  events : List Event

namespace Operation

variable {σ α : Type}

def perform (s : Service σ) (now : Instant) (state : σ) : Operation α → Outcome σ α
  | .settled result events => ⟨result, state, [], events⟩
  | .ask request before conclude =>
    let (answer, state) := s.answer now state request
    let (result, after) := conclude answer
    ⟨result, state, [request], before ++ after⟩

def requests : Operation α → List Request
  | .settled _ _ => []
  | .ask request _ _ => [request]

def within (span : Span) : Operation α → Operation α
  | .settled result events => .settled result (events.map (Event.within span))
  | .ask request before conclude =>
    .ask request (before.map (Event.within span)) fun answer =>
      let (result, after) := conclude answer
      (result, after.map (Event.within span))

/-- How an operation takes a failure of the service. -/
abbrev OnFailure := Failure → CatalogError × List Event

/-- A failure that is passed on. -/
def passOn : OnFailure := fun f =>
  (.remote f,
    [{ message := "Metadata service call failed"
       fields := [("code", toString f.code.toNat), ("error_type", f.kind)] }])

/-- A failure that means, if nothing is found, that something is not there. -/
def orMissing (missing : Cause) : OnFailure := fun f =>
  if f.isNotFound then (.ofFault { cause := missing, details := [f.message] }, []) else passOn f

/-- The operation that makes a request and takes a failure in a certain way. -/
def request (r : Request) (onFailure : OnFailure)
    (onReply : r.Reply → CatalogResult α × List Event) : Operation α :=
  .ask r [] fun
    | .ok reply => onReply reply
    | .error f =>
      let (e, events) := onFailure f
      (.error e, events)

/-- The operation that makes a request and gives back what is made of the reply. -/
def fetch (r : Request) (onFailure : OnFailure) (f : r.Reply → α) : Operation α :=
  request r onFailure fun reply => (.ok (f reply), [])

end Operation

/-! ## Connecting -/

structure Catalog where
  config : CatalogConfig
  options : Options
  deriving DecidableEq

namespace Catalog

def resolver (c : Catalog) : FileAccessResolver :=
  ⟨c.config.dataTokenEnabled, c.config.tokenRefreshMargin, c.options⟩

/-- The page size that is asked for: the given one, or the one of the configuration. -/
def pageSize (c : Catalog) (limit : Option UInt32) : Option UInt32 :=
  limit.or c.config.pageSizeDefault

def sized (c : Catalog) (q : PageQuery) : PageQuery := { q with limit := c.pageSize q.limit }

def connectedEvent (c : CatalogConfig) : Event :=
  { level := .info
    message := "Connected to metadata service"
    fields := [("data_token_enabled", Event.bool c.dataTokenEnabled),
      ("warehouse", (Diagnostic.optionalQuoted c.warehouse).text)] }

/-- Connects to the metadata service, in an environment with the given variables. -/
def connect (clientOptions : Options) (env : Environment) : Operation Catalog :=
  (Operation.request .config Operation.passOn fun server =>
    let options := server.merge clientOptions
    match CatalogConfig.extract options env with
    | .error bad => (.error (.ofFault bad.toFault), [])
    | .ok config => (.ok ⟨config, options⟩, [connectedEvent config])).within
      { name := "catalog_connect" }

/-- A catalog for diagnostics. Its options are not shown. -/
def diagnostic (c : Catalog) : Diagnostic :=
  .record "Catalog"
    [("config", c.config.diagnostic),
      ("resolver", .record "CatalogResolver" [("file_access", c.resolver.diagnostic)] false)] false

/-! ## Databases

Listing, making, describing, dropping and altering databases. Each operation makes the request of
its name; that a database is there already, or is not there, is told apart from other failures and
may be ignored.
-/

def queryFields (q : PageQuery) (patternName : String) : List (String × String) :=
  [("max_results", (Diagnostic.option (q.limit.map fun n => .int n.toNat)).text),
    ("page_token", (Diagnostic.optionalQuoted q.token).text),
    (patternName, (Diagnostic.optionalQuoted q.pattern).text)]

def listDatabases (_ : Catalog) : Operation (List String) :=
  (Operation.fetch .listDatabases Operation.passOn id).within { name := "list_databases" }

def listDatabasesPaged (c : Catalog) (q : PageQuery) : Operation (Page String) :=
  (Operation.fetch (.listDatabasesPaged (c.sized q)) Operation.passOn id).within
    { name := "list_databases_paged", fields := queryFields q "database_name_pattern" }

/-- Makes a database. One that is there already may be ignored. -/
def createDatabase (_ : Catalog) (name : String) (ignoreIfExists : Bool) (properties : Options) :
    Operation Unit :=
  (Operation.ask (.createDatabase name properties) [] fun
    | .ok () => (.ok (), [])
    | .error f =>
      if f.isConflict then
        if ignoreIfExists then (.ok (), [{ message := "Database already exists, ignoring" }])
        else
          (.error (.ofFault { cause := .databaseAlreadyExists name, details := [f.message] }), [])
      else
        let (e, events) := Operation.passOn f
        (.error e, events)).within
    { name := "create_database"
      fields := [("name", name), ("ignore_if_exists", Event.bool ignoreIfExists)] }

/-- The options of a database: its properties, its location unless a property says another one, and
over both its audit fields. -/
def databaseOptions (d : DatabaseDescription) : Options :=
  d.audit.writeTo (d.options.insertIfNew Options.locationKey d.location)

def getDatabase (_ : Catalog) (name : String) : Operation Database :=
  (Operation.fetch (.getDatabase name) (Operation.orMissing (.databaseNotFound name)) fun d =>
    { name := d.name, options := databaseOptions d : Database }).within
    { name := "get_database", fields := [("name", name)] }

/-- Drops a database. One that is not there may be ignored. -/
def dropDatabase (_ : Catalog) (name : String) (ignoreIfNotExists : Bool) : Operation Unit :=
  (Operation.ask (.dropDatabase name) [] fun
    | .ok () => (.ok (), [])
    | .error f =>
      if f.isNotFound ∧ ignoreIfNotExists then
        (.ok (), [{ message := "Database does not exist, ignoring" }])
      else
        let (e, events) := Operation.orMissing (.databaseNotFound name) f
        (.error e, events)).within
    { name := "drop_database"
      fields := [("name", name), ("ignore_if_not_exists", Event.bool ignoreIfNotExists)] }

def alteringEvent (c : PropertyChanges) : Event :=
  { message := "Altering database properties"
    fields := [("set", toString c.set.size), ("remove", toString c.remove.size)] }

/-- Changes the properties of a database. The changes are reduced before they are sent. -/
def alterDatabase (_ : Catalog) (name : String) (changes : List PropertyChange) : Operation Unit :=
  let reduced := PropertyChanges.reduce changes
  (Operation.ask (.alterDatabase name reduced.remove.keys reduced.set) [alteringEvent reduced] fun
    | .ok () => (.ok (), [])
    | .error f =>
      let (e, events) := Operation.orMissing (.databaseNotFound name) f
      (.error e, events)).within
    { name := "alter_database", fields := [("name", name)] }

/-! ## Tables

Listing and loading tables. The options of a loaded table are its declared ones, overlaid in turn
with its path, its audit fields, and the branch through which it was addressed. Making a table is
not supported and asks for nothing; nor does a malformed identifier.
-/

def listTables (_ : Catalog) (database : String) : Operation (List String) :=
  (Operation.fetch (.listTables database)
    (Operation.orMissing (.databaseNotFound database)) id).within
    { name := "list_tables", fields := [("database", database)] }

def listTablesPaged (c : Catalog) (database : String) (q : PageQuery) : Operation (Page String) :=
  (Operation.fetch (.listTablesPaged database (c.sized q))
    (Operation.orMissing (.databaseNotFound database)) id).within
    { name := "list_tables_paged"
      fields := ("database", database) :: queryFields q "table_name_pattern" }

def tableOptions (i : Identifier) (path : Location) (d : TableDescription) : Options :=
  let options := d.audit.writeTo (d.schema.options.insert Options.pathKey path.text)
  match i.branch with
  | some branch => options.insert Options.branchKey branch
  | none => options

/-- The table of a description, whose path is a location. -/
def tableOf (c : Catalog) (i : Identifier) (path : Location) (d : TableDescription) : Table :=
  { identifier := i
    metadata :=
      { schema := d.schema.withOptions (tableOptions i path d)
        isExternal := d.isExternal
        uuid := d.id }
    location := path
    fileAccess := c.resolver.resolve i path }

def resolvedEvent (t : Table) : Event :=
  { message := "Resolved table"
    fields := [("location", t.location.text), ("is_external", Event.bool t.metadata.isExternal),
      ("token_access", Event.bool !t.fileAccess.isStatic)] }

def loadTable (c : Catalog) (i : Identifier) : Operation Table :=
  (Operation.request (.getTable i) (Operation.orMissing (.tableNotFound i)) fun d =>
    match Location.parse d.path with
    | .error defect => (.error (.ofFault (defect.toFault d.path)), [])
    | .ok path =>
      let t := c.tableOf i path d
      (.ok t, [resolvedEvent t])).within
    { name := "load_table", fields := [("identifier", i.text)] }

/-- Loads a table that is addressed by a text. -/
def getTable (c : Catalog) (identifier : String) : Operation Table :=
  match Identifier.parse identifier with
  | .error e => .settled (.error (.ofCause (.malformedIdentifier e))) []
  | .ok i => c.loadTable i

/-- Refuses to make a table, whatever is given. -/
def createTable (_ : Catalog) (_identifier : String) (_schema : Schema) (_ignoreIfExists : Bool) :
    Operation Unit :=
  .settled (.error (.ofCause (.unsupportedOperation "create_table")))
    [{ message := "Rejecting create_table" }]

end Catalog

end TableCatalog
