import TableCatalog.Options

/-!
# What the metadata service tells

The replies of the metadata service: the description of a database and of a table, each with its
audit fields, the data token that grants access to the files of a table, the configuration that the
service has for its clients, and the pages of a listing.
-/

namespace TableCatalog

/-! ## Table schemas

The columns, keys and declared options of a table. A schema is never changed once it was fetched:
`Schema.withOptions` makes a new one.
-/

structure DataField where
  id : Int32
  name : String
  /-- The logical type, such as `STRING NOT NULL` or `DECIMAL(10, 2)`. -/
  dataType : String
  description : Option String
  deriving DecidableEq

structure Schema where
  fields : List DataField := []
  partitionKeys : List String := []
  primaryKeys : List String := []
  options : Options := NameMap.empty
  comment : Option String := none
  deriving DecidableEq

def Schema.withOptions (s : Schema) (options : Options) : Schema := { s with options }

/-! ## Pages of a listing

A long listing is delivered in pages, which need not be of one size. A page that is not the last
one carries a token with which the next page is asked for.
-/

structure Page (α : Type) where
  elements : List α := []
  /-- The token of the next page, if there is one. -/
  next : Option String := none
  deriving DecidableEq, Repr

def Page.hasMore {α : Type} (p : Page α) : Bool := p.next.isSome

/-! ## Descriptions -/

structure DatabaseDescription where
  id : String
  name : String
  /-- The storage location, as the service reports it. -/
  location : String
  options : Options := NameMap.empty
  audit : Audit := {}
  deriving DecidableEq

structure TableDescription where
  id : String
  /-- The name of the table within its database. -/
  name : String
  /-- The absolute storage path. -/
  path : String
  isExternal : Bool := false
  schemaId : Int64 := 0
  schema : Schema
  audit : Audit := {}
  deriving DecidableEq

/-- A data token for the files of one table, and when it ends, in milliseconds since 1970. -/
structure TokenGrant where
  token : Options
  expiresAtMillis : Int64
  deriving DecidableEq

structure ServerConfig where
  /-- Options below those of the client. -/
  defaults : Options := NameMap.empty
  /-- Options above those of the client. -/
  overrides : Options := NameMap.empty
  deriving DecidableEq

/-- The options of a client between the defaults and the overrides of the service. -/
def ServerConfig.merge (c : ServerConfig) (client : Options) : Options :=
  (c.defaults.overlay client).overlay c.overrides

end TableCatalog
