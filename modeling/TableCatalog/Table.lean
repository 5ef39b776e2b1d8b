import TableCatalog.Config.Basic
import TableCatalog.Description
import TableCatalog.Diagnostic
import TableCatalog.Location
import TableCatalog.Options

/-!
# Tables and the access to their files

Files are read either with what the embedding application is configured for, or with data tokens
that are bound to one table and its location. Which of the two is used depends on the configuration
of the catalog alone, and choosing asks the metadata service for nothing.
-/

namespace TableCatalog

def Identifier.diagnostic (i : Identifier) : Diagnostic :=
  .record "Identifier"
    [("database", .quoted i.database), ("table", .quoted i.table),
      ("branch", .optionalQuoted i.branch)] true

def Location.diagnostic (l : Location) : Diagnostic := .wrapped "Location" (.quoted l.text)

def Duration.diagnostic (d : Duration) : Diagnostic := .word d.text

/-- What access by data tokens is bound to. -/
structure TokenAccess where
  identifier : Identifier
  path : Location
  /-- The options of the catalog, below those of each token. -/
  catalogOptions : Options
  refreshMargin : Duration
  deriving DecidableEq

/-- Access by data tokens for diagnostics. The options of the catalog are not shown. -/
def TokenAccess.diagnostic (a : TokenAccess) : Diagnostic :=
  .record "TokenFileAccessor"
    [("identifier", a.identifier.diagnostic), ("path", a.path.diagnostic),
      ("refresh_margin", a.refreshMargin.diagnostic)] false

inductive FileAccess where
  /-- With what the embedding application is configured for. -/
  | static
  /-- With data tokens. -/
  | token (access : TokenAccess)
  deriving DecidableEq

namespace FileAccess

def isStatic : FileAccess → Bool
  | .static => true
  | .token _ => false

/-- What data tokens are bound to, if they are used. -/
def tokenAccess? : FileAccess → Option TokenAccess
  | .static => none
  | .token access => some access

def diagnostic : FileAccess → Diagnostic
  | .static => .word "Static"
  | .token access => .wrapped "Token" access.diagnostic

end FileAccess

/-- How a catalog chooses file access. -/
structure FileAccessResolver where
  dataTokenEnabled : Bool
  refreshMargin : Duration
  options : Options
  deriving DecidableEq

namespace FileAccessResolver

/-- Binds file access to a table and its location. -/
def resolve (r : FileAccessResolver) (identifier : Identifier) (path : Location) : FileAccess :=
  if r.dataTokenEnabled then .token ⟨identifier, path, r.options, r.refreshMargin⟩ else .static

/-- A resolver for diagnostics. Its options are not shown. -/
def diagnostic (r : FileAccessResolver) : Diagnostic :=
  .record "FileAccessResolver"
    [("data_token_enabled", .bool r.dataTokenEnabled),
      ("refresh_margin", r.refreshMargin.diagnostic)] false

end FileAccessResolver

/-! ## Databases and tables

The description of a database or of a table is folded into options: the location of a database, the
path of a table, the branch through which it was addressed and the audit fields are all found there.
-/

structure Database where
  name : String
  options : Options
  deriving DecidableEq

def Database.location (d : Database) : Option String := d.options.get? Options.locationKey

structure TableMetadata where
  /-- The schema, with resolved options. -/
  schema : Schema
  isExternal : Bool
  uuid : String
  deriving DecidableEq

namespace TableMetadata

def options (m : TableMetadata) : Options := m.schema.options

def path (m : TableMetadata) : Option String := m.options.get? Options.pathKey

def branch (m : TableMetadata) : Option String := m.options.get? Options.branchKey

end TableMetadata

structure Table where
  identifier : Identifier
  metadata : TableMetadata
  location : Location
  fileAccess : FileAccess
  deriving DecidableEq

def Table.branch (t : Table) : Option String := t.identifier.branch

/-! ### Diagnostics -/

def DataField.diagnostic (f : DataField) : Diagnostic :=
  .record "DataField"
    [("id", .int f.id.toInt), ("name", .quoted f.name), ("data_type", .quoted f.dataType),
      ("description", .optionalQuoted f.description)] true

def Schema.diagnostic (s : Schema) : Diagnostic :=
  .record "Schema"
    [("fields", .list (s.fields.map DataField.diagnostic)),
      ("partition_keys", .strings s.partitionKeys), ("primary_keys", .strings s.primaryKeys),
      ("options", .options s.options), ("comment", .optionalQuoted s.comment)] true

def TableMetadata.diagnostic (m : TableMetadata) : Diagnostic :=
  .record "TableMetadata"
    [("schema", m.schema.diagnostic), ("is_external", .bool m.isExternal),
      ("uuid", .quoted m.uuid)] true

def Table.diagnostic (t : Table) : Diagnostic :=
  .record "Table"
    [("identifier", t.identifier.diagnostic), ("metadata", t.metadata.diagnostic),
      ("location", t.location.diagnostic), ("file_access", t.fileAccess.diagnostic)] true

end TableCatalog
