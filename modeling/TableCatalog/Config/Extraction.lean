import TableCatalog.CatalogError
import TableCatalog.Config.Basic
import TableCatalog.Config.Environment
import TableCatalog.Options

/-!
# Reading the configuration from options and environment

Each field is taken from the environment, else from the options, else from the configuration that is
built in. The key of an option may be spelled in any letter case, with hyphens or full stops for the
underscores and with blanks around it; of several spellings the last one in the order of the keys
counts. The fields are checked in the order of their names, and the first bad one is reported.
-/

namespace TableCatalog

namespace CatalogConfig

inductive Field where
  | dataTokenEnabled
  | pageSizeDefault
  | tokenRefreshMarginMs
  | uri
  | warehouse
  deriving DecidableEq, Repr

def Field.name : Field → String
  | .dataTokenEnabled => "data_token_enabled"
  | .pageSizeDefault => "page_size_default"
  | .tokenRefreshMarginMs => "token_refresh_margin_ms"
  | .uri => "uri"
  | .warehouse => "warehouse"

/-- A character of a key in the spelling of field names. Beyond ASCII, the Kelvin sign is the one
character whose lower case is an ASCII letter. -/
def foldChar (c : Char) : Char :=
  if c = '-' ∨ c = '.' then '_' else if c.toNat = 0x212A then 'k' else c.toLower

/-- A key in the spelling of field names, as far as that can make it the name of a field. -/
def foldKey (key : String) : String := (Text.trim key).map foldChar

def optionFor? (options : Options) (f : Field) : Option String :=
  ((options.toList.filter fun (k, _) => foldKey k = f.name).getLast?).map (·.2)

inductive Source where
  | options
  | environment
  deriving DecidableEq, Repr

/-- What a message calls the setting of a field. -/
def Source.key (f : Field) : Source → String
  | .options => "default." ++ f.name
  | .environment => f.name.map Char.toUpper

/-- The setting for a field and where it comes from, unless the built-in value holds. -/
def settingFor? (options : Options) (env : Environment) (f : Field) :
    Option (Source × Setting) :=
  match Environment.setting? env f.name with
  | some s => some (.environment, s)
  | none => (optionFor? options f).map fun s => (.options, .text s)

/-- A field that has no sound value. -/
structure BadField where
  field : Field
  source : Source
  problem : Setting.Problem
  deriving DecidableEq

def BadField.message (b : BadField) : String :=
  b.problem.message ++ " for key " ++ Text.quoted (b.source.key b.field)

def BadField.toFault (b : BadField) : Fault := { cause := .invalidConfig b.message }

/-- The value of a field: what its setting reads as, or the built-in value. -/
def value {α : Type} (options : Options) (env : Environment) (f : Field)
    (read : Setting → Except Setting.Problem α) (builtIn : α) : Except BadField α :=
  match settingFor? options env f with
  | none => .ok builtIn
  | some (source, s) =>
    match read s with
    | .ok a => .ok a
    | .error problem => .error ⟨f, source, problem⟩

def extract (options : Options) (env : Environment) : Except BadField CatalogConfig := do
  let builtIn : CatalogConfig := {}
  let dataTokenEnabled ←
    value options env .dataTokenEnabled Setting.toBool builtIn.dataTokenEnabled
  let pageSizeDefault ← value options env .pageSizeDefault
    (fun s => (s.toNatural 32).map (some ∘ UInt32.ofNat)) builtIn.pageSizeDefault
  let tokenRefreshMarginMs ← value options env .tokenRefreshMarginMs
    (fun s => (s.toNatural 64).map UInt64.ofNat) builtIn.tokenRefreshMarginMs
  let uri ← value options env .uri (fun s => s.toUrl.map some) builtIn.uri
  let warehouse ← value options env .warehouse (fun s => s.toText.map some) builtIn.warehouse
  return { dataTokenEnabled, uri, warehouse, tokenRefreshMarginMs, pageSizeDefault }

end CatalogConfig

end TableCatalog
