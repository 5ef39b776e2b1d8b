import TableCatalog.Decimal
import TableCatalog.Text.Basic
import TableCatalog.Text.Quoted
import TableCatalog.Time
import TableCatalog.Url.Parser

/-!
# The configuration of a catalog, and settings

The configuration is read from settings once, when a catalog is made, and does not change
afterwards.
-/

namespace TableCatalog

structure CatalogConfig where
  /-- Whether the files of a table are read with data tokens of the metadata service. -/
  dataTokenEnabled : Bool := false
  /-- The address of the metadata service, for those who transport messages to it. -/
  uri : Option Url := none
  warehouse : Option String := none
  /-- A data token that ends within so many milliseconds is fetched anew. -/
  tokenRefreshMarginMs : UInt64 := 3600000
  /-- The page size of a paged listing for which none is asked. -/
  pageSizeDefault : Option UInt32 := none
  deriving DecidableEq

namespace CatalogConfig

/-- A data token that ends within this span is fetched anew. -/
def tokenRefreshMargin (c : CatalogConfig) : Duration := .ofMillis c.tokenRefreshMarginMs.toNat

def diagnostic (c : CatalogConfig) : Diagnostic :=
  .record "CatalogConfig"
    [("data_token_enabled", .bool c.dataTokenEnabled),
      ("uri", .option (c.uri.map Url.diagnostic)), ("warehouse", .optionalQuoted c.warehouse),
      ("token_refresh_margin_ms", .int c.tokenRefreshMarginMs.toNat),
      ("page_size_default", .option (c.pageSizeDefault.map fun n => .int n.toNat))] true

end CatalogConfig

/-! ## Settings and what is read from them

A setting is the value of a configuration field before it is known to be of the right type. A text
also does for a truth value or a number: several words stand for true and false, and a text that
writes a number counts as that number. What a setting is called in a message depends on what it was
taken for.
-/

/-- A value that is given for a configuration field. Of a sequence and a mapping only the kind
matters, since no field takes one. -/
inductive Setting where
  | bool (b : Bool)
  /-- A number without a sign. -/
  | unsigned (n : Nat)
  /-- A number with a minus sign. -/
  | signed (n : Int)
  | real (b : Decimal.Binary)
  | character (c : Char)
  | text (s : String)
  | sequence
  | mapping
  deriving DecidableEq, Repr

namespace Setting

/-- Why a setting does not do for a field. -/
inductive Problem where
  | wrongType (found expected : String)
  | outOfRange (found expected : String)
  | invalidUrl (defect : Url.Defect) (given : String)
  deriving DecidableEq, Repr

def Problem.message : Problem → String
  | .wrongType found expected => "invalid type: found " ++ found ++ ", expected " ++ expected
  | .outOfRange found expected => "invalid value " ++ found ++ ", expected " ++ expected
  | .invalidUrl defect given => defect.message ++ ": " ++ Text.quoted given

/-- What messages call a setting. Integers beyond 64 bits have a name of their own. -/
def found : Setting → String
  | .bool b => "bool " ++ if b then "true" else "false"
  | .unsigned n =>
    if n < UInt64.size then "unsigned int `" ++ toString n ++ "`"
    else "integer `" ++ toString n ++ "` as u128"
  | .signed n =>
    if Int64.minValue.toInt ≤ n then "signed int `" ++ toString n ++ "`"
    else "integer `" ++ toString n ++ "` as i128"
  | .real b => "float `" ++ b.text ++ "`"
  | .character c => "string " ++ Text.quoted (String.singleton c)
  | .text s => "string " ++ Text.quoted s
  | .sequence => "sequence"
  | .mapping => "map"

/-! ### Numbers in texts -/

def natural? (cs : List Char) : Option Nat :=
  if cs ≠ [] ∧ cs.all Text.isDigit then some (Text.decimalValue cs) else none

def plusNatural? : List Char → Option Nat
  | '+' :: rest => natural? rest
  | cs => natural? cs

/-- A natural number below a bound, or a number with a minus sign that is no less than minus half
the bound. -/
def integer? (bound : Nat) (cs : List Char) : Option Setting :=
  match cs with
  | '-' :: rest => ((natural? rest).filter (2 * · ≤ bound)).map fun n => .signed (-(n : Int))
  | _ => ((plusNatural? cs).filter (· < bound)).map .unsigned

/-- The number that a text writes. With a point it is a fraction, which a short text gives with 24
bits only. -/
def number? (s : String) : Option Setting :=
  let cs := Text.trimWhere Text.isBlank s.toList
  if '.' ∈ cs then
    (Decimal.Numeral.parse? cs).map fun n =>
      .real (if (String.ofList cs).utf8ByteSize ≤ 7 then (n.round Decimal.single).widened
        else n.round Decimal.double)
  else integer? (Nat.pow 2 128) cs

/-! ### Reading a setting -/

def word? (s : String) : Option Bool :=
  let s := s.map Char.toLower
  if s ∈ ["true", "yes", "1", "on"] then some true
  else if s ∈ ["false", "no", "0", "off"] then some false
  else none

def toBool (s : Setting) : Except Problem Bool :=
  let refused := Except.error (.wrongType s.found "a boolean")
  match s with
  | .bool b => .ok b
  | .unsigned n => if n = 0 then .ok false else if n = 1 then .ok true else refused
  | .signed n => if n = 0 then .ok false else refused
  | .text t => (word? t).elim refused .ok
  | _ => refused

/-- A setting, or the number that it writes as a text. -/
def asNumber : Setting → Setting
  | .text s => (number? s).getD (.text s)
  | s => s

/-- A natural number of 32 or 64 bits. An integer of 64 bits that is out of range is of the right
type. -/
def toNatural (bits : Nat) (s : Setting) : Except Problem Nat :=
  let s := s.asNumber
  let expected := "u" ++ toString bits
  match s with
  | .unsigned n =>
    if n < Nat.pow 2 bits then .ok n
    else if n < UInt64.size then .error (.outOfRange s.found expected)
    else .error (.wrongType s.found expected)
  | .signed n =>
    if n = 0 then .ok 0
    else if Int64.minValue.toInt ≤ n then .error (.outOfRange s.found expected)
    else .error (.wrongType s.found expected)
  | _ => .error (.wrongType s.found expected)

/-- The text of a setting, which `expected` names in a message. -/
def textFor (expected : String) : Setting → Except Problem String
  | .text t => .ok t
  | .character c => .ok (String.singleton c)
  | s => .error (.wrongType s.found expected)

def toText (s : Setting) : Except Problem String := s.textFor "a string"

def toUrl (s : Setting) : Except Problem Url :=
  match s.textFor "a string representing an URL" with
  | .error p => .error p
  | .ok t =>
    match Url.parse t with
    | .ok u => .ok u
    | .error d => .error (.invalidUrl d t)

end Setting

end TableCatalog
