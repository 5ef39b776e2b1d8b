import TableCatalog.CatalogError
import TableCatalog.Text.Basic
import TableCatalog.Url.Parser

/-!
# Storage locations

The absolute storage path of a database or a table. A location that holds `://` is a URL, any other
one begins with a slash. It is kept as it is written: a URL is checked, and not normalized.

`Location` holds only such texts, so `Location.parse` accepts the text of every location.
-/

namespace TableCatalog

/-- What keeps a text from being a location. -/
inductive Location.Defect where
  | empty
  | blankAtEnd
  | invalidUrl (defect : Url.Defect)
  | notAbsolute
  deriving DecidableEq, Repr

namespace Location

def holdsAuthorityMark : List Char → Bool
  | [] => false
  | c :: cs => [':', '/', '/'].isPrefixOf (c :: cs) || holdsAuthorityMark cs

def defect? (s : String) : Option Defect :=
  if s.isEmpty then some .empty
  else if Text.trim s ≠ s then some .blankAtEnd
  else if holdsAuthorityMark s.toList then
    match Url.parse s with
    | .ok _ => none
    | .error d => some (.invalidUrl d)
  else if s.toList.head? = some '/' then none
  else some .notAbsolute

def Defect.message : Defect → String
  | .empty => "location is empty"
  | .blankAtEnd => "location has leading or trailing whitespace"
  | .invalidUrl _ => "location is not a valid URL"
  | .notAbsolute => "location without scheme must be an absolute path"

/-- What is said of a defect beyond its wording. -/
def Defect.details : Defect → List String
  | .invalidUrl d => [d.message]
  | _ => []

end Location

structure Location where
  text : String
  sound : Location.defect? text = none
  deriving DecidableEq

namespace Location

instance : ToString Location := ⟨text⟩

def parse (s : String) : Except Defect Location :=
  match h : defect? s with
  | none => .ok ⟨s, h⟩
  | some d => .error d

theorem parse_text (l : Location) : parse l.text = .ok l := by
  obtain ⟨s, h⟩ := l
  unfold parse
  split
  · rfl
  · next d hd => rw [h] at hd; cases hd

theorem text_of_parse_eq_ok {s : String} {l : Location} (h : parse s = .ok l) : l.text = s := by
  unfold parse at h
  split at h
  · cases h; rfl
  · cases h

def Defect.toFault (value : String) (d : Defect) : Fault :=
  { cause := .invalidLocation value d.message, details := d.details }

end Location

end TableCatalog
