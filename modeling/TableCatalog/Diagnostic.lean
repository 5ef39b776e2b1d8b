import TableCatalog.NameMap
import TableCatalog.Text.Alphanumeric
import TableCatalog.Text.Quoted

/-!
# Diagnostic texts and log events

How a value is shown to a developer: words and numbers as they are, texts in quotes, lists in
brackets, maps in braces, a record under its name with the names of its fields, and two full stops
for fields that are not shown.

What is secret is shown `redacted`: every letter and every digit of its diagnostic text is masked,
so that only its shape remains.
-/

namespace TableCatalog

/-- A value as it is shown to a developer. -/
inductive Diagnostic where
  /-- A word or a number. -/
  | word (text : String)
  /-- A text in quotes. -/
  | quoted (text : String)
  | list (items : List Diagnostic)
  | map (entries : List (String × Diagnostic))
  /-- A name with values in parentheses. -/
  | wrapped (name : String) (value : Diagnostic)
  /-- A name with fields in braces. -/
  | record (name : String) (fields : List (String × Diagnostic)) (complete : Bool)

namespace Diagnostic

mutual

def text : Diagnostic → String
  | .word s => s
  | .quoted s => Text.quoted s
  | .list items => "[" ++ ", ".intercalate (texts items) ++ "]"
  | .map entries => "\x7b" ++ ", ".intercalate (entryTexts entries) ++ "\x7d"
  | .wrapped name value => name ++ "(" ++ text value ++ ")"
  | .record name fields complete =>
    name ++ " \x7b " ++ ", ".intercalate (fieldTexts fields ++ if complete then [] else [".."]) ++
      " \x7d"

def texts : List Diagnostic → List String
  | [] => []
  | d :: ds => text d :: texts ds

def entryTexts : List (String × Diagnostic) → List String
  | [] => []
  | (k, d) :: es => (Text.quoted k ++ ": " ++ text d) :: entryTexts es

def fieldTexts : List (String × Diagnostic) → List String
  | [] => []
  | (k, d) :: fs => (k ++ ": " ++ text d) :: fieldTexts fs

end

def bool (b : Bool) : Diagnostic := .word (if b then "true" else "false")

def int (n : Int) : Diagnostic := .word (toString n)

def option : Option Diagnostic → Diagnostic
  | some d => .wrapped "Some" d
  | none => .word "None"

def optionalQuoted (s : Option String) : Diagnostic := option (s.map .quoted)

def options (m : NameMap String) : Diagnostic := .map (m.toList.map fun (k, v) => (k, .quoted v))

def strings (l : List String) : Diagnostic := .list (l.map .quoted)

def mask (s : String) : String :=
  String.ofList (s.toList.map fun c => if Text.isAlphanumeric c then '*' else c)

/-- Only the shape of a value. -/
def redacted (d : Diagnostic) : Diagnostic := .word (mask d.text)

end Diagnostic

/-! ## Log events

What a catalog tells of its work while it goes on. An event has a level, a message and fields, all
of whose values are texts, and stands in spans that name the operation it belongs to.
-/

inductive Level where
  | debug
  | info
  deriving DecidableEq, Repr

/-- An operation during which events are emitted. -/
structure Span where
  name : String
  fields : List (String × String) := []
  deriving DecidableEq, Repr

structure Event where
  level : Level := .debug
  message : String
  fields : List (String × String) := []
  /-- The spans around the event, the outermost one first. -/
  spans : List Span := []
  deriving DecidableEq, Repr

/-- An event inside one more span, which lies around those it has. -/
def Event.within (span : Span) (e : Event) : Event := { e with spans := span :: e.spans }

def Event.bool (b : Bool) : String := if b then "true" else "false"

end TableCatalog
