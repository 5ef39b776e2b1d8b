/-!
# Failures of the metadata service

A failure carries a message, the kind of error as the service names it, a status code and details
that were added on the way. What it was caused by is either a plain text or another report, which
may have a cause of its own.

Its text shows the head and the details, then every error of the chain of causes. A cause that is
a report shows its own causes once more, so that the text of a chain repeats its later members.
-/

namespace TableCatalog

/-- What is said of one failure, without its causes. -/
structure Report where
  message : String
  /-- The kind of error, as the service names it. -/
  kind : String
  /-- The status code. -/
  code : UInt16
  /-- Details, the first one first. -/
  details : List String := []
  /-- The identity of this one report, if it came with one. A report that is made here draws a new
  one, of which nothing is said. -/
  id : Option String := none
  deriving DecidableEq, Repr

/-- The chain of causes of a failure. -/
inductive Origin where
  /-- No cause is known. -/
  | unknown
  /-- An error that is only known by its text. -/
  | plain (text : String)
  /-- Another report, with its causes. -/
  | report (r : Report) (origin : Origin)
  deriving DecidableEq, Repr

/-- A failure as the metadata service reports it. -/
structure Failure extends Report where
  origin : Origin := .unknown
  deriving DecidableEq, Repr

namespace Report

def head (r : Report) : String :=
  r.kind ++ " (" ++ toString r.code.toNat ++ "): " ++ r.message ++ "\n" ++
    (if r.details.isEmpty then ""
     else "Stack:\n" ++ String.join (r.details.map fun d => "  " ++ d ++ "\n"))

end Report

namespace Origin

def isKnown : Origin → Bool
  | .unknown => false
  | _ => true

mutual

/-- What follows the head of a report with this chain of causes. -/
def suffix : Origin → String
  | .unknown => ""
  | .plain text => "Caused by:\n" ++ "\t" ++ text ++ "\n"
  | .report r origin => "Caused by:\n" ++ "\t" ++ (r.head ++ suffix origin) ++ "\n" ++ lines origin

def lines : Origin → String
  | .unknown => ""
  | .plain text => "\t" ++ text ++ "\n"
  | .report r origin => "\t" ++ (r.head ++ suffix origin) ++ "\n" ++ lines origin

end

/-- The text of every error of the chain. -/
def texts : Origin → List String
  | .unknown => []
  | .plain text => [text]
  | .report r origin => (r.head ++ origin.suffix) :: origin.texts

end Origin

namespace Failure

def text (f : Failure) : String := f.head ++ f.origin.suffix

def isNotFound (f : Failure) : Bool := f.code == 404

def isConflict (f : Failure) : Bool := f.code == 409

def withDetails (f : Failure) (details : List String) : Failure :=
  { f with details := f.details ++ details }

def ofStatus (message kind : String) (code : UInt16) (origin : Origin) : Failure :=
  { message, kind, code, origin }

def notFound (message kind : String) (origin : Origin := .unknown) : Failure :=
  ofStatus message kind 404 origin

def conflict (message kind : String) (origin : Origin := .unknown) : Failure :=
  ofStatus message kind 409 origin

def forbidden (message kind : String) (origin : Origin := .unknown) : Failure :=
  ofStatus message kind 403 origin

def serviceUnavailable (message kind : String) (origin : Origin := .unknown) : Failure :=
  ofStatus message kind 503 origin

def blank : Failure := ofStatus "" "" 0 .unknown

instance : Inhabited Failure := ⟨blank⟩

def toOrigin (f : Failure) : Origin := .report f.toReport f.origin

end Failure

/-! ## Results of steps that can fail -/

section

variable {ε α β : Type} {x : Except ε α}

theorem bind_eq_ok_iff {f : α → Except ε β} {b : β} :
    (x >>= f) = .ok b ↔ ∃ a, x = .ok a ∧ f a = .ok b := by
  cases x <;> simp [bind, Except.bind]

theorem map_eq_ok_iff {f : α → β} {b : β} : x.map f = .ok b ↔ ∃ a, x = .ok a ∧ f a = b := by
  cases x <;> simp [Except.map]

/-- A result can be found by evaluation, without the failure that it might have been. -/
theorem eq_ok_of_toOption {a : α} (ok : x.toOption = some a) : x = .ok a := by
  cases x with
  | error e => cases ok
  | ok b => exact congrArg Except.ok (Option.some.inj ok)

end

end TableCatalog
