import TableCatalog.Json.Parser
import TableCatalog.Json.Value
import TableCatalog.NameMap

/-!
# Decoders

A decoder looks a value up in the reading of a text, from left to right. Records are written as
objects or as arrays of their fields in order; in an object unknown members are skipped and no
known one may occur twice.

A record is decoded in two steps. `Record.members` checks the members in the order of the text, each
known one with the check of its field, and gives back what was found; then each field is decoded
by itself, when only a missing field can still be refused.
-/

namespace TableCatalog.Json

/-- Looks a value up in a reading. -/
abbrev Decoder (α : Type) := Reading → Except ReadError α

/-- A fault as the outcome of a decoder. -/
def refuse {α : Type} : Option Fault → α → Except ReadError α
  | some fault, _ => .error fault.toReadError
  | none, a => .ok a

namespace Decoder

variable {α β : Type}

def map (f : α → β) (d : Decoder α) : Decoder β := fun r => (d r).map f

/-- Puts a function that can fail behind a decoder. A value it refuses is of the wrong kind. -/
def filterMap (f : α → Option β) (d : Decoder α) : Decoder β := fun r =>
  match d r with
  | .ok a => match f a with
    | some b => .ok b
    | none => .error .mismatched
  | .error e => .error e

def bool : Decoder Bool
  | .bool b => .ok b
  | r => .error r.mismatch

def string : Decoder String
  | .quoted q => match q.taken with
    | .ok s => .ok s
    | .error fault => .error fault.toReadError
  | r => .error r.mismatch

def integer (low high : Int) : Decoder Int
  | .integer n => if low ≤ n ∧ n ≤ high then .ok n else .error .mismatched
  | r => .error r.mismatch

def natural (bound : Nat) : Decoder Nat := (integer 0 ((bound : Int) - 1)).map Int.toNat

def nullable (d : Decoder α) : Decoder (Option α)
  | .null => .ok none
  | r => (d r).map some

def items (d : Decoder α) : List Reading → Tail → Except ReadError (List α)
  | [], .closed => .ok []
  | [], .cut fault => .error fault.toReadError
  | r :: rs, tail =>
    match d r with
    | .error e => .error e
    | .ok a => match items d rs tail with
      | .error e => .error e
      | .ok as => .ok (a :: as)

def list (d : Decoder α) : Decoder (List α)
  | .array rs tail => items d rs tail
  | r => .error r.mismatch

def entries (d : Decoder α) : List (Quoted × Reading) → Tail → Except ReadError (List (String × α))
  | [], .closed => .ok []
  | [], .cut fault => .error fault.toReadError
  | (q, r) :: ms, tail =>
    match q.taken with
    | .error fault => .error fault.toReadError
    | .ok k => match d r with
      | .error e => .error e
      | .ok a => match entries d ms tail with
        | .error e => .error e
        | .ok es => .ok ((k, a) :: es)

/-- An object as a map. Of several members of one name the last one counts. -/
def nameMap (d : Decoder α) : Decoder (NameMap α)
  | .object ms tail => (entries d ms tail).map NameMap.ofList
  | r => .error r.mismatch

def check (d : Decoder α) : Decoder Unit := d.map fun _ => ()

end Decoder

/-- A field of a record, for the pass from left to right. -/
structure Field where
  name : String
  /-- Whether a value can stand in the field. -/
  check : Decoder Unit
  /-- Whether the field can be left out at the end of an array. -/
  omissible : Bool

/-- What is done with a member that is no field of the record. -/
inductive Strangers where
  /-- It is skipped. -/
  | skipped
  /-- It is taken and kept, for a record inside the record. -/
  | kept
  deriving DecidableEq, Repr

namespace Record

/-- The members found so far that are fields of a record, and those that are not. -/
structure Found where
  fields : List (String × Reading)
  strangers : List (String × Reading)

/-- The levels of arrays and objects that fit into a record that is itself no part of another
value. -/
def roomForStrangers : Nat := 126

/-- Checks one member after those that were found before. -/
def member (fields : List Field) (strangers : Strangers) (found : Found) (k : String)
    (r : Reading) : Except ReadError Found :=
  match fields.find? (·.name = k) with
  | some field =>
    if found.fields.any (·.1 = k) then .error .mismatched
    else match field.check r with
      | .error e => .error e
      | .ok _ => .ok { found with fields := found.fields ++ [(k, r)] }
  | none =>
    match strangers with
    | .skipped => refuse r.skip found
    | .kept => refuse (r.take roomForStrangers)
        { found with strangers := found.strangers ++ [(k, r)] }

/-- Checks the members of an object from left to right. -/
def members (fields : List Field) (strangers : Strangers) :
    Found → List (Quoted × Reading) → Tail → Except ReadError Found
  | found, [], .closed => .ok found
  | _, [], .cut fault => .error fault.toReadError
  | found, (q, r) :: ms, tail =>
    match q.taken with
    | .error fault => .error fault.toReadError
    | .ok k => match member fields strangers found k r with
      | .error e => .error e
      | .ok found => members fields strangers found ms tail

def items : List Field → List Reading → Tail → Except ReadError (List (String × Reading))
  | [], [], .closed => .ok []
  | [], [], .cut fault => .error fault.toReadError
  | [], _ :: _, _ => .error .malformed
  | field :: fields, [], tail =>
    match tail with
    | .cut fault => .error fault.toReadError
    | .closed => if field.omissible then items fields [] .closed else .error .mismatched
  | field :: fields, r :: rs, tail =>
    match field.check r with
    | .error e => .error e
    | .ok _ => match items fields rs tail with
      | .error e => .error e
      | .ok found => .ok ((field.name, r) :: found)

def find (fields : List Field) : Decoder (List (String × Reading))
  | .object ms tail => (members fields .skipped ⟨[], []⟩ ms tail).map Found.fields
  | .array rs tail => items fields rs tail
  | r => .error r.mismatch

/-- The fields and the other members of a record that is written as an object. -/
def findWithStrangers (fields : List Field) : Decoder Found
  | .object ms tail => members fields .kept ⟨[], []⟩ ms tail
  | r => .error r.mismatch

def required {α : Type} (found : List (String × Reading)) (name : String) (d : Decoder α) :
    Except ReadError α :=
  match found.lookup name with
  | some r => d r
  | none => .error .mismatched

/-- A field that has a value of its own when it is left out. -/
def withDefault {α : Type} (found : List (String × Reading)) (name : String) (d : Decoder α)
    (default : α) : Except ReadError α :=
  match found.lookup name with
  | some r => d r
  | none => .ok default

end Record

/-- Reads a text that holds one value and blanks around it. -/
def read {α : Type} (d : Decoder α) (s : String) : Except ReadError α :=
  let (r, rest) := reading s.toList
  match d r with
  | .error e => .error e
  | .ok a =>
    match rest with
    | some rest => if (skipBlanks rest).isEmpty then .ok a else .error .malformed
    | none => .ok a

end TableCatalog.Json
