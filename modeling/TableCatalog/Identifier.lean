
/-!
# Table identifiers

A table is addressed as `database.table`, or as `database.table.branch` through one of its
branches. A segment is any text that is not empty and holds no full stop; nothing is trimmed and
letter case counts. `Identifier` holds only such segments, so that its text reads back.

Identifiers are ordered by database, then table, then branch, and a table itself comes before its
branches.
-/

namespace TableCatalog

/-- A name that can stand between the full stops of an identifier. -/
def IsSegment (s : String) : Prop := s ≠ "" ∧ '.' ∉ s.toList

instance (s : String) : Decidable (IsSegment s) :=
  inferInstanceAs (Decidable (_ ∧ _))

/-- A table, or one of its branches. -/
structure Identifier where
  database : String
  table : String
  branch : Option String
  database_ok : IsSegment database
  table_ok : IsSegment table
  branch_ok : ∀ b ∈ branch, IsSegment b
  deriving DecidableEq

/-- What keeps a text or a list of segments from being an identifier. -/
inductive Identifier.Defect where
  /-- The text has neither two nor three segments. -/
  | segmentCount
  /-- A segment is empty. -/
  | emptySegment
  /-- A segment that was given by itself holds a full stop. -/
  | separatorInSegment
  deriving DecidableEq, Repr

def Identifier.Defect.message : Identifier.Defect → String
  | .segmentCount => "expected `database.table` or `database.table.branch`"
  | .emptySegment => "empty name segment"
  | .separatorInSegment => "name segments must not contain '.'"

/-- A refused identifier: the text, or the segments joined by full stops, and the first defect. -/
structure MalformedIdentifier where
  input : String
  defect : Identifier.Defect
  deriving DecidableEq, Repr

namespace Identifier

def segmentDefect? (s : String) : Option Defect :=
  if s = "" then some .emptySegment
  else if '.' ∈ s.toList then some .separatorInSegment
  else none

theorem isSegment_of_segmentDefect?_eq_none {s : String} (h : segmentDefect? s = none) :
    IsSegment s := by
  unfold segmentDefect? at h
  split at h
  · simp at h
  · split at h
    · simp at h
    · exact ⟨by assumption, by assumption⟩

def joined (database table : String) : Option String → String
  | none => database ++ "." ++ table
  | some branch => database ++ "." ++ table ++ "." ++ branch

/-- Checks the segments from left to right and builds the identifier. -/
def build (database table : String) (branch : Option String) :
    Except MalformedIdentifier Identifier :=
  match hd : segmentDefect? database with
  | some d => .error ⟨joined database table branch, d⟩
  | none =>
    match ht : segmentDefect? table with
    | some d => .error ⟨joined database table branch, d⟩
    | none =>
      match branch with
      | none =>
        .ok ⟨database, table, none, isSegment_of_segmentDefect?_eq_none hd,
          isSegment_of_segmentDefect?_eq_none ht, by simp⟩
      | some b =>
        match hb : segmentDefect? b with
        | some d => .error ⟨joined database table (some b), d⟩
        | none =>
          .ok ⟨database, table, some b, isSegment_of_segmentDefect?_eq_none hd,
            isSegment_of_segmentDefect?_eq_none ht, by
              intro b' hb'
              cases hb'
              exact isSegment_of_segmentDefect?_eq_none hb⟩

/-- Reads `database.table` or `database.table.branch`. -/
def parse (s : String) : Except MalformedIdentifier Identifier :=
  match s.toList.splitOn '.' with
  | [d, t] => build (String.ofList d) (String.ofList t) none
  | [d, t, b] => build (String.ofList d) (String.ofList t) (some (String.ofList b))
  | _ => .error ⟨s, .segmentCount⟩

def text (i : Identifier) : String := joined i.database i.table i.branch

instance : ToString Identifier := ⟨text⟩

/-- The order of identifiers: by database, then table, then branch, no branch first. -/
def compare (i j : Identifier) : Ordering :=
  (Ord.compare i.database j.database).then <|
    (Ord.compare i.table j.table).then <|
      match i.branch, j.branch with
      | none, none => .eq
      | none, some _ => .lt
      | some _, none => .gt
      | some b, some b' => Ord.compare b b'

instance : Ord Identifier := ⟨compare⟩

/-- The identifiers in increasing order, each once. -/
def sortDistinct (l : List Identifier) : List Identifier :=
  (l.mergeSort fun i j => (compare i j).isLE).eraseReps

end Identifier

def MalformedIdentifier.message (e : MalformedIdentifier) : String :=
  "Malformed identifier `" ++ e.input ++ "`: " ++ e.defect.message

end TableCatalog
