import TableCatalog.Proofs.Json.Record
import TableCatalog.Wire

/-!
# Parts of a message are read as they were written

For every kind of value that stands in a field: what its decoder makes of the written value. A field
that is left out when it holds nothing is read as nothing again.
-/

namespace TableCatalog.Wire

open Json (Decoder Field Slots entries present required_entries withDefault_entries)
open Json.Record (required withDefault)

/-! ## Texts and integers -/

theorem string_shown (s : String) : Decoder.string (Json.str s).shown = .ok s := rfl

theorem bool_shown (b : Bool) : Decoder.bool (Json.bool b).shown = .ok b := rfl

theorem shown_int {n : Int} (low : -Int.ofNat (Nat.pow 2 63) ≤ n)
    (high : n < Int.ofNat UInt64.size) : (Json.int n).shown = .integer n := by
  rw [Json.shown, Json.wholeNumber_toDigits low high]

/-- An integer is read within any bounds that fit into 64 bits. -/
theorem integer_shown {low high n : Int} (room : -Int.ofNat (Nat.pow 2 63) ≤ low)
    (bound : high < Int.ofNat UInt64.size) (above : low ≤ n) (below : n ≤ high) :
    Decoder.integer low high (Json.int n).shown = .ok n := by
  rw [shown_int (by omega) (by omega), Decoder.integer, if_pos ⟨above, below⟩]

theorem natural_shown {bound n : Nat} (fits : bound ≤ UInt64.size) (below : n < bound) :
    Decoder.natural bound (Json.int n).shown = .ok n := by
  have read : Decoder.integer 0 ((bound : Int) - 1) (Json.int n).shown = .ok (n : Int) :=
    integer_shown (by decide) (by simp only [Int.ofNat_eq_natCast]; omega) (by omega) (by omega)
  rw [Decoder.natural, Decoder.map, read]
  rfl

theorem int32_shown (n : Int32) : int32 (Json.int n.toInt).shown = .ok n := by
  have read := integer_shown (by decide) (by decide) n.minValue_le_toInt
    (Int32.toInt_le (x := n))
  rw [int32, Decoder.map, read]
  exact congrArg Except.ok (Int32.ofInt_toInt n)

theorem int64_shown (n : Int64) : int64 (Json.int n.toInt).shown = .ok n := by
  have read := integer_shown (by decide) (by decide) n.minValue_le_toInt
    (Int64.toInt_le (x := n))
  rw [int64, Decoder.map, read]
  exact congrArg Except.ok (Int64.ofInt_toInt n)

theorem uint16_shown (n : UInt16) : uint16 (Json.int n.toNat).shown = .ok n := by
  rw [uint16, Decoder.map, natural_shown (by decide) n.toNat_lt]
  exact congrArg Except.ok (UInt16.ofNat_toNat (x := n))

theorem uint32_shown (n : UInt32) : uint32 (Json.int n.toNat).shown = .ok n := by
  rw [uint32, Decoder.map, natural_shown (by decide) n.toNat_lt]
  exact congrArg Except.ok (UInt32.ofNat_toNat (x := n))

theorem uint64_shown (n : UInt64) : uint64 (Json.int n.toNat).shown = .ok n := by
  rw [uint64, Decoder.map, natural_shown (by decide) n.toNat_lt]
  exact congrArg Except.ok (UInt64.ofNat_toNat (x := n))

/-! ## Lists and maps -/

section

variable {α : Type} {d : Decoder α} {f : α → Json}

theorem items_shown (reads : ∀ a, d (f a).shown = .ok a) (as : List α) :
    Decoder.items d (Json.shownItems (as.map f)) .closed = .ok as := by
  induction as with
  | nil => rfl
  | cons a as ih =>
    rw [List.map_cons, Json.shownItems, Decoder.items, reads a]
    simp only [ih]

theorem list_shown (reads : ∀ a, d (f a).shown = .ok a) (as : List α) :
    Decoder.list d (Json.arr (as.map f)).shown = .ok as :=
  items_shown reads as

theorem strings_shown (l : List String) : strings (stringsJson l).shown = .ok l :=
  list_shown string_shown l

theorem entries_shown (reads : ∀ a, d (f a).shown = .ok a) (es : List (String × α)) :
    Decoder.entries d (Json.shownMembers (es.map fun e => (e.1, f e.2))) .closed = .ok es := by
  induction es with
  | nil => rfl
  | cons e es ih =>
    rw [List.map_cons, Json.shownMembers, Decoder.entries]
    simp only [Json.Quoted.ofString, reads e.2, ih]

theorem options_shown (o : Options) : options (optionsJson o).shown = .ok o := by
  have read := entries_shown string_shown o.toList
  show Except.map NameMap.ofList (Decoder.entries Decoder.string
    (Json.shownMembers (o.toList.map fun e => (e.1, .str e.2))) .closed) = .ok o
  rw [read]
  exact congrArg Except.ok o.ofList_toList

/-! ## Fields that may hold nothing -/

/-- A value that is written is not taken for `null` by a decoder that refuses `null`. -/
theorem nullable_shown {e : Json.ReadError} (strict : d .null = .error e) {v : Json} {a : α}
    (reads : d v.shown = .ok a) : Decoder.nullable d v.shown = .ok (some a) := by
  have full : v.shown ≠ .null := by
    intro same
    rw [same, strict] at reads
    cases reads
  rw [Decoder.nullable]
  · rw [reads]
    rfl
  · exact full

theorem optionalString_shown (s : String) : optionalString (Json.str s).shown = .ok (some s) := rfl

/-- A field that is left out if it holds nothing is read as it was written. -/
theorem withDefault_map {β : Type} {slots : Slots} (distinct : (slots.map Prod.fst).Nodup)
    (name : String) {g : β → Json} {o : Option β} (slot : (name, o.map g) ∈ slots)
    {d : Decoder (Option β)} (reads : ∀ b, d (g b).shown = .ok (some b)) :
    withDefault (entries (present slots)) name d none = .ok o := by
  cases o with
  | none => exact withDefault_entries distinct name slot (by simp) fun _ => rfl
  | some b => exact withDefault_entries distinct name slot (by simpa using reads b) (by simp)

/-- A field that is written in any case is read, whatever it holds if it is left out. -/
theorem withDefault_some {slots : Slots} (distinct : (slots.map Prod.fst).Nodup)
    (name : String) {v : Json} (slot : (name, some v) ∈ slots) {a : α}
    (reads : d v.shown = .ok a) (default : α) :
    withDefault (entries (present slots)) name d default = .ok a :=
  withDefault_entries distinct name slot (by simpa using reads) (by simp)

theorem memberIfSome_eq {β : Type} (name : String) (g : β → Json) (o : Option β) :
    memberIfSome name g o = present [(name, o.map g)] := by
  cases o <;> rfl

/-- A field that is written in any case is right if it can be read. -/
theorem holds_some {name : String} {v : Json} {a : α} (reads : d v.shown = .ok a)
    (omissible : Bool) : Field.Holds ⟨name, d.check, omissible⟩ (name, some v) :=
  ⟨rfl, by simpa using Json.check_eq_ok reads⟩

theorem holds_map {β : Type} {name : String} {g : β → Json} {d : Decoder (Option β)}
    (reads : ∀ b, d (g b).shown = .ok (some b)) (omissible : Bool) (o : Option β) :
    Field.Holds ⟨name, d.check, omissible⟩ (name, o.map g) := by
  cases o with
  | none => exact ⟨rfl, by simp⟩
  | some b => exact holds_some (reads b) omissible

/-- A field is written unless it holds nothing in the way that is supplied again. -/
theorem holds_unless {name : String} {v : Json} {a : α} (reads : d v.shown = .ok a)
    (omissible left : Bool) :
    Field.Holds ⟨name, d.check, omissible⟩ (name, if left then none else some v) := by
  cases left with
  | true => exact ⟨rfl, by simp⟩
  | false => exact holds_some reads omissible

theorem withDefault_unless {slots : Slots} (distinct : (slots.map Prod.fst).Nodup)
    (name : String) {v : Json} {left : Bool}
    (slot : (name, if left then none else some v) ∈ slots) {a default : α}
    (reads : d v.shown = .ok a) (supplied : left = true → default = a) :
    withDefault (entries (present slots)) name d default = .ok a := by
  refine withDefault_entries distinct name slot ?written ?left
  case written => cases left <;> simp [reads]
  case left => cases left <;> simp [supplied]

end

/-! ## Values that are kept for another record -/

theorem take_str (depth : Nat) (s : String) : (Json.str s).shown.take depth = none := rfl

theorem take_int64 (depth : Nat) (n : Int64) : (Json.int n.toInt).shown.take depth = none := by
  have low : -Int.ofNat (Nat.pow 2 63) ≤ n.toInt := n.minValue_le_toInt
  have high : n.toInt < Int.ofNat UInt64.size :=
    Int.lt_of_le_of_lt (Int64.toInt_le (x := n)) (by decide)
  rw [shown_int low high, Json.Reading.take]

theorem takeMembers_texts (depth : Nat) (es : List (String × String)) :
    Json.takeMembers depth (Json.shownMembers (es.map fun e => (e.1, .str e.2))) .closed =
      none := by
  induction es with
  | nil => rfl
  | cons e es ih =>
    rw [List.map_cons, Json.shownMembers, Json.takeMembers, ih, take_str]
    rfl

theorem take_optionsJson {depth : Nat} (room : depth ≠ 0) (o : Options) :
    (optionsJson o).shown.take depth = none := by
  show Json.Reading.take depth (.object (Json.shownMembers
    (o.toList.map fun e => (e.1, .str e.2))) .closed) = none
  rw [Json.Reading.take, if_neg room]
  exact takeMembers_texts (depth - 1) o.toList

end TableCatalog.Wire
