import Mathlib.Data.List.Forall2
import TableCatalog.Proofs.Json.Members
import TableCatalog.Proofs.Json.Shown

/-!
# Written records

A record is written with those of its fields that hold something. If the values are right for the
fields of a decoder, it finds all of them, and each field by its name; what stands behind them for
another record is kept for it.
-/

namespace TableCatalog.Json

open Record (Found required withDefault roomForStrangers named checkAll checkAll_append checkAll_own
  checkAll_strangers members_eq_checkAll)

/-- The fields of a record, with what is written in each of them if it holds anything. -/
abbrev Slots := List (String × Option Json)

/-- The members that are written. -/
def present (slots : Slots) : List (String × Json) := slots.filterMap fun s => s.2.map (s.1, ·)

/-- Members as they are found. -/
def entries (ms : List (String × Json)) : List (String × Reading) :=
  ms.map fun m => (m.1, m.2.shown)

/-- What is written in a field is right for it. -/
def Field.Holds (field : Field) (slot : String × Option Json) : Prop :=
  field.name = slot.1 ∧ ∀ v ∈ slot.2, field.check v.shown = .ok ()

theorem check_eq_ok {α : Type} {d : Decoder α} {r : Reading} {a : α} (reads : d r = .ok a) :
    d.check r = .ok () := by
  rw [Decoder.check, Decoder.map, reads]
  rfl

section

variable {fields : List Field} {slots : Slots} {ms : List (String × Json)}

theorem mem_present_iff {m : String × Json} :
    m ∈ present slots ↔ (m.1, some m.2) ∈ slots := by
  simp only [present, List.mem_filterMap, Option.map_eq_some_iff]
  constructor
  · rintro ⟨⟨name, o⟩, mem, v, rfl, rfl⟩
    exact mem
  · intro mem
    exact ⟨_, mem, m.2, rfl, rfl⟩

theorem names_present_sublist (slots : Slots) :
    ((present slots).map Prod.fst).Sublist (slots.map Prod.fst) := by
  induction slots with
  | nil => exact .slnil
  | cons slot slots ih =>
    obtain ⟨name, o⟩ := slot
    cases o with
    | none => exact ih.cons name
    | some v => exact ih.cons_cons name

theorem names_entries (ms : List (String × Json)) :
    (entries ms).map Prod.fst = ms.map Prod.fst := by
  simp [entries]

/-! ## Fields by name -/

theorem lookup_of_mem {α : Type} {es : List (String × α)} (distinct : (es.map Prod.fst).Nodup)
    {e : String × α} (mem : e ∈ es) : es.lookup e.1 = some e.2 := by
  induction es with
  | nil => cases mem
  | cons first rest ih =>
    obtain ⟨absent, distinct⟩ := List.nodup_cons.mp distinct
    rcases List.mem_cons.mp mem with rfl | mem
    · exact List.lookup_cons_self
    · have other : (e.1 == first.1) = false :=
        beq_eq_false_iff_ne.mpr fun same => absent (same ▸ List.mem_map_of_mem mem)
      rw [List.lookup_cons, other]
      exact ih distinct mem

/-- A field is found by its name exactly if something was written in it. -/
theorem lookup_entries (distinct : (slots.map Prod.fst).Nodup) {name : String} {o : Option Json}
    (slot : (name, o) ∈ slots) : (entries (present slots)).lookup name = o.map shown := by
  have unique : ((entries (present slots)).map Prod.fst).Nodup := by
    rw [names_entries]
    exact distinct.sublist (names_present_sublist slots)
  cases o with
  | some v =>
    have mem : (name, v.shown) ∈ entries (present slots) :=
      List.mem_map.mpr ⟨(name, v), mem_present_iff.mpr slot, rfl⟩
    exact lookup_of_mem unique mem
  | none =>
    rw [Option.map_none, List.lookup_eq_none_iff]
    intro e mem
    obtain ⟨m, written, rfl⟩ := List.mem_map.mp mem
    refine bne_iff_ne.mpr fun same => ?_
    have twice := lookup_of_mem distinct (mem_present_iff.mp written)
    rw [← same, lookup_of_mem distinct slot] at twice
    cases twice

/-- A field that is written in any case is read. -/
theorem required_entries {α : Type} (distinct : (slots.map Prod.fst).Nodup) (name : String)
    {v : Json} (slot : (name, some v) ∈ slots) {d : Decoder α} {a : α} (reads : d v.shown = .ok a) :
    required (entries (present slots)) name d = .ok a := by
  rw [required, lookup_entries distinct slot]
  exact reads

/-- A field that can be left out is read, or has the value for which it is left out. -/
theorem withDefault_entries {α : Type} (distinct : (slots.map Prod.fst).Nodup) (name : String)
    {o : Option Json} (slot : (name, o) ∈ slots) {d : Decoder α} {a default : α}
    (reads : ∀ v ∈ o, d v.shown = .ok a) (left : o = none → default = a) :
    withDefault (entries (present slots)) name d default = .ok a := by
  rw [withDefault, lookup_entries distinct slot]
  cases o with
  | none => exact congrArg Except.ok (left rfl)
  | some v => exact reads v rfl

/-! ## Finding all fields -/

theorem names_eq (holds : List.Forall₂ Field.Holds fields slots) :
    fields.map Field.name = slots.map Prod.fst := by
  induction holds with
  | nil => rfl
  | cons holds _ ih => rw [List.map_cons, List.map_cons, holds.1, ih]

theorem find?_of_holds (holds : List.Forall₂ Field.Holds fields slots)
    (distinct : (fields.map Field.name).Nodup) {slot : String × Option Json} (mem : slot ∈ slots) :
    ∃ field, fields.find? (·.name = slot.1) = some field ∧ field.Holds slot := by
  induction holds with
  | nil => cases mem
  | @cons field first fields rest holds all ih =>
    obtain ⟨absent, distinct⟩ := List.nodup_cons.mp distinct
    rcases List.mem_cons.mp mem with rfl | mem
    · exact ⟨field, List.find?_cons_of_pos (by simp [holds.1]), holds⟩
    · obtain ⟨field', found, holds'⟩ := ih distinct mem
      have other : field.name ≠ slot.1 := by
        intro same
        rw [names_eq all, same] at absent
        exact absent (List.mem_map_of_mem mem)
      exact ⟨field', by rw [List.find?_cons_of_neg (by simp [other]), found], holds'⟩

theorem members_shown (strangers : Strangers) (before : Found) :
    Record.members fields strangers before (shownMembers ms) .closed =
      checkAll fields strangers before (entries ms) := by
  have shown : shownMembers ms = ms.map fun m => (.ofString m.1, m.2.shown) := by
    induction ms with
    | nil => rfl
    | cons m ms ih => rw [shownMembers, ih, List.map_cons]
  have taken : ∀ m ∈ shownMembers ms, ∃ k, m.1.taken = .ok k := by
    rw [shown]
    intro m mem
    obtain ⟨m', -, rfl⟩ := List.mem_map.mp mem
    exact ⟨m'.1, rfl⟩
  rw [members_eq_checkAll taken, shown]
  simp [named, entries, Quoted.ofString, Except.toOption, List.filterMap_map]

theorem checkAll_present (holds : List.Forall₂ Field.Holds fields slots)
    (distinct : (fields.map Field.name).Nodup) (strangers : Strangers) :
    checkAll fields strangers ⟨[], []⟩ (entries (present slots)) =
      .ok ⟨entries (present slots), []⟩ := by
  have unique : ((entries (present slots)).map Prod.fst).Nodup := by
    rw [names_entries]
    exact (names_eq holds ▸ distinct).sublist (names_present_sublist slots)
  refine checkAll_own ?_ unique (by simp)
  intro e mem
  obtain ⟨m, written, rfl⟩ := List.mem_map.mp mem
  have slot := mem_present_iff.mp written
  obtain ⟨field, found, -, checked⟩ := find?_of_holds holds distinct slot
  exact ⟨field, found, checked m.2 rfl⟩

/-- **Everything that was written is found.** -/
theorem find_present (holds : List.Forall₂ Field.Holds fields slots)
    (distinct : (fields.map Field.name).Nodup) :
    Record.find fields (Json.obj (present slots)).shown = .ok (entries (present slots)) := by
  rw [shown, Record.find, members_shown, checkAll_present holds distinct]
  rfl

/-- **Everything that was written is found**, and what stands behind it is kept. -/
theorem findWithStrangers_present (holds : List.Forall₂ Field.Holds fields slots)
    (distinct : (fields.map Field.name).Nodup)
    (strange : ∀ m ∈ ms, fields.find? (·.name = m.1) = none ∧
      m.2.shown.take roomForStrangers = none) :
    Record.findWithStrangers fields (Json.obj (present slots ++ ms)).shown =
      .ok ⟨entries (present slots), entries ms⟩ := by
  have split : entries (present slots ++ ms) = entries (present slots) ++ entries ms :=
    List.map_append
  have behind : ∀ e ∈ entries ms, fields.find? (·.name = e.1) = none ∧
      e.2.take roomForStrangers = none := by
    intro e mem
    obtain ⟨m, written, rfl⟩ := List.mem_map.mp mem
    exact strange m written
  rw [shown, Record.findWithStrangers, members_shown, split, checkAll_append,
    checkAll_present holds distinct]
  exact checkAll_strangers behind _

end

end TableCatalog.Json
