import TableCatalog.Proofs.Json.Consistency
import TableCatalog.Proofs.Json.Members

/-!
# What is accepted can be skipped

A reader who skips a value minds less than one who takes it, and less than a decoder that looks for
a value of some kind: neither the range of a number nor the depth of the nesting is anything to it.
So a decoder that has no use for a member gets past it wherever another decoder accepts it. The only
thing that could be harder to skip than to take is a text in quotes, and what a text shows is
`Consistent` there.
-/

namespace TableCatalog.Json

/-! ## Readers of whole rows -/

section

variable {depth : Nat} {tail : Tail} {r : Reading}

theorem skipItems_eq_none_iff {rs : List Reading} :
    skipItems rs tail = none ↔ tail = .closed ∧ ∀ r ∈ rs, r.skip = none := by
  induction rs with
  | nil => cases tail <;> simp [skipItems]
  | cons r rs ih => simp [skipItems, ih, and_left_comm]

theorem skipMembers_eq_none_iff {ms : List (Quoted × Reading)} :
    skipMembers ms tail = none ↔
      tail = .closed ∧ ∀ m ∈ ms, m.1.skipped = none ∧ m.2.skip = none := by
  induction ms with
  | nil => cases tail <;> simp [skipMembers]
  | cons m ms ih => simp [skipMembers, ih, and_assoc, and_left_comm]

theorem takeItems_eq_none_iff {rs : List Reading} :
    takeItems depth rs tail = none ↔ tail = .closed ∧ ∀ r ∈ rs, r.take depth = none := by
  induction rs with
  | nil => cases tail <;> simp [takeItems]
  | cons r rs ih => simp [takeItems, ih, and_left_comm]

theorem takeMembers_eq_none_iff {ms : List (Quoted × Reading)} :
    takeMembers depth ms tail = none ↔
      tail = .closed ∧ ∀ m ∈ ms, m.1.takenFault = none ∧ m.2.take depth = none := by
  induction ms with
  | nil => cases tail <;> simp [takeMembers]
  | cons m ms ih => simp [takeMembers, ih, and_assoc, and_left_comm]

theorem Quoted.Consistent.skipped_of_takenFault {q : Quoted} (consistent : q.Consistent)
    (taken : q.takenFault = none) : q.skipped = none := by
  unfold Quoted.takenFault at taken
  split at taken
  · next s read => exact consistent s read
  · cases taken

/-- A value that is taken can be skipped. -/
theorem Reading.Consistent.skip_of_take (consistent : r.Consistent)
    (taken : r.take depth = none) : r.skip = none := by
  induction consistent generalizing depth with
  | null | bool | integer | real => rfl
  | unfinished => cases taken
  | broken fault => cases taken
  | quoted consistent => exact consistent.skipped_of_takenFault taken
  | array _ ih =>
    rw [Reading.take] at taken
    split_ifs at taken
    obtain ⟨closed, taken⟩ := takeItems_eq_none_iff.mp taken
    exact skipItems_eq_none_iff.mpr ⟨closed, fun r mem => ih r mem (taken r mem)⟩
  | object keys _ ih =>
    rw [Reading.take] at taken
    split_ifs at taken
    obtain ⟨closed, taken⟩ := takeMembers_eq_none_iff.mp taken
    refine skipMembers_eq_none_iff.mpr ⟨closed, fun m mem => ⟨?_, ih m mem (taken m mem).2⟩⟩
    exact (keys m mem).skipped_of_takenFault (taken m mem).1

end

/-! ## Decoders -/

/-- What the decoder accepts can be skipped. -/
def Decoder.Skippable {α : Type} (d : Decoder α) : Prop :=
  ∀ r a, r.Consistent → d r = .ok a → r.skip = none

namespace Decoder

variable {α β : Type} {d : Decoder α}

theorem skippable_bool : bool.Skippable := by
  intro r b _ read
  unfold bool at read
  split at read
  · rfl
  · cases read

theorem skippable_string : string.Skippable := by
  intro r s consistent read
  unfold string at read
  split at read
  · next q =>
    cases consistent with
    | quoted consistent =>
      cases taken : q.taken with
      | ok s => exact consistent s taken
      | error fault => simp [taken] at read
  · cases read

theorem skippable_integer (low high : Int) : (integer low high).Skippable := by
  intro r n _ read
  unfold integer at read
  split at read
  · rfl
  · cases read

theorem Skippable.map (skippable : d.Skippable) (f : α → β) : (d.map f).Skippable := by
  intro r b consistent read
  obtain ⟨a, accepted, -⟩ := map_eq_ok_iff.mp read
  exact skippable r a consistent accepted

theorem Skippable.bind (skippable : d.Skippable) (f : α → Except ReadError β) :
    Skippable fun r => d r >>= f := by
  intro r b consistent read
  obtain ⟨a, accepted, -⟩ := bind_eq_ok_iff.mp read
  exact skippable r a consistent accepted

theorem Skippable.check (skippable : d.Skippable) : d.check.Skippable := skippable.map _

theorem Skippable.nullable (skippable : d.Skippable) : (nullable d).Skippable := by
  intro r o consistent read
  unfold Decoder.nullable at read
  split at read
  · rfl
  · exact skippable.map Option.some r o consistent read

/-- The items that are accepted end with their bracket, and each of them is accepted. -/
theorem items_eq_ok {rs : List Reading} {tail : Tail} {as : List α}
    (read : items d rs tail = .ok as) : tail = .closed ∧ ∀ r ∈ rs, ∃ a, d r = .ok a := by
  fun_induction items d rs tail generalizing as with
  | case1 => exact ⟨rfl, by simp⟩
  | case2 => cases read
  | case3 => cases read
  | case4 => cases read
  | case5 tail r rs a first as more ih =>
    obtain ⟨closed, all⟩ := ih more
    exact ⟨closed, List.forall_mem_cons.mpr ⟨⟨a, first⟩, all⟩⟩

theorem Skippable.list (skippable : d.Skippable) : (list d).Skippable := by
  intro r as consistent read
  unfold Decoder.list at read
  split at read
  · cases consistent with
    | array consistent =>
      obtain ⟨closed, all⟩ := items_eq_ok read
      refine skipItems_eq_none_iff.mpr ⟨closed, fun r mem => ?_⟩
      obtain ⟨a, accepted⟩ := all r mem
      exact skippable r a (consistent r mem) accepted
  · cases read

/-- The entries that are accepted end with their bracket, and each of them is accepted. -/
theorem entries_eq_ok {ms : List (Quoted × Reading)} {tail : Tail} {es : List (String × α)}
    (read : entries d ms tail = .ok es) :
    tail = .closed ∧ ∀ m ∈ ms, (∃ k, m.1.taken = .ok k) ∧ ∃ a, d m.2 = .ok a := by
  fun_induction entries d ms tail generalizing es with
  | case1 => exact ⟨rfl, by simp⟩
  | case2 => cases read
  | case3 => cases read
  | case4 => cases read
  | case5 => cases read
  | case6 tail q r ms k taken a first es more ih =>
    obtain ⟨closed, all⟩ := ih more
    exact ⟨closed, List.forall_mem_cons.mpr ⟨⟨⟨k, taken⟩, a, first⟩, all⟩⟩

theorem Skippable.nameMap (skippable : d.Skippable) : (nameMap d).Skippable := by
  intro r o consistent read
  unfold Decoder.nameMap at read
  split at read
  · next ms tail =>
    obtain ⟨es, entered, -⟩ := map_eq_ok_iff.mp read
    obtain ⟨closed, all⟩ := entries_eq_ok entered
    cases consistent with
    | object keys values =>
      refine skipMembers_eq_none_iff.mpr ⟨closed, fun m mem => ?_⟩
      obtain ⟨⟨k, taken⟩, a, accepted⟩ := all m mem
      exact ⟨keys m mem k taken, skippable m.2 a (values m mem) accepted⟩
  · cases read

end Decoder

/-! ## Records -/

/-- What the check of each of the fields accepts can be skipped. -/
def Field.AllSkippable (fields : List Field) : Prop := ∀ field ∈ fields, field.check.Skippable

theorem Field.AllSkippable.nil : AllSkippable [] := by simp [AllSkippable]

theorem Field.AllSkippable.cons {α : Type} (name : String) {d : Decoder α}
    (skippable : d.Skippable) (omissible : Bool) {fields : List Field}
    (others : AllSkippable fields) : AllSkippable (⟨name, d.check, omissible⟩ :: fields) :=
  List.forall_mem_cons.mpr ⟨skippable.check, others⟩

namespace Record

variable {fields : List Field} {strangers : Strangers} {before after : Found}

/-- A member that is accepted can be skipped. -/
theorem skip_of_member (skippable : Field.AllSkippable fields) {k : String} {r : Reading}
    (consistent : r.Consistent) (checked : member fields strangers before k r = .ok after) :
    r.skip = none := by
  rcases member_cases checked with ⟨field, known, -, accepted, -⟩ | ⟨-, -, skipped, -⟩ |
    ⟨-, -, taken, -⟩
  · exact skippable field (List.mem_of_find?_eq_some known) r () consistent accepted
  · exact skipped
  · exact consistent.skip_of_take taken

/-- An object whose members are accepted can be skipped. -/
theorem skip_of_members (skippable : Field.AllSkippable fields) {ms : List (Quoted × Reading)}
    {tail : Tail} (consistent : (Reading.object ms tail).Consistent)
    (found : members fields strangers before ms tail = .ok after) :
    tail = .closed ∧ ∀ m ∈ ms, m.1.skipped = none ∧ m.2.skip = none := by
  obtain ⟨closed, all⟩ := members_eq_ok found
  refine ⟨closed, fun m mem => ?_⟩
  obtain ⟨k, before, after, taken, checked⟩ := all m mem
  cases consistent with
  | object keys values =>
    exact ⟨keys m mem k taken, skip_of_member skippable (values m mem) checked⟩

/-- The items that are accepted for the fields of a record end with their bracket, and each of them
is accepted by the check of a field. -/
theorem items_eq_ok {rs : List Reading} {tail : Tail} {found : List (String × Reading)}
    (accepted : items fields rs tail = .ok found) :
    tail = .closed ∧ ∀ r ∈ rs, ∃ field ∈ fields, field.check r = .ok () := by
  fun_induction items fields rs tail generalizing found with
  | case1 => exact ⟨rfl, by simp⟩
  | case2 => cases accepted
  | case3 => cases accepted
  | case4 => cases accepted
  | case5 => exact ⟨rfl, by simp⟩
  | case6 => cases accepted
  | case7 => cases accepted
  | case8 => cases accepted
  | case9 field fields r rs tail u checked more others ih =>
    obtain ⟨closed, all⟩ := ih others
    refine ⟨closed, List.forall_mem_cons.mpr ⟨⟨field, List.mem_cons_self, checked⟩, ?_⟩⟩
    intro r mem
    obtain ⟨field', mine, accepted⟩ := all r mem
    exact ⟨field', List.mem_cons_of_mem field mine, accepted⟩

theorem skippable_find (skippable : Field.AllSkippable fields) : (find fields).Skippable := by
  intro r found consistent accepted
  unfold find at accepted
  split at accepted
  · next ms tail =>
    obtain ⟨after, all, -⟩ := map_eq_ok_iff.mp accepted
    exact skipMembers_eq_none_iff.mpr (skip_of_members skippable consistent all)
  · cases consistent with
    | array consistent =>
      obtain ⟨closed, all⟩ := items_eq_ok accepted
      refine skipItems_eq_none_iff.mpr ⟨closed, fun r mem => ?_⟩
      obtain ⟨field, mine, accepted⟩ := all r mem
      exact skippable field mine r () (consistent r mem) accepted
  · cases accepted

end Record

end TableCatalog.Json
