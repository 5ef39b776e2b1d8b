import TableCatalog.Failure
import TableCatalog.Json.Decoder

/-!
# The members of an object, one by one

A record that is written as an object is found by checking its members from left to right, each
under its name. A member is found for the field of its name; if the record has none, the member is a
stranger, which is skipped or kept. So it makes no difference to the fields of the record which
strangers stand among them.
-/

namespace TableCatalog.Json

theorem of_refuse_eq_ok {α : Type} {fault : Option Fault} {a b : α}
    (accepted : refuse fault a = .ok b) : fault = none ∧ b = a := by
  cases fault with
  | none =>
    cases accepted
    exact ⟨rfl, rfl⟩
  | some fault => cases accepted

namespace Record

/-- Whether a record has a field of this name. -/
def knows (fields : List Field) (k : String) : Bool := fields.any (·.name = k)

/-- The members of an object under their names. -/
def named (ms : List (Quoted × Reading)) : List (String × Reading) :=
  ms.filterMap fun m => m.1.taken.toOption.map (·, m.2)

/-- The members of an object whose names are of some kind. -/
def membersWhere (p : String → Bool) (ms : List (Quoted × Reading)) : List (Quoted × Reading) :=
  ms.filter fun m => m.1.taken.toOption.any p

/-- Checks members under their names from left to right. -/
def checkAll (fields : List Field) (strangers : Strangers) (before : Found)
    (es : List (String × Reading)) : Except ReadError Found :=
  es.foldlM (fun found e => member fields strangers found e.1 e.2) before

/-- What was found without the strangers whose names are not of some kind. -/
def Found.strangersWhere (p : String → Bool) (found : Found) : Found :=
  { found with strangers := found.strangers.filter fun e => p e.1 }

variable {fields : List Field} {strangers : Strangers} {before after : Found}
  {ms : List (Quoted × Reading)} {es : List (String × Reading)}

/-! ## Names -/

theorem find?_eq_none_iff {k : String} :
    fields.find? (·.name = k) = none ↔ knows fields k = false := by
  simp [knows]

theorem knows_of_find? {k : String} {field : Field}
    (known : fields.find? (·.name = k) = some field) : knows fields k = true := by
  rw [← Bool.not_eq_false, ← find?_eq_none_iff, known]
  exact Option.some_ne_none field

theorem named_cons_of_ok {q : Quoted} {k : String} (taken : q.taken = .ok k) (r : Reading)
    (ms : List (Quoted × Reading)) : named ((q, r) :: ms) = (k, r) :: named ms := by
  simp only [named, List.filterMap_cons, taken, Except.toOption, Option.map_some]

theorem named_membersWhere (p : String → Bool) (ms : List (Quoted × Reading)) :
    named (membersWhere p ms) = (named ms).filter fun e => p e.1 := by
  induction ms with
  | nil => rfl
  | cons m ms ih =>
    obtain ⟨q, r⟩ := m
    cases taken : q.taken with
    | error fault => simpa [named, membersWhere, taken, Except.toOption] using ih
    | ok k =>
      cases mine : p k with
      | true => simpa [named, membersWhere, taken, Except.toOption, mine] using ih
      | false => simpa [named, membersWhere, taken, Except.toOption, mine] using ih

/-! ## What is done with a member -/

/-- What is done with a member: it is found for its field, skipped or kept. -/
theorem member_cases {k : String} {r : Reading}
    (checked : member fields strangers before k r = .ok after) :
    (∃ field, fields.find? (·.name = k) = some field ∧ before.fields.any (·.1 = k) = false ∧
      field.check r = .ok () ∧ after = { before with fields := before.fields ++ [(k, r)] }) ∨
    (fields.find? (·.name = k) = none ∧ strangers = .skipped ∧ r.skip = none ∧ after = before) ∨
    (fields.find? (·.name = k) = none ∧ strangers = .kept ∧ r.take roomForStrangers = none ∧
      after = { before with strangers := before.strangers ++ [(k, r)] }) := by
  unfold member at checked
  split at checked
  · next field known =>
    split at checked
    · cases checked
    · next new =>
      split at checked
      · cases checked
      · next accepted =>
        cases checked
        exact .inl ⟨field, known, Bool.eq_false_iff.mpr new, accepted, rfl⟩
  · next unknown =>
    cases strangers with
    | skipped => exact .inr (.inl ⟨unknown, rfl, of_refuse_eq_ok checked⟩)
    | kept => exact .inr (.inr ⟨unknown, rfl, of_refuse_eq_ok checked⟩)

/-- An object whose members are accepted is closed, and each of them is accepted under its name. -/
theorem members_eq_ok {ms : List (Quoted × Reading)} {tail : Tail}
    (found : members fields strangers before ms tail = .ok after) :
    tail = .closed ∧ ∀ m ∈ ms, ∃ k before after, m.1.taken = .ok k ∧
      member fields strangers before k m.2 = .ok after := by
  fun_induction members fields strangers before ms tail with
  | case1 => exact ⟨rfl, by simp⟩
  | case2 => cases found
  | case3 => cases found
  | case4 => cases found
  | case5 before q r ms tail k taken next checked ih =>
    obtain ⟨closed, all⟩ := ih found
    exact ⟨closed, List.forall_mem_cons.mpr ⟨⟨k, before, next, taken, checked⟩, all⟩⟩

/-! ## Checking all members -/

theorem checkAll_cons (before : Found) (e : String × Reading) (es : List (String × Reading)) :
    checkAll fields strangers before (e :: es) =
      member fields strangers before e.1 e.2 >>= fun found => checkAll fields strangers found es :=
  List.foldlM_cons

theorem checkAll_append (before : Found) (front back : List (String × Reading)) :
    checkAll fields strangers before (front ++ back) =
      checkAll fields strangers before front >>= fun found =>
        checkAll fields strangers found back :=
  List.foldlM_append

/-- The members of an object are checked under their names. -/
theorem members_eq_checkAll (taken : ∀ m ∈ ms, ∃ k, m.1.taken = .ok k) (before : Found) :
    members fields strangers before ms .closed = checkAll fields strangers before (named ms) := by
  induction ms generalizing before with
  | nil => rfl
  | cons m ms ih =>
    obtain ⟨q, r⟩ := m
    obtain ⟨k, first⟩ : ∃ k, q.taken = .ok k := taken (q, r) List.mem_cons_self
    have others (m : Quoted × Reading) (mem : m ∈ ms) : ∃ k, m.1.taken = .ok k :=
      taken m (List.mem_cons_of_mem _ mem)
    rw [named_cons_of_ok first, checkAll_cons, members]
    simp only [first]
    cases member fields strangers before k r with
    | error e => rfl
    | ok found => exact ih others found

theorem findWithStrangers_eq_ok {r : Reading} (found : findWithStrangers fields r = .ok after) :
    ∃ ms, r = .object ms .closed ∧ (∀ m ∈ ms, ∃ k, m.1.taken = .ok k) ∧
      members fields .kept ⟨[], []⟩ ms .closed = .ok after := by
  unfold findWithStrangers at found
  split at found
  · next ms tail =>
    obtain ⟨rfl, all⟩ := members_eq_ok found
    refine ⟨ms, rfl, fun m mem => ?_, found⟩
    obtain ⟨k, -, -, taken, -⟩ := all m mem
    exact ⟨k, taken⟩
  · cases found

/-- Members that are right for fields not found before are found for them. -/
theorem checkAll_own
    (own : ∀ e ∈ es, ∃ field, fields.find? (·.name = e.1) = some field ∧ field.check e.2 = .ok ())
    (distinct : (es.map Prod.fst).Nodup) {before : Found}
    (new : ∀ e ∈ es, ∀ e' ∈ before.fields, e'.1 ≠ e.1) :
    checkAll fields strangers before es = .ok { before with fields := before.fields ++ es } := by
  induction es generalizing before with
  | nil => simp [checkAll, pure, Except.pure]
  | cons e es ih =>
    obtain ⟨absent, distinct⟩ := List.nodup_cons.mp distinct
    obtain ⟨⟨field, found, checked⟩, own⟩ := List.forall_mem_cons.mp own
    obtain ⟨free, new⟩ := List.forall_mem_cons.mp new
    have unseen : before.fields.any (·.1 = e.1) = false := by
      simpa using fun name r mem => free (name, r) mem
    have first : member fields strangers before e.1 e.2 =
        .ok { before with fields := before.fields ++ [e] } := by
      simp [member, found, unseen, checked]
    rw [checkAll_cons, first]
    refine (ih own distinct ?_).trans (by simp)
    intro e' mem e'' seen
    rcases List.mem_append.mp seen with seen | seen
    · exact new e' mem e'' seen
    · rw [List.mem_singleton.mp seen]
      exact fun same => absent (List.mem_map.mpr ⟨e', mem, same.symm⟩)

/-- Members of other names are kept. -/
theorem checkAll_strangers
    (strange : ∀ e ∈ es, fields.find? (·.name = e.1) = none ∧ e.2.take roomForStrangers = none)
    (before : Found) :
    checkAll fields .kept before es =
      .ok { before with strangers := before.strangers ++ es } := by
  induction es generalizing before with
  | nil => simp [checkAll, pure, Except.pure]
  | cons e es ih =>
    obtain ⟨⟨unknown, fits⟩, strange⟩ := List.forall_mem_cons.mp strange
    have first : member fields .kept before e.1 e.2 =
        .ok { before with strangers := before.strangers ++ [e] } := by
      simp [member, unknown, fits, refuse]
    rw [checkAll_cons, first]
    exact (ih strange _).trans (by simp)

/-! ## Members that make no difference -/

/-- A record that skips strangers is found in the same way without them, if they can be skipped. -/
theorem checkAll_skipped (skips : ∀ e ∈ es, e.2.skip = none) (before : Found) :
    checkAll fields .skipped before es =
      checkAll fields .skipped before (es.filter fun e => knows fields e.1) := by
  induction es generalizing before with
  | nil => rfl
  | cons e es ih =>
    obtain ⟨first, others⟩ := List.forall_mem_cons.mp skips
    rw [checkAll_cons, List.filter_cons]
    split
    · rw [checkAll_cons]
      exact bind_congr fun found => ih others found
    · next unknown =>
      -- nothing is found and nothing is refused
      have skipped : member fields .skipped before e.1 e.2 = .ok before := by
        simp [member, find?_eq_none_iff.mpr (Bool.eq_false_iff.mpr unknown), first, refuse]
      rw [skipped]
      exact ih others before

/-- The strangers that are kept are the members that the record does not know. -/
theorem strangers_of_checkAll_kept (found : checkAll fields .kept before es = .ok after) :
    after.strangers = before.strangers ++ es.filter fun e => !knows fields e.1 := by
  induction es generalizing before with
  | nil =>
    cases found
    simp
  | cons e es ih =>
    rw [checkAll_cons] at found
    obtain ⟨next, checked, found⟩ := bind_eq_ok_iff.mp found
    rcases member_cases checked with ⟨field, known, -, -, rfl⟩ | ⟨-, absurd, -⟩ |
      ⟨unknown, -, -, rfl⟩
    · simpa [knows_of_find? known] using ih found
    · cases absurd
    · simpa [find?_eq_none_iff.mp unknown] using ih found

/-- A record that keeps strangers is found in the same way without some of them. -/
theorem checkAll_kept_where {p : String → Bool} (own : ∀ k, knows fields k = true → p k = true)
    (found : checkAll fields .kept before es = .ok after) :
    checkAll fields .kept (before.strangersWhere p) (es.filter fun e => p e.1) =
      .ok (after.strangersWhere p) := by
  induction es generalizing before with
  | nil =>
    cases found
    rfl
  | cons e es ih =>
    rw [checkAll_cons] at found
    obtain ⟨next, checked, found⟩ := bind_eq_ok_iff.mp found
    have rest := ih found
    rcases member_cases checked with ⟨field, known, new, accepted, rfl⟩ | ⟨-, absurd, -⟩ |
      ⟨unknown, -, fits, rfl⟩
    · have mine : p e.1 = true := own e.1 (knows_of_find? known)
      have first : member fields .kept (before.strangersWhere p) e.1 e.2 = .ok
          (Found.strangersWhere p { before with fields := before.fields ++ [(e.1, e.2)] }) := by
        simp [member, Found.strangersWhere, known, new, accepted]
      rw [List.filter_cons, if_pos mine, checkAll_cons, first]
      exact rest
    · cases absurd
    · cases mine : p e.1 with
      | true =>
        have first : member fields .kept (before.strangersWhere p) e.1 e.2 = .ok
            (Found.strangersWhere p
              { before with strangers := before.strangers ++ [(e.1, e.2)] }) := by
          simp [member, Found.strangersWhere, unknown, fits, refuse, mine]
        rw [List.filter_cons, if_pos mine, checkAll_cons, first]
        exact rest
      | false =>
        rw [List.filter_cons_of_neg (by simp [mine])]
        simpa [Found.strangersWhere, mine] using rest

end Record

end TableCatalog.Json
