import TableCatalog.Options

/-!
# Audit fields over options

What a name stands for after the audit fields were written: the well-known field of that name if it
is present, else the free-form pair, else the option that was there before. No well-known field has
the name of an option that is reserved for a table, but a free-form pair may.

The pairs are written one after the other, and a name may be among them twice. What is written is
therefore told by the last pair of each name: writing the pairs once more changes nothing, and under
the names that are written nothing is left of what was there before.
-/

namespace TableCatalog

variable {β : Type}

/-! ## Several pairs at once -/

namespace NameMap

theorem insertMany_append (m : NameMap β) (first second : List (String × β)) :
    m.insertMany (first ++ second) = (m.insertMany first).insertMany second :=
  List.foldl_append

theorem insertMany_cons (m : NameMap β) (k : String) (v : β) (rest : List (String × β)) :
    m.insertMany ((k, v) :: rest) = (m.insert k v).insertMany rest :=
  rfl

/-- The value of the last pair of a name. -/
def lastOf? (k : String) (pairs : List (String × β)) : Option β :=
  (pairs.filter (·.1 = k)).getLast?.map (·.2)

/-- The entries of some names only. -/
def restrict (m : NameMap β) (names : List String) : NameMap β where
  toList := m.toList.filter fun e => names.contains e.1
  ascending := m.ascending.filter _

theorem get?_restrict (m : NameMap β) (names : List String) (k : String) :
    (m.restrict names).get? k = if k ∈ names then m.get? k else none := by
  apply Option.ext
  intro v
  have kept : (k, v) ∈ (m.restrict names).toList ↔ (k, v) ∈ m.toList ∧ k ∈ names := by
    simp only [restrict, List.mem_filter, List.contains_iff_mem]
  rw [get?_eq_some_iff_mem, kept, ← get?_eq_some_iff_mem]
  split
  · next named => exact and_iff_left named
  · next absent => simp only [absent, and_false, reduceCtorEq]

theorem lastOf?_eq_none_iff {k : String} {pairs : List (String × β)} :
    lastOf? k pairs = none ↔ k ∉ pairs.map (·.1) := by
  rw [lastOf?, Option.map_eq_none_iff, List.getLast?_eq_none_iff, List.filter_eq_nil_iff,
    List.mem_map]
  constructor
  · rintro other ⟨p, mem, named⟩
    exact other p mem (decide_eq_true named)
  · intro absent p mem named
    exact absent ⟨p, mem, of_decide_eq_true named⟩

/-- Of several pairs of a name the last one counts. -/
theorem get?_insertMany_eq_lastOf? (m : NameMap β) (pairs : List (String × β))
    (k : String) : (m.insertMany pairs).get? k = (lastOf? k pairs).or (m.get? k) := by
  rw [get?_insertMany, lastOf?, List.getLast?_filter]

theorem insertMany_insertMany_self (m : NameMap β) (pairs : List (String × β)) :
    (m.insertMany pairs).insertMany pairs = m.insertMany pairs := by
  apply ext_get?
  intro k
  rw [get?_insertMany_eq_lastOf?, get?_insertMany_eq_lastOf?, ← Option.or_assoc, Option.or_self]

/-- Under the names of the pairs there is what the pairs alone say, whatever was there before. -/
theorem restrict_insertMany (m : NameMap β) (pairs : List (String × β)) :
    (m.insertMany pairs).restrict (pairs.map (·.1)) = ofList pairs := by
  apply ext_get?
  intro k
  rw [get?_restrict, ofList, get?_insertMany_eq_lastOf?, get?_insertMany_eq_lastOf?, get?_empty,
    Option.or_none]
  by_cases named : k ∈ pairs.map (·.1)
  · -- a last pair of the name hides what was there before
    have isWritten : lastOf? k pairs ≠ none := fun absent => lastOf?_eq_none_iff.mp absent named
    obtain ⟨v, last⟩ := Option.ne_none_iff_exists'.mp isWritten
    rw [if_pos named, last, Option.some_or]
  · rw [if_neg named, lastOf?_eq_none_iff.mpr named]

/-- Pairs that leave the map without entries as it is are none. -/
theorem eq_nil_of_insertMany_empty {pairs : List (String × β)}
    (unchanged : empty.insertMany pairs = empty) : pairs = [] := by
  rw [← List.map_eq_nil_iff, List.eq_nil_iff_forall_not_mem]
  intro k
  have last := get?_insertMany_eq_lastOf? empty pairs k
  rw [unchanged, get?_empty, Option.or_none] at last
  exact lastOf?_eq_none_iff.mp last.symm

/-- Of fields with different names that may be absent, each present one is written, and nothing
else. -/
theorem get?_insertMany_present (m : NameMap β) (k : String)
    {fields : List (String × Option β)} (distinct : (fields.map (·.1)).Nodup) :
    (m.insertMany (fields.filterMap fun (k, v) => v.map (k, ·))).get? k =
      (Entries.get? k fields).join.or (m.get? k) := by
  induction fields generalizing m with
  | nil => rfl
  | cons field rest ih =>
    obtain ⟨k₀, v₀⟩ := field
    obtain ⟨fresh, distinctRest⟩ := List.nodup_cons.mp distinct
    by_cases same : k = k₀
    · subst same
      -- no later field has this name
      have absent : Entries.get? k rest = none := by
        rw [Option.eq_none_iff_forall_ne_some]
        intro v found
        exact fresh (List.mem_map.mpr ⟨(k, v), Entries.mem_of_get?_eq_some found, rfl⟩)
      cases v₀ with
      | none => simpa [Entries.get?, absent] using ih m distinctRest
      | some v => simpa [Entries.get?, absent, insertMany_cons] using ih (m.insert k v) distinctRest
    · cases v₀ with
      | none => simpa [Entries.get?, same] using ih m distinctRest
      | some v =>
        simpa [Entries.get?, same, insertMany_cons, get?_insert] using
          ih (m.insert k₀ v) distinctRest

end NameMap

/-! ## Audit fields -/

namespace Audit

/-- The well-known field of a name, as the text that stands for it in options. -/
def field? (a : Audit) (k : String) : Option String :=
  if k = "owner" then a.owner
  else if k = "createdAt" then a.createdAt.map decimal
  else if k = "createdBy" then a.createdBy
  else if k = "updatedAt" then a.updatedAt.map decimal
  else if k = "updatedBy" then a.updatedBy
  else none

theorem get?_insertMany_known (a : Audit) (options : Options) (k : String) :
    (options.insertMany a.known).get? k = (a.field? k).or (options.get? k) := by
  rw [known, NameMap.get?_insertMany_present _ _ (by simp)]
  congr 1
  simp only [field?, NameMap.Entries.get?, apply_ite Option.join, Option.join_some,
    Option.join_none]

/-- **Audit fields over options.** The well-known field of a name comes first, then the free-form
pair, then the option that was there before. -/
theorem get?_writeTo (a : Audit) (options : Options) (k : String) :
    (a.writeTo options).get? k =
      (a.field? k).or ((a.extra.get? k).or (options.get? k)) := by
  have inTurn : a.writeTo options = (options.overlay a.extra).insertMany a.known :=
    NameMap.insertMany_append options a.extra.toList a.known
  rw [inTurn, get?_insertMany_known, NameMap.get?_overlay]

theorem known_eq_nil_iff (a : Audit) :
    a.known = [] ↔ a.owner = none ∧ a.createdAt = none ∧ a.createdBy = none ∧
      a.updatedAt = none ∧ a.updatedBy = none := by
  simp [known]

/-- The fields that are looked at for emptiness are those that are written. -/
theorem pairs_eq_nil_iff (a : Audit) : a.pairs = [] ↔ a.isEmpty = true := by
  rw [pairs, List.append_eq_nil_iff, known_eq_nil_iff]
  simp only [isEmpty, NameMap.isEmpty, Bool.and_eq_true, Option.isNone_iff_eq_none,
    List.isEmpty_iff, and_assoc]
  constructor
  · rintro ⟨extra, owner, createdAt, createdBy, updatedAt, updatedBy⟩
    exact ⟨owner, createdAt, createdBy, updatedAt, updatedBy, extra⟩
  · rintro ⟨owner, createdAt, createdBy, updatedAt, updatedBy, extra⟩
    exact ⟨extra, owner, createdAt, createdBy, updatedAt, updatedBy⟩

theorem writeTo_of_isEmpty {a : Audit} (empty : a.isEmpty = true) (options : Options) :
    a.writeTo options = options := by
  rw [writeTo, (pairs_eq_nil_iff a).mpr empty]
  rfl

theorem field?_pathKey (a : Audit) : a.field? Options.pathKey = none := rfl

theorem field?_branchKey (a : Audit) : a.field? Options.branchKey = none := rfl

theorem field?_locationKey (a : Audit) : a.field? Options.locationKey = none := rfl

/-! ## The laws of writing -/

/-- The last pair of a name is the well-known field of that name, else the free-form pair. -/
theorem lastOf?_pairs (a : Audit) (k : String) :
    NameMap.lastOf? k a.pairs = (a.field? k).or (a.extra.get? k) := by
  have alone := get?_writeTo a NameMap.empty k
  rw [writeTo, NameMap.get?_insertMany_eq_lastOf?, NameMap.get?_empty, Option.or_none,
    Option.or_none] at alone
  exact alone

/-- **Audit fields over options obey the laws of an overlay.** There is nothing in the fields
exactly if there are no pairs, and exactly if writing them changes no options at all. For each name
there is afterwards the last pair of that name, which is the well-known field before the free-form
pair, and the option that was there before if there is no such pair. Writing the fields twice is
writing them once, and under the names of the pairs there is afterwards what they write where
nothing was before. -/
theorem overlay_follows_last_pairs (a : Audit) :
    (a.isEmpty = true ↔ a.pairs = []) ∧
    (a.isEmpty = true ↔ ∀ options, a.writeTo options = options) ∧
    (∀ options k, (a.writeTo options).get? k =
      (NameMap.lastOf? k a.pairs).or (options.get? k)) ∧
    (∀ k, NameMap.lastOf? k a.pairs = (a.field? k).or (a.extra.get? k)) ∧
    (∀ options, a.writeTo (a.writeTo options) = a.writeTo options) ∧
    ∀ options, (a.writeTo options).restrict (a.pairs.map (·.1)) = a.writeTo NameMap.empty := by
  refine ⟨(pairs_eq_nil_iff a).symm, ?_, ?_, lastOf?_pairs a, ?_, ?_⟩
  · constructor
    · exact writeTo_of_isEmpty
    · intro unchanged
      rw [← pairs_eq_nil_iff]
      exact NameMap.eq_nil_of_insertMany_empty (unchanged NameMap.empty)
  · intro options k
    exact NameMap.get?_insertMany_eq_lastOf? options a.pairs k
  · intro options
    exact NameMap.insertMany_insertMany_self options a.pairs
  · intro options
    exact NameMap.restrict_insertMany options a.pairs

/-- An owner is named twice among the pairs, and the well-known one is written. -/
example :
    let a : Audit :=
      { owner := "alice", extra := .ofList [("owner", "mallory"), ("job", "nightly")] }
    a.pairs = [("job", "nightly"), ("owner", "mallory"), ("owner", "alice")] ∧
      a.writeTo (.ofList [("owner", "declared"), ("bucket", "4")]) =
        .ofList [("bucket", "4"), ("job", "nightly"), ("owner", "alice")] := by
  decide

end Audit

end TableCatalog
