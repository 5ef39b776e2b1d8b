import Mathlib.Data.List.Forall2
import Mathlib.Data.List.Induction
import Mathlib.Data.List.Nodup
import TableCatalog.Options

/-!
# Changes to properties

A batch of changes is reduced to two sets, and these are applied in an order of their own: first
every removal, then every value that is set. The properties are those that the changes leave if they
are made one after the other. Of several changes to one property the last one counts, and how many
properties a batch sets and removes depends on the names alone.
-/

namespace TableCatalog

/-! ## The names in a map and in changes

How many properties a batch of changes sets and removes depends on the names that it sets and
removes, and not on the values.
-/

namespace NameMap

variable {β : Type}

/-- The names of a map. -/
def names (m : NameMap β) : NameSet where
  toList := m.toList.map fun e => (e.1, ())
  ascending := by
    rw [Entries.Ascending, List.pairwise_map]
    exact m.ascending

theorem get?_names (m : NameMap β) (k : String) :
    m.names.get? k = (m.get? k).map fun _ => () := by
  have entries (l : List (String × β)) :
      Entries.get? k (l.map fun e => (e.1, ())) = (Entries.get? k l).map fun _ => () := by
    induction l with
    | nil => rfl
    | cons e l ih =>
      simp only [List.map_cons, Entries.get?, ih]
      split <;> rfl
  exact entries m.toList

theorem size_names (m : NameMap β) : m.names.size = m.size := List.length_map _

theorem names_insert (m : NameMap β) (k : String) (v : β) :
    (m.insert k v).names = m.names.insert k () := by
  refine ext_get? fun k' => ?_
  simp only [get?_names, get?_insert]
  split <;> rfl

theorem names_erase (m : NameMap β) (k : String) : (m.erase k).names = m.names.erase k := by
  refine ext_get? fun k' => ?_
  simp only [get?_names, get?_erase]
  split <;> rfl

end NameMap

/-- Changes of one kind to one property. -/
inductive PropertyChange.Alike : PropertyChange → PropertyChange → Prop
  | set (key value₁ value₂ : String) : Alike (.set key value₁) (.set key value₂)
  | remove (key : String) : Alike (.remove key) (.remove key)

namespace PropertyChanges

variable {changes₁ changes₂ : List PropertyChange}

/-- Changes that differ in values only set the same names, and remove the same ones. -/
theorem names_reduce (alike : List.Forall₂ PropertyChange.Alike changes₁ changes₂) :
    (reduce changes₁).set.names = (reduce changes₂).set.names ∧
      (reduce changes₁).remove = (reduce changes₂).remove := by
  have fold : ∀ {acc₁ acc₂ : PropertyChanges}, acc₁.set.names = acc₂.set.names →
      acc₁.remove = acc₂.remove →
        (changes₁.foldl add acc₁).set.names = (changes₂.foldl add acc₂).set.names ∧
          (changes₁.foldl add acc₁).remove = (changes₂.foldl add acc₂).remove := by
    induction alike with
    | nil => exact fun set remove => ⟨set, remove⟩
    | cons first _ ih =>
      intro acc₁ acc₂ set remove
      apply ih
      · cases first with
        | set => simp only [add, NameMap.names_insert, set]
        | remove => simp only [add, NameMap.names_erase, set]
      · cases first <;> simp only [add, remove]
  exact fold rfl rfl

end PropertyChanges

/-! ## Changes at once and one by one -/

variable {changes : List PropertyChange} {k : String} {properties : NameMap String}

/-- The effect of changes that are made one after the other. -/
def PropertyChange.applyAll (properties : NameMap String) (changes : List PropertyChange) :
    NameMap String :=
  changes.foldl apply properties

namespace PropertyChange

theorem applyAll_append (properties : NameMap String) (first second : List PropertyChange) :
    applyAll properties (first ++ second) = applyAll (applyAll properties first) second :=
  List.foldl_append

/-- What becomes of a name does not depend on the other ones. -/
theorem get?_applyAll_congr {other : NameMap String} (same : properties.get? k = other.get? k)
    (changes : List PropertyChange) :
    (applyAll properties changes).get? k = (applyAll other changes).get? k := by
  induction changes generalizing properties other with
  | nil => exact same
  | cons change rest ih =>
    apply ih
    cases change with
    | set key value => simp only [apply, NameMap.get?_insert, same]
    | remove key => simp only [apply, NameMap.get?_erase, same]

end PropertyChange

namespace PropertyChanges

/-- The effect of a reduced batch: all removals come first. -/
def applyTo (c : PropertyChanges) (properties : NameMap String) : NameMap String :=
  (properties.eraseMany c.remove.keys).overlay c.set

theorem get?_applyTo (c : PropertyChanges) :
    (c.applyTo properties).get? k =
      (c.set.get? k).or (if (c.remove.get? k).isSome then none else properties.get? k) := by
  have removed : k ∈ c.remove.keys ↔ (c.remove.get? k).isSome = true := by
    rw [NameMap.mem_keys_iff, Option.isSome_iff_exists]
  simp only [applyTo, NameMap.get?_overlay, NameMap.get?_eraseMany, removed]

theorem applyTo_empty : empty.applyTo properties = properties := by
  apply NameMap.ext_get?
  intro k
  rw [get?_applyTo]
  rfl

/-- One more change in the batch is made last, although the batch has no order. -/
theorem applyTo_add (c : PropertyChanges) (change : PropertyChange) :
    (c.add change).applyTo properties = change.apply (c.applyTo properties) := by
  apply NameMap.ext_get?
  intro k
  rw [get?_applyTo]
  cases change with
  | set key value =>
    by_cases same : k = key
    · simp [add, PropertyChange.apply, same]
    · simp [add, PropertyChange.apply, NameMap.get?_insert, NameMap.get?_erase, get?_applyTo, same]
  | remove key =>
    by_cases same : k = key
    · simp [add, PropertyChange.apply, NameSet.add, NameMap.get?_erase, same]
    · simp [add, PropertyChange.apply, NameSet.add, NameMap.get?_insert, NameMap.get?_erase,
        get?_applyTo, same]

theorem applyTo_foldl_add (acc : PropertyChanges) (changes : List PropertyChange) :
    (changes.foldl add acc).applyTo properties =
      PropertyChange.applyAll (acc.applyTo properties) changes := by
  induction changes generalizing acc with
  | nil => rfl
  | cons change rest ih =>
    rw [List.foldl_cons, ih, applyTo_add]
    rfl

/-- **A reduced batch acts like its changes one by one.** -/
theorem applyTo_reduce (properties : NameMap String) (changes : List PropertyChange) :
    (reduce changes).applyTo properties = PropertyChange.applyAll properties changes := by
  rw [reduce, applyTo_foldl_add, applyTo_empty]

end PropertyChanges

/-! ## The last change counts

Of several changes to one property the reduced batch keeps the last one and forgets the others. It
is therefore told by the last changes alone: changes to different properties may change places, and
the changes that a reduced batch consists of are reduced, in any order, to the same batch.
-/

namespace PropertyChange

/-- The last of several changes to a property. -/
def last? (k : String) (changes : List PropertyChange) : Option PropertyChange :=
  (changes.filter (·.key = k)).getLast?

/-- The value that a change gives. -/
def value? : PropertyChange → Option String
  | .set _ value => some value
  | .remove _ => none

/-- The entry that a change makes among the names to remove. -/
def removal? : PropertyChange → Option Unit
  | .set _ _ => none
  | .remove _ => some ()

theorem last?_concat (k : String) (changes : List PropertyChange) (change : PropertyChange) :
    last? k (changes ++ [change]) = if change.key = k then some change else last? k changes := by
  by_cases own : change.key = k
  · simp [last?, List.filter_append, own]
  · simp [last?, List.filter_append, own]

theorem of_last?_eq_some {change : PropertyChange} (last : last? k changes = some change) :
    change ∈ changes ∧ change.key = k := by
  have kept := List.mem_of_getLast? last
  simpa using kept

theorem isSome_last?_iff :
    (last? k changes).isSome = true ↔ ∃ change ∈ changes, change.key = k := by
  rw [last?, List.getLast?_isSome, ne_eq, List.filter_eq_nil_iff]
  simp

theorem last?_eq_set_iff {v : String} :
    last? k changes = some (.set k v) ↔ (last? k changes).bind value? = some v := by
  cases last : last? k changes with
  | none => simp
  | some change =>
    obtain ⟨-, rfl⟩ := of_last?_eq_some last
    cases change <;> simp [value?, key]

theorem last?_eq_remove_iff :
    last? k changes = some (.remove k) ↔ (last? k changes).bind removal? = some () := by
  cases last : last? k changes with
  | none => simp
  | some change =>
    obtain ⟨-, rfl⟩ := of_last?_eq_some last
    cases change <;> simp [removal?, key]

/-- Of changes to different properties, each is the last one to its own. -/
theorem last?_eq_some_iff_of_distinct (distinct : (changes.map key).Nodup)
    {change : PropertyChange} :
    last? k changes = some change ↔ change ∈ changes ∧ change.key = k := by
  refine ⟨of_last?_eq_some, ?_⟩
  rintro ⟨mem, own⟩
  obtain ⟨last, found⟩ := Option.isSome_iff_exists.mp (isSome_last?_iff.mpr ⟨change, mem, own⟩)
  obtain ⟨memLast, ownLast⟩ := of_last?_eq_some found
  have same : last = change :=
    List.inj_on_of_nodup_map distinct memLast mem (ownLast.trans own.symm)
  rw [found, same]

end PropertyChange

namespace PropertyChanges

open PropertyChange (last? value? removal?)

theorem reduce_concat (changes : List PropertyChange) (change : PropertyChange) :
    reduce (changes ++ [change]) = (reduce changes).add change :=
  List.foldl_concat add empty change changes

/-! ### What the two parts say of a name -/

theorem get?_set_reduce (changes : List PropertyChange) (k : String) :
    (reduce changes).set.get? k = (last? k changes).bind value? := by
  induction changes using List.reverseRecOn with
  | nil => rfl
  | append_singleton changes change ih =>
    rw [reduce_concat, PropertyChange.last?_concat]
    cases change with
    | set key value =>
      rw [add, NameMap.get?_insert, ih]
      by_cases own : k = key
      · simp [own, PropertyChange.key, value?]
      · simp [own, Ne.symm own, PropertyChange.key]
    | remove key =>
      rw [add, NameMap.get?_erase, ih]
      by_cases own : k = key
      · simp [own, PropertyChange.key, value?]
      · simp [own, Ne.symm own, PropertyChange.key]

theorem get?_remove_reduce (changes : List PropertyChange) (k : String) :
    (reduce changes).remove.get? k = (last? k changes).bind removal? := by
  induction changes using List.reverseRecOn with
  | nil => rfl
  | append_singleton changes change ih =>
    rw [reduce_concat, PropertyChange.last?_concat]
    cases change with
    | set key value =>
      rw [add, NameMap.get?_erase, ih]
      by_cases own : k = key
      · simp [own, PropertyChange.key, removal?]
      · simp [own, Ne.symm own, PropertyChange.key]
    | remove key =>
      rw [add, NameSet.add, NameMap.get?_insert, ih]
      by_cases own : k = key
      · simp [own, PropertyChange.key, removal?]
      · simp [own, Ne.symm own, PropertyChange.key]

theorem mem_keys_remove_iff {c : PropertyChanges} :
    k ∈ c.remove.keys ↔ c.remove.get? k = some () := by
  rw [NameMap.mem_keys_iff]
  exact ⟨fun ⟨(), found⟩ => found, fun found => ⟨(), found⟩⟩

theorem ext_get? {c d : PropertyChanges} (set : ∀ k, c.set.get? k = d.set.get? k)
    (remove : ∀ k, c.remove.get? k = d.remove.get? k) : c = d := by
  obtain ⟨_, _⟩ := c
  obtain ⟨_, _⟩ := d
  obtain rfl := NameMap.ext_get? set
  obtain rfl := NameMap.ext_get? remove
  rfl

/-- A reduced batch is told by the last change to each property. -/
theorem reduce_eq_of_last?_eq {other : List PropertyChange}
    (same : ∀ k, last? k other = last? k changes) : reduce other = reduce changes := by
  apply ext_get?
  · intro k
    rw [get?_set_reduce, get?_set_reduce, same]
  · intro k
    rw [get?_remove_reduce, get?_remove_reduce, same]

/-! ### A reduced batch as changes -/

/-- The changes that a reduced batch consists of. -/
def toList (c : PropertyChanges) : List PropertyChange :=
  c.set.toList.map (fun (key, value) => .set key value) ++ c.remove.keys.map .remove

/-- No property is both set and removed. -/
def Disjoint (c : PropertyChanges) : Prop := ∀ k ∈ c.set.keys, k ∉ c.remove.keys

theorem disjoint_reduce (changes : List PropertyChange) : (reduce changes).Disjoint := by
  intro k set removed
  obtain ⟨v, set⟩ := NameMap.mem_keys_iff.mp set
  rw [get?_set_reduce, ← PropertyChange.last?_eq_set_iff] at set
  rw [mem_keys_remove_iff, get?_remove_reduce, set] at removed
  cases removed

theorem map_key_toList (c : PropertyChanges) :
    c.toList.map PropertyChange.key = c.set.keys ++ c.remove.keys := by
  simp [toList, NameMap.keys, Function.comp_def, PropertyChange.key]

theorem Disjoint.nodup {c : PropertyChanges} (disjoint : c.Disjoint) :
    (c.toList.map PropertyChange.key).Nodup := by
  have distinct {β : Type} (m : NameMap β) : m.keys.Nodup := by
    apply m.pairwise_keys.imp
    rintro k _ lt rfl
    exact String.lt_irrefl k lt
  rw [map_key_toList]
  exact List.nodup_append.mpr ⟨distinct _, distinct _, fun k set k' removed same =>
    disjoint k set (same ▸ removed)⟩

theorem set_mem_toList_iff {c : PropertyChanges} {v : String} :
    PropertyChange.set k v ∈ c.toList ↔ c.set.get? k = some v := by
  simp [toList, NameMap.get?_eq_some_iff_mem]

theorem remove_mem_toList_iff {c : PropertyChanges} :
    PropertyChange.remove k ∈ c.toList ↔ c.remove.get? k = some () := by
  simp [toList, ← mem_keys_remove_iff]

/-- The changes that a reduced batch consists of are reduced to it, in whatever order they are
made. -/
theorem Disjoint.reduce_of_perm {c : PropertyChanges} (disjoint : c.Disjoint)
    {again : List PropertyChange} (perm : again.Perm c.toList) : reduce again = c := by
  -- every change is the last one to its property, for there is no other one
  have distinct : (again.map PropertyChange.key).Nodup :=
    (perm.map PropertyChange.key).nodup_iff.mpr disjoint.nodup
  have last (k : String) (change : PropertyChange) :
      last? k again = some change ↔ change ∈ c.toList ∧ change.key = k := by
    rw [PropertyChange.last?_eq_some_iff_of_distinct distinct, perm.mem_iff]
  apply ext_get?
  · intro k
    apply Option.ext
    intro v
    rw [get?_set_reduce, ← PropertyChange.last?_eq_set_iff, last, set_mem_toList_iff]
    exact and_iff_left rfl
  · intro k
    apply Option.ext
    intro removed
    rw [get?_remove_reduce, ← PropertyChange.last?_eq_remove_iff, last, remove_mem_toList_iff]
    exact and_iff_left rfl

/-! ### The law of reduction -/

/-- **A reduced batch keeps the last change to each property, and nothing else.** A property is set
to a value if the last change to it does that, and removed if the last change to it does that; so
none is both set and removed, and those that are either are those that changes are made to.
Changes in another order, in which those to one property stand as before, are reduced to the same
batch, and so are the changes that the batch consists of, in any order. -/
theorem reduction_keeps_last_changes (changes : List PropertyChange) :
    (∀ k v, (reduce changes).set.get? k = some v ↔ last? k changes = some (.set k v)) ∧
    (∀ k, k ∈ (reduce changes).remove.keys ↔ last? k changes = some (.remove k)) ∧
    (∀ k ∈ (reduce changes).set.keys, k ∉ (reduce changes).remove.keys) ∧
    (∀ k, k ∈ (reduce changes).set.keys ∨ k ∈ (reduce changes).remove.keys ↔
      ∃ change ∈ changes, change.key = k) ∧
    (∀ other : List PropertyChange,
      (∀ k, other.filter (·.key = k) = changes.filter (·.key = k)) →
        reduce other = reduce changes) ∧
    ∀ again : List PropertyChange, again.Perm (reduce changes).toList →
      reduce again = reduce changes := by
  have set (k v : String) :
      (reduce changes).set.get? k = some v ↔ last? k changes = some (.set k v) := by
    rw [get?_set_reduce, PropertyChange.last?_eq_set_iff]
  have removed (k : String) :
      k ∈ (reduce changes).remove.keys ↔ last? k changes = some (.remove k) := by
    rw [mem_keys_remove_iff, get?_remove_reduce, PropertyChange.last?_eq_remove_iff]
  refine ⟨set, removed, disjoint_reduce changes, ?_, ?_, ?_⟩
  · intro k
    rw [← PropertyChange.isSome_last?_iff, NameMap.mem_keys_iff, removed]
    simp only [set]
    cases last : last? k changes with
    | none => simp
    | some change =>
      obtain ⟨-, rfl⟩ := PropertyChange.of_last?_eq_some last
      cases change <;> simp [PropertyChange.key]
  · intro other same
    apply reduce_eq_of_last?_eq
    intro k
    rw [last?, same]
    rfl
  · intro again perm
    exact (disjoint_reduce changes).reduce_of_perm perm

namespace Sample

/-- Changes to two properties, one of which ends up set and the other one removed. -/
def alternating : List PropertyChange :=
  [.set "a" "1", .set "b" "2", .remove "a", .set "a" "3", .remove "b"]

/-- The same changes, those to `b` a little earlier. -/
def regrouped : List PropertyChange :=
  [.set "b" "2", .remove "b", .set "a" "1", .remove "a", .set "a" "3"]

end Sample

theorem last_changes_of_alternating :
    (∀ k, Sample.regrouped.filter (·.key = k) = Sample.alternating.filter (·.key = k)) ∧
    reduce Sample.regrouped = reduce Sample.alternating ∧
    [PropertyChange.remove "b", .set "a" "3"].Perm (reduce Sample.alternating).toList ∧
    reduce [.remove "b", .set "a" "3"] = reduce Sample.alternating ∧
    (reduce Sample.alternating).set.get? "a" = some "3" := by
  obtain ⟨set, -, -, -, reordered, again⟩ := reduction_keeps_last_changes Sample.alternating
  have same : ∀ k,
      Sample.regrouped.filter (·.key = k) = Sample.alternating.filter (·.key = k) := by
    intro k
    by_cases a : "a" = k
    · subst a
      decide
    · by_cases b : "b" = k
      · subst b
        decide
      · simp [Sample.regrouped, Sample.alternating, PropertyChange.key, a, b]
  have perm : [PropertyChange.remove "b", .set "a" "3"].Perm
      (reduce Sample.alternating).toList := by
    decide
  exact ⟨same, reordered _ same, perm, again _ perm, (set "a" "3").mpr (by decide)⟩

end PropertyChanges

end TableCatalog
