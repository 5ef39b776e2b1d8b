/-!
# Maps from names

Options, properties, databases and tables are all addressed by name, and every listing and every
printed map shows them in increasing order of the names, code point by code point. `NameMap β` is
a finite map kept in that order.

The view of a map is `get?`: a look-up after `insert`, `erase` or `overlay` is said in terms of
look-ups before it, and two maps with the same look-ups are equal (`NameMap.ext_get?`).
-/

namespace TableCatalog

namespace NameMap.Entries

def get? {β : Type} (k : String) : List (String × β) → Option β
  | [] => none
  | (k', v) :: rest => if k = k' then some v else get? k rest

def insert {β : Type} (k : String) (v : β) : List (String × β) → List (String × β)
  | [] => [(k, v)]
  | (k', v') :: rest =>
    if k < k' then (k, v) :: (k', v') :: rest
    else if k = k' then (k, v) :: rest
    else (k', v') :: insert k v rest

def erase {β : Type} (k : String) : List (String × β) → List (String × β)
  | [] => []
  | (k', v') :: rest => if k = k' then rest else (k', v') :: erase k rest

/-- The names of the entries increase strictly. -/
def Ascending {β : Type} (l : List (String × β)) : Prop :=
  l.Pairwise fun a b => a.1 < b.1

theorem get?_insert {β : Type} (k k' : String) (v : β) (l : List (String × β)) :
    get? k' (insert k v l) = if k' = k then some v else get? k' l := by
  induction l with
  | nil => simp [insert, get?]
  | cons e rest ih =>
    obtain ⟨k₀, v₀⟩ := e
    rw [insert]
    split
    · simp [get?]
    · split
      · next h => subst h; simp only [get?]; split <;> rfl
      · next h => simp only [get?, ih]; grind

theorem mem_insert {β : Type} {k : String} {v : β} {e : String × β} {l : List (String × β)}
    (h : e ∈ insert k v l) : e = (k, v) ∨ e ∈ l := by
  induction l with
  | nil => simpa [insert] using h
  | cons e₀ rest ih =>
    obtain ⟨k₀, v₀⟩ := e₀
    rw [insert] at h
    grind

theorem Ascending.insert {β : Type} (k : String) (v : β) {l : List (String × β)}
    (h : Ascending l) : Ascending (insert k v l) := by
  induction l with
  | nil => simp [Entries.insert, Ascending]
  | cons e rest ih =>
    obtain ⟨k₀, v₀⟩ := e
    have hrest := (List.pairwise_cons.1 h).1
    have htail : Ascending rest := (List.pairwise_cons.1 h).2
    rw [Entries.insert]
    split
    · next hlt =>
      refine List.pairwise_cons.2 ⟨fun e he => ?_, h⟩
      rcases List.mem_cons.1 he with rfl | he
      · exact hlt
      · exact String.lt_trans hlt (hrest e he)
    · split
      · next heq => subst heq; exact List.pairwise_cons.2 ⟨hrest, htail⟩
      · next hlt hne =>
        refine List.pairwise_cons.2 ⟨fun e he => ?_, ih htail⟩
        rcases mem_insert he with rfl | he
        · rcases Std.lt_trichotomy k k₀ with h' | h' | h'
          · exact absurd h' hlt
          · exact absurd h' hne
          · exact h'
        · exact hrest e he

theorem erase_sublist {β : Type} (k : String) (l : List (String × β)) :
    List.Sublist (erase k l) l := by
  induction l with
  | nil => exact List.Sublist.slnil
  | cons e rest ih =>
    obtain ⟨k₀, v₀⟩ := e
    rw [erase]
    split
    · exact List.sublist_cons_self _ _
    · exact ih.cons_cons _

theorem Ascending.erase {β : Type} (k : String) {l : List (String × β)} (h : Ascending l) :
    Ascending (erase k l) :=
  List.Pairwise.sublist (erase_sublist k l) h

theorem get?_eq_none_of_lt {β : Type} {k : String} {l : List (String × β)}
    (h : ∀ e ∈ l, k < e.1) : get? k l = none := by
  induction l with
  | nil => rfl
  | cons e rest ih =>
    obtain ⟨k₀, v₀⟩ := e
    have hk : k ≠ k₀ := fun heq => String.lt_irrefl k (heq ▸ h (k₀, v₀) List.mem_cons_self)
    rw [get?, if_neg hk]
    exact ih fun e he => h e (List.mem_cons_of_mem _ he)

theorem get?_erase {β : Type} (k k' : String) {l : List (String × β)} (h : Ascending l) :
    get? k' (erase k l) = if k' = k then none else get? k' l := by
  induction l with
  | nil => simp [erase, get?]
  | cons e rest ih =>
    obtain ⟨k₀, v₀⟩ := e
    have hrest := (List.pairwise_cons.1 h).1
    have htail : Ascending rest := (List.pairwise_cons.1 h).2
    rw [erase]
    split
    · next heq =>
      subst heq
      by_cases hk : k' = k
      · subst hk; rw [if_pos rfl]; exact get?_eq_none_of_lt hrest
      · simp [get?, hk]
    · next hne =>
      have := ih htail
      simp only [get?, this]
      grind

/-- Ascending entries are determined by their look-ups. -/
theorem eq_of_get?_eq {β : Type} {l₁ l₂ : List (String × β)} (h₁ : Ascending l₁)
    (h₂ : Ascending l₂) (h : ∀ k, get? k l₁ = get? k l₂) : l₁ = l₂ := by
  induction l₁ generalizing l₂ with
  | nil =>
    cases l₂ with
    | nil => rfl
    | cons e rest => have := h e.1; simp [get?] at this
  | cons e₁ rest₁ ih =>
    obtain ⟨k₁, v₁⟩ := e₁
    cases l₂ with
    | nil => have := h k₁; simp [get?] at this
    | cons e₂ rest₂ =>
      obtain ⟨k₂, v₂⟩ := e₂
      have hr₁ := (List.pairwise_cons.1 h₁).1
      have hr₂ := (List.pairwise_cons.1 h₂).1
      have hk : k₁ = k₂ := by
        rcases Std.lt_trichotomy k₁ k₂ with hlt | heq | hlt
        · have hnone : get? k₁ ((k₂, v₂) :: rest₂) = none :=
            get?_eq_none_of_lt fun e he => by
              rcases List.mem_cons.1 he with rfl | he
              · exact hlt
              · exact String.lt_trans hlt (hr₂ e he)
          have := h k₁
          rw [hnone] at this
          simp [get?] at this
        · exact heq
        · have hnone : get? k₂ ((k₁, v₁) :: rest₁) = none :=
            get?_eq_none_of_lt fun e he => by
              rcases List.mem_cons.1 he with rfl | he
              · exact hlt
              · exact String.lt_trans hlt (hr₁ e he)
          have := h k₂
          rw [hnone] at this
          simp [get?] at this
      subst hk
      have hv : v₁ = v₂ := by have := h k₁; simpa [get?] using this
      subst hv
      have : rest₁ = rest₂ := by
        refine ih (List.pairwise_cons.1 h₁).2 (List.pairwise_cons.1 h₂).2 fun k => ?_
        by_cases hk : k = k₁
        · subst hk; rw [get?_eq_none_of_lt hr₁, get?_eq_none_of_lt hr₂]
        · have := h k; simpa [get?, hk] using this
      rw [this]

theorem mem_of_get?_eq_some {β : Type} {k : String} {v : β} {l : List (String × β)}
    (h : get? k l = some v) : (k, v) ∈ l := by
  induction l with
  | nil => simp [get?] at h
  | cons e rest ih =>
    obtain ⟨k₀, v₀⟩ := e
    rw [get?] at h
    split at h
    · next heq => subst heq; simp at h; simp [h]
    · exact List.mem_cons_of_mem _ (ih h)

theorem get?_eq_some_of_mem {β : Type} {k : String} {v : β} {l : List (String × β)}
    (h : Ascending l) (hmem : (k, v) ∈ l) : get? k l = some v := by
  induction l with
  | nil => simp at hmem
  | cons e rest ih =>
    obtain ⟨k₀, v₀⟩ := e
    rw [get?]
    rcases List.mem_cons.1 hmem with heq | hmem
    · cases heq; simp
    · have hlt : k₀ < k := (List.pairwise_cons.1 h).1 _ hmem
      have hne : k ≠ k₀ := fun heq => String.lt_irrefl k₀ (by rw [heq] at hlt; exact hlt)
      rw [if_neg hne]
      exact ih (List.pairwise_cons.1 h).2 hmem

end NameMap.Entries

/-- A finite map from names, with its entries in increasing order of the names. -/
structure NameMap (β : Type) where
  /-- The entries, in increasing order of their names. -/
  toList : List (String × β)
  ascending : NameMap.Entries.Ascending toList
  deriving DecidableEq

namespace NameMap

variable {β γ : Type}

instance [Repr β] : Repr (NameMap β) := ⟨fun m n => reprPrec m.toList n⟩

def empty : NameMap β := ⟨[], List.Pairwise.nil⟩

instance : EmptyCollection (NameMap β) := ⟨empty⟩

instance : Inhabited (NameMap β) := ⟨empty⟩

def get? (m : NameMap β) (k : String) : Option β := Entries.get? k m.toList

def contains (m : NameMap β) (k : String) : Bool := (m.get? k).isSome

def insert (m : NameMap β) (k : String) (v : β) : NameMap β :=
  ⟨Entries.insert k v m.toList, m.ascending.insert k v⟩

def erase (m : NameMap β) (k : String) : NameMap β :=
  ⟨Entries.erase k m.toList, m.ascending.erase k⟩

def insertIfNew (m : NameMap β) (k : String) (v : β) : NameMap β :=
  if m.contains k then m else m.insert k v

/-- Writes pairs into a map, one after the other, so that the last pair of a name counts. -/
def insertMany (m : NameMap β) (pairs : List (String × β)) : NameMap β :=
  pairs.foldl (fun acc p => acc.insert p.1 p.2) m

/-- The map of the pairs, the last pair of a name counting. -/
def ofList (pairs : List (String × β)) : NameMap β := empty.insertMany pairs

/-- Writes the entries of the second map over the first. -/
def overlay (m upper : NameMap β) : NameMap β := m.insertMany upper.toList

def eraseMany (m : NameMap β) (ks : List String) : NameMap β := ks.foldl erase m

def keys (m : NameMap β) : List String := m.toList.map (·.1)

def size (m : NameMap β) : Nat := m.toList.length

def isEmpty (m : NameMap β) : Bool := m.toList.isEmpty

@[simp] theorem get?_empty (k : String) : (empty : NameMap β).get? k = none := rfl

theorem get?_insert (m : NameMap β) (k k' : String) (v : β) :
    (m.insert k v).get? k' = if k' = k then some v else m.get? k' :=
  Entries.get?_insert k k' v m.toList

@[simp] theorem get?_insert_self (m : NameMap β) (k : String) (v : β) :
    (m.insert k v).get? k = some v := by
  rw [get?_insert, if_pos rfl]

theorem get?_erase (m : NameMap β) (k k' : String) :
    (m.erase k).get? k' = if k' = k then none else m.get? k' :=
  Entries.get?_erase k k' m.ascending

/-- Maps with the same look-ups are equal. -/
theorem ext_get? {m₁ m₂ : NameMap β} (h : ∀ k, m₁.get? k = m₂.get? k) : m₁ = m₂ := by
  obtain ⟨l₁, h₁⟩ := m₁
  obtain ⟨l₂, h₂⟩ := m₂
  have : l₁ = l₂ := Entries.eq_of_get?_eq h₁ h₂ h
  subst this
  rfl

theorem get?_eq_some_iff_mem {m : NameMap β} {k : String} {v : β} :
    m.get? k = some v ↔ (k, v) ∈ m.toList :=
  ⟨Entries.mem_of_get?_eq_some, Entries.get?_eq_some_of_mem m.ascending⟩

theorem mem_keys_iff {m : NameMap β} {k : String} : k ∈ m.keys ↔ ∃ v, m.get? k = some v := by
  simp only [keys, List.mem_map, get?_eq_some_iff_mem]
  constructor
  · rintro ⟨⟨_, v⟩, mem, rfl⟩
    exact ⟨v, mem⟩
  · rintro ⟨v, mem⟩
    exact ⟨(k, v), mem, rfl⟩

theorem pairwise_keys (m : NameMap β) : m.keys.Pairwise (· < ·) :=
  List.pairwise_map.mpr m.ascending

theorem insert_insert_self (m : NameMap β) (k : String) (v v' : β) :
    (m.insert k v).insert k v' = m.insert k v' := by
  apply ext_get?
  intro k'
  simp only [get?_insert]
  split <;> rfl

theorem get?_insertIfNew_self (m : NameMap β) (k : String) (v : β) :
    (m.insertIfNew k v).get? k = some ((m.get? k).getD v) := by
  rw [insertIfNew]
  split
  · next found =>
    obtain ⟨v', is⟩ := Option.isSome_iff_exists.mp found
    rw [is, Option.getD_some]
  · next missing =>
    rw [get?_insert_self, Option.not_isSome_iff_eq_none.mp missing, Option.getD_none]

theorem get?_insertIfNew_of_ne (m : NameMap β) {k k' : String} (v : β) (other : k' ≠ k) :
    (m.insertIfNew k v).get? k' = m.get? k' := by
  rw [insertIfNew]
  split
  · rfl
  · rw [get?_insert, if_neg other]

theorem get?_eraseMany (m : NameMap β) (ks : List String) (k : String) :
    (m.eraseMany ks).get? k = if k ∈ ks then none else m.get? k := by
  induction ks generalizing m with
  | nil => simp [eraseMany]
  | cons k₀ rest ih =>
    have step : m.eraseMany (k₀ :: rest) = (m.erase k₀).eraseMany rest := rfl
    rw [step, ih, get?_erase]
    by_cases later : k ∈ rest
    · simp [later]
    · by_cases same : k = k₀
      · simp [same]
      · simp [later, same]

theorem get?_insertMany (m : NameMap β) (pairs : List (String × β)) (k : String) :
    (m.insertMany pairs).get? k = ((pairs.reverse.find? (·.1 = k)).map (·.2)).or (m.get? k) := by
  induction pairs generalizing m with
  | nil => simp [insertMany]
  | cons p rest ih =>
    have step : m.insertMany (p :: rest) = (m.insert p.1 p.2).insertMany rest := rfl
    rw [step, ih, List.reverse_cons, List.find?_append, get?_insert]
    cases h : List.find? (fun x => decide (x.1 = k)) rest.reverse with
    | some q => simp
    | none =>
      by_cases hk : p.1 = k
      · subst hk; simp
      · simp [hk, Ne.symm hk]

/-- A name has the value of the upper map, and that of the lower one where the upper has none. -/
theorem get?_overlay (m upper : NameMap β) (k : String) :
    (m.overlay upper).get? k = (upper.get? k).or (m.get? k) := by
  rw [overlay, get?_insertMany]
  cases found : upper.toList.reverse.find? (·.1 = k) with
  | none =>
    have absent : upper.get? k = none := by
      rw [Option.eq_none_iff_forall_ne_some]
      intro v hv
      have mem := List.mem_reverse.mpr (get?_eq_some_iff_mem.mp hv)
      have differs := List.find?_eq_none.mp found (k, v) mem
      exact differs (decide_eq_true rfl)
    rw [absent, Option.map_none]
  | some p =>
    obtain ⟨k', v⟩ := p
    have same : k' = k := by simpa using List.find?_some found
    subst same
    have mem := List.mem_reverse.mp (List.mem_of_find?_eq_some found)
    rw [get?_eq_some_iff_mem.mpr mem, Option.map_some]

/-- A map is built from its own entries. -/
theorem ofList_toList (m : NameMap β) : ofList m.toList = m := by
  refine ext_get? fun k => ?_
  have written : ofList m.toList = empty.overlay m := rfl
  rw [written, get?_overlay, get?_empty, Option.or_none]

theorem eq_empty_of_isEmpty {m : NameMap β} (none : m.isEmpty = true) : m = empty := by
  obtain ⟨entries, ascending⟩ := m
  cases entries with
  | nil => rfl
  | cons e es => cases none

end NameMap

/-- A finite set of names. -/
abbrev NameSet := NameMap Unit

namespace NameSet

def add (s : NameSet) (k : String) : NameSet := s.insert k ()

end NameSet

end TableCatalog
