import TableCatalog.Config.Extraction
import TableCatalog.Failure

/-!
# What a configuration is read from

In an environment without variables of the catalog, each field of a configuration is what the option
for it reads as, or the built-in value if there is none. A configuration is read exactly if all five
fields are, and there is no other one that is.
-/

namespace TableCatalog

/-- No variable has a name that begins as those of the catalog do. -/
def Environment.Silent (env : Environment) : Prop :=
  ∀ e ∈ env, afterPrefix? e.1.toList = none

theorem Environment.Silent.setting?_eq_none {env : Environment} (silent : Silent env)
    (field : String) : setting? env field = none := by
  rw [setting?, List.getLast?_eq_none_iff, List.filterMap_eq_nil_iff]
  intro e mem
  simp [settingOf?, keyParts?, silent e mem]

namespace CatalogConfig

/-- A value is what a text reads as, or the built-in value where there is no text. -/
def IsRead {α : Type} (read : Setting → Except Setting.Problem α) (builtIn : α)
    (text : Option String) (a : α) : Prop :=
  match text with
  | none => a = builtIn
  | some t => read (.text t) = .ok a

/-- A configuration takes a field from a text, or has the built-in value where there is none. -/
def Field.IsTaken (f : Field) (text : Option String) (c : CatalogConfig) : Prop :=
  match f with
  | .dataTokenEnabled => IsRead Setting.toBool false text c.dataTokenEnabled
  | .pageSizeDefault =>
    IsRead (fun s => (s.toNatural 32).map (some ∘ UInt32.ofNat)) none text c.pageSizeDefault
  | .tokenRefreshMarginMs =>
    IsRead (fun s => (s.toNatural 64).map UInt64.ofNat) 3600000 text c.tokenRefreshMarginMs
  | .uri => IsRead (fun s => s.toUrl.map some) none text c.uri
  | .warehouse => IsRead (fun s => s.toText.map some) none text c.warehouse

variable {options : Options} {env : Environment}

section Value

variable {α : Type} {f : Field} {read : Setting → Except Setting.Problem α} {builtIn a : α}

/-- Where no variable gives a field, the options do. -/
theorem value_eq_ok_iff_of_none (unset : Environment.setting? env f.name = none) :
    value options env f read builtIn = .ok a ↔ IsRead read builtIn (optionFor? options f) a := by
  unfold value settingFor? IsRead
  rw [unset]
  cases optionFor? options f with
  | none => simp [eq_comm]
  | some t =>
    simp only [Option.map_some]
    cases read (.text t) <;> simp

theorem value_eq_ok_iff_of_some {s : Setting} (set : Environment.setting? env f.name = some s) :
    value options env f read builtIn = .ok a ↔ read s = .ok a := by
  unfold value settingFor?
  rw [set]
  dsimp only
  cases read s <;> simp

theorem value_eq_ok_iff (silent : Environment.Silent env) :
    value options env f read builtIn = .ok a ↔ IsRead read builtIn (optionFor? options f) a :=
  value_eq_ok_iff_of_none (silent.setting?_eq_none f.name)

end Value

/-- **A configuration is read field by field.** -/
theorem extract_eq_ok_iff (silent : Environment.Silent env) {c : CatalogConfig} :
    extract options env = .ok c ↔ ∀ f : Field, f.IsTaken (optionFor? options f) c := by
  unfold extract
  simp only [bind_eq_ok_iff, value_eq_ok_iff silent]
  constructor
  · rintro ⟨dataTokenEnabled, h₁, pageSizeDefault, h₂, tokenRefreshMarginMs, h₃, uri, h₄, warehouse,
      h₅, same⟩
    cases same
    intro f
    cases f with
    | dataTokenEnabled => exact h₁
    | pageSizeDefault => exact h₂
    | tokenRefreshMarginMs => exact h₃
    | uri => exact h₄
    | warehouse => exact h₅
  · intro taken
    exact ⟨_, taken .dataTokenEnabled, _, taken .pageSizeDefault, _, taken .tokenRefreshMarginMs, _,
      taken .uri, _, taken .warehouse, rfl⟩

end CatalogConfig

/-! ## Which spelling of a field counts

Several keys of options can spell the same field. The one that counts is the last one in the order
of the keys. When options are laid over others, keys are compared as they are written, so that two
spellings of a field stay side by side; the later one then counts, whichever of the two options it
comes from. Only if both spell the field by the very same key, the upper options win.
-/

/-- The last of ascending entries is the one that no other one follows. -/
theorem NameMap.Entries.Ascending.getLast?_eq_some_iff {β : Type} {l : List (String × β)}
    (ascending : Ascending l) {e : String × β} :
    l.getLast? = some e ↔ e ∈ l ∧ ∀ e' ∈ l, ¬ e.1 < e'.1 := by
  constructor
  · intro h
    refine ⟨List.mem_of_getLast? h, fun e' mem later => ?_⟩
    obtain ⟨earlier, rfl⟩ := List.getLast?_eq_some_iff.mp h
    rcases List.mem_append.mp mem with mem | mem
    · have before := (List.pairwise_append.mp ascending).2.2 e' mem e (List.mem_singleton_self e)
      exact String.lt_irrefl e.1 (String.lt_trans later before)
    · cases List.mem_singleton.mp mem
      exact String.lt_irrefl e.1 later
  · rintro ⟨mem, last⟩
    cases h : l.getLast? with
    | none =>
      rw [List.getLast?_eq_none_iff.mp h] at mem
      cases mem
    | some e₁ =>
      obtain ⟨earlier, rfl⟩ := List.getLast?_eq_some_iff.mp h
      rcases List.mem_append.mp mem with mem | mem
      · have before := (List.pairwise_append.mp ascending).2.2 e mem e₁ (List.mem_singleton_self e₁)
        exact absurd before (last e₁ (List.mem_of_getLast? h))
      · rw [List.mem_singleton.mp mem]

namespace CatalogConfig

/-- The options whose keys spell a field. -/
def spellings (options : Options) (f : Field) : List (String × String) :=
  options.toList.filter fun (k, _) => foldKey k = f.name

/-- The option that counts for a field, with its key. -/
def spelling? (options : Options) (f : Field) : Option (String × String) :=
  (spellings options f).getLast?

/-- No field is spelled by two keys. -/
def SpellsOnce (options : Options) : Prop :=
  ∀ f : Field, (spellings options f).length ≤ 1

variable {options lower upper : Options} {f : Field} {k v : String}

theorem optionFor?_eq_spelling? (options : Options) (f : Field) :
    optionFor? options f = (spelling? options f).map (·.2) :=
  rfl

theorem mem_spellings_iff :
    (k, v) ∈ spellings options f ↔ options.get? k = some v ∧ foldKey k = f.name := by
  rw [NameMap.get?_eq_some_iff_mem]
  simp [spellings]

/-- The option that counts is the last one in the order of the keys. -/
theorem spelling?_eq_some_iff :
    spelling? options f = some (k, v) ↔
      (options.get? k = some v ∧ foldKey k = f.name) ∧
        ∀ k' v', options.get? k' = some v' → foldKey k' = f.name → ¬ k < k' := by
  have ascending : NameMap.Entries.Ascending (spellings options f) := options.ascending.filter _
  rw [spelling?, ascending.getLast?_eq_some_iff, mem_spellings_iff]
  refine and_congr_right fun _ => ⟨fun last k' v' found spells => ?_, fun last e' mem => ?_⟩
  · exact last (k', v') (mem_spellings_iff.mpr ⟨found, spells⟩)
  · obtain ⟨found, spells⟩ := mem_spellings_iff.mp mem
    exact last e'.1 e'.2 found spells

theorem spelling?_eq_none_iff :
    spelling? options f = none ↔ ∀ k v, options.get? k = some v → foldKey k ≠ f.name := by
  rw [spelling?, List.getLast?_eq_none_iff, List.eq_nil_iff_forall_not_mem]
  refine ⟨fun unspelled k v found spells => ?_, fun unspelled e mem => ?_⟩
  · exact unspelled (k, v) (mem_spellings_iff.mpr ⟨found, spells⟩)
  · obtain ⟨found, spells⟩ := mem_spellings_iff.mp mem
    exact unspelled e.1 e.2 found spells

theorem get?_eq_none_of_unspelled (unspelled : spelling? options f = none)
    (spells : foldKey k = f.name) : options.get? k = none := by
  rw [Option.eq_none_iff_forall_ne_some]
  exact fun v found => spelling?_eq_none_iff.mp unspelled k v found spells

theorem get?_eq_none_of_later {k' : String} (counts : spelling? options f = some (k, v))
    (later : k < k') (spells : foldKey k' = f.name) : options.get? k' = none := by
  rw [Option.eq_none_iff_forall_ne_some]
  exact fun v' found => (spelling?_eq_some_iff.mp counts).2 k' v' found spells later

/-- Only keys that spell a field play a part in it. -/
theorem spelling?_congr {options' : Options}
    (same : ∀ k, foldKey k = f.name → options.get? k = options'.get? k) :
    spelling? options f = spelling? options' f := by
  have sameEntries : ∀ k v, (options.get? k = some v ∧ foldKey k = f.name) ↔
      (options'.get? k = some v ∧ foldKey k = f.name) :=
    fun k v => and_congr_left fun spells => by rw [same k spells]
  apply Option.ext
  rintro ⟨k, v⟩
  rw [spelling?_eq_some_iff, spelling?_eq_some_iff]
  refine and_congr (sameEntries k v) (forall₂_congr fun k' v' => ?_)
  rw [← and_imp, sameEntries, and_imp]

/-! ### Options over options -/

theorem lt_of_lt_of_not_lt {a b c : String} (h : a < c) (h' : ¬ b < c) : a < b := by
  rcases Std.lt_trichotomy b c with before | same | after
  · exact absurd before h'
  · exact same ▸ h
  · exact String.lt_trans h after

/-- Of two spellings the one by the later key, and the upper one if the keys are the same. -/
def laterSpelling (lower upper : Option (String × String)) : Option (String × String) :=
  match lower, upper with
  | some l, some u => if u.1 < l.1 then some l else some u
  | some l, none => some l
  | none, upper => upper

/-- **The later spelling counts.** Of options over other options the ones count that spell a field
by the later key. -/
theorem spelling?_overlay (lower upper : Options) (f : Field) :
    spelling? (lower.overlay upper) f =
      laterSpelling (spelling? lower f) (spelling? upper f) := by
  cases hu : spelling? upper f with
  | none =>
    have same : spelling? (lower.overlay upper) f = spelling? lower f := by
      refine spelling?_congr fun k spells => ?_
      rw [NameMap.get?_overlay, get?_eq_none_of_unspelled hu spells, Option.none_or]
    rw [same]
    cases spelling? lower f <;> rfl
  | some u =>
    obtain ⟨ku, vu⟩ := u
    cases hl : spelling? lower f with
    | none =>
      show _ = some (ku, vu)
      rw [← hu]
      refine spelling?_congr fun k spells => ?_
      rw [NameMap.get?_overlay, get?_eq_none_of_unspelled hl spells, Option.or_none]
    | some l =>
      obtain ⟨kl, vl⟩ := l
      obtain ⟨⟨foundU, spellsU⟩, lastU⟩ := spelling?_eq_some_iff.mp hu
      obtain ⟨⟨foundL, spellsL⟩, lastL⟩ := spelling?_eq_some_iff.mp hl
      show _ = if ku < kl then some (kl, vl) else some (ku, vu)
      -- a key of the overlay is in one of the two, and comes before the last one there
      split
      · next before =>
        refine spelling?_eq_some_iff.mpr ⟨⟨?_, spellsL⟩, fun k' v' found spells later => ?_⟩
        · rw [NameMap.get?_overlay, get?_eq_none_of_later hu before spellsL, foundL, Option.none_or]
        · rw [NameMap.get?_overlay, Option.or_eq_some_iff] at found
          rcases found with found | ⟨-, found⟩
          · exact lastU k' v' found spells (String.lt_trans before later)
          · exact lastL k' v' found spells later
      · next notBefore =>
        refine spelling?_eq_some_iff.mpr ⟨⟨?_, spellsU⟩, fun k' v' found spells later => ?_⟩
        · rw [NameMap.get?_overlay, foundU, Option.some_or]
        · rw [NameMap.get?_overlay, Option.or_eq_some_iff] at found
          rcases found with found | ⟨-, found⟩
          · exact lastU k' v' found spells later
          · exact notBefore (lt_of_lt_of_not_lt later (lastL k' v' found spells))

end CatalogConfig

end TableCatalog
