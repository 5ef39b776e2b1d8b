import TableCatalog.Proofs.Config.Reading
import TableCatalog.Proofs.Config.Switch

/-!
# What each field is resolved from

Where no field is given twice, each one has a raw value: the setting of the variable that names it,
else the text of the option that spells it, else none. A configuration is read exactly if each raw
value is sound for its field, and each field is what its own raw value makes. Otherwise the first
field with an unsound raw value is reported. Variables and options for no field play no part.

One variable should not count, and does: data tokens are taken from a variable, too, if it has
blanks behind the beginning of its name.
-/

namespace TableCatalog.CatalogConfig

open Environment

/-! ## Fields with their types -/

/-- The type of the values of a field. -/
@[reducible] def Field.Value : Field → Type
  | .dataTokenEnabled => Bool
  | .pageSizeDefault => Option UInt32
  | .tokenRefreshMarginMs => UInt64
  | .uri => Option Url
  | .warehouse => Option String

/-- The value of a field. -/
def get (c : CatalogConfig) : (f : Field) → f.Value
  | .dataTokenEnabled => c.dataTokenEnabled
  | .pageSizeDefault => c.pageSizeDefault
  | .tokenRefreshMarginMs => c.tokenRefreshMarginMs
  | .uri => c.uri
  | .warehouse => c.warehouse

/-- The value that a setting stands for, if it is sound for a field. -/
def Field.read : (f : Field) → Setting → Except Setting.Problem f.Value
  | .dataTokenEnabled => Setting.toBool
  | .pageSizeDefault => fun s => (s.toNatural 32).map (some ∘ UInt32.ofNat)
  | .tokenRefreshMarginMs => fun s => (s.toNatural 64).map UInt64.ofNat
  | .uri => fun s => s.toUrl.map some
  | .warehouse => fun s => s.toText.map some

/-- The order in which the fields are checked. -/
def Field.inOrder : List Field :=
  [.dataTokenEnabled, .pageSizeDefault, .tokenRefreshMarginMs, .uri, .warehouse]

/-- What a field is taken from: the setting of a layer, or nothing. -/
abbrev Raw := Option (Source × Setting)

/-- What a raw value makes of a field. -/
def Field.resolve (f : Field) : Raw → Except BadField f.Value
  | none => .ok (({} : CatalogConfig).get f)
  | some (source, s) => (f.read s).mapError fun problem => ⟨f, source, problem⟩

/-- What is wrong with a raw value for a field. -/
def Field.problem? (f : Field) (raw : Raw) : Option BadField :=
  match f.resolve raw with
  | .ok _ => none
  | .error b => some b

variable {options options' : Options} {env env' : Environment} {f : Field} {raw raw' : Raw}
variable {c c' : CatalogConfig} {b : BadField} {name text value : String}

theorem problem?_eq_some_iff : f.problem? raw = some b ↔ f.resolve raw = .error b := by
  unfold Field.problem?
  cases f.resolve raw <;> simp

theorem problem?_eq_none_iff : f.problem? raw = none ↔ ∃ a, f.resolve raw = .ok a := by
  unfold Field.problem?
  cases f.resolve raw <;> simp

/-- A problem is reported of the field that has it. -/
theorem field_of_resolve_eq_error (bad : f.resolve raw = .error b) : b.field = f := by
  cases raw with
  | none => cases bad
  | some given =>
    obtain ⟨source, s⟩ := given
    change (f.read s).mapError _ = .error b at bad
    cases read : f.read s with
    | ok a =>
      rw [read] at bad
      cases bad
    | error problem =>
      rw [read] at bad
      cases bad
      rfl

/-! ## Reading field by field -/

/-- The configuration that raw values make, field by field in their order. -/
def assemble (raw : Field → Raw) : Except BadField CatalogConfig := do
  let dataTokenEnabled ← Field.resolve .dataTokenEnabled (raw .dataTokenEnabled)
  let pageSizeDefault ← Field.resolve .pageSizeDefault (raw .pageSizeDefault)
  let tokenRefreshMarginMs ← Field.resolve .tokenRefreshMarginMs (raw .tokenRefreshMarginMs)
  let uri ← Field.resolve .uri (raw .uri)
  let warehouse ← Field.resolve .warehouse (raw .warehouse)
  return { dataTokenEnabled, uri, warehouse, tokenRefreshMarginMs, pageSizeDefault }

theorem value_eq_resolve (options : Options) (env : Environment) (f : Field) :
    CatalogConfig.value options env f f.read (({} : CatalogConfig).get f) =
      f.resolve (settingFor? options env f) := by
  unfold CatalogConfig.value
  cases settingFor? options env f with
  | none => rfl
  | some given =>
    obtain ⟨source, s⟩ := given
    dsimp only
    change _ = (f.read s).mapError _
    cases f.read s <;> rfl

theorem extract_eq_assemble (options : Options) (env : Environment) :
    extract options env = assemble (settingFor? options env) := by
  simp only [assemble, ← value_eq_resolve]
  rfl

variable {raws : Field → Raw}

/-- **Each field is what its own raw value makes of it.** -/
theorem assemble_eq_ok_iff :
    assemble raws = .ok c ↔ ∀ f : Field, f.resolve (raws f) = .ok (c.get f) := by
  unfold assemble
  simp only [bind_eq_ok_iff]
  constructor
  · rintro ⟨dataTokenEnabled, h₁, pageSizeDefault, h₂, tokenRefreshMarginMs, h₃, uri, h₄, warehouse,
      h₅, same⟩
    cases same
    intro f
    cases f with
    | dataTokenEnabled => exact h₁
    | pageSizeDefault => exact h₂
    | tokenRefreshMarginMs => exact h₃
    | uri => exact h₄
    | warehouse => exact h₅
  · intro resolved
    exact ⟨_, resolved .dataTokenEnabled, _, resolved .pageSizeDefault, _,
      resolved .tokenRefreshMarginMs, _, resolved .uri, _, resolved .warehouse, rfl⟩

/-- **The first problem is reported.** -/
theorem assemble_eq_error_iff :
    assemble raws = .error b ↔ Field.inOrder.findSome? (fun f => f.problem? (raws f)) = some b := by
  unfold assemble
  simp only [Field.inOrder, List.findSome?_cons, List.findSome?_nil, Field.problem?]
  cases Field.resolve .dataTokenEnabled (raws .dataTokenEnabled) with
  | error _ => simp [bind, Except.bind]
  | ok _ =>
    cases Field.resolve .pageSizeDefault (raws .pageSizeDefault) with
    | error _ => simp [bind, Except.bind]
    | ok _ =>
      cases Field.resolve .tokenRefreshMarginMs (raws .tokenRefreshMarginMs) with
      | error _ => simp [bind, Except.bind]
      | ok _ =>
        cases Field.resolve .uri (raws .uri) with
        | error _ => simp [bind, Except.bind]
        | ok _ =>
          cases Field.resolve .warehouse (raws .warehouse) <;>
            simp [bind, Except.bind, pure, Except.pure]

/-- A problem that is reported is the one of its own field, and no earlier field has one. -/
theorem assemble_eq_error_iff_first :
    assemble raws = .error b ↔
      ∃ before after, Field.inOrder = before ++ b.field :: after ∧
        (∀ f ∈ before, ∃ a, f.resolve (raws f) = .ok a) ∧
        b.field.resolve (raws b.field) = .error b := by
  rw [assemble_eq_error_iff, List.findSome?_eq_some_iff]
  constructor
  · rintro ⟨before, f, after, split, bad, sound⟩
    have bad := problem?_eq_some_iff.mp bad
    obtain rfl := field_of_resolve_eq_error bad
    exact ⟨before, after, split, fun g mem => problem?_eq_none_iff.mp (sound g mem), bad⟩
  · rintro ⟨before, after, split, sound, bad⟩
    exact ⟨before, b.field, after, split, problem?_eq_some_iff.mpr bad,
      fun g mem => problem?_eq_none_iff.mpr (sound g mem)⟩

theorem exists_assemble_eq_ok_iff :
    (∃ c, assemble raws = .ok c) ↔ ∀ f : Field, ∃ a, f.resolve (raws f) = .ok a := by
  constructor
  · rintro ⟨c, made⟩ f
    exact ⟨c.get f, assemble_eq_ok_iff.mp made f⟩
  · intro sound
    cases made : assemble raws with
    | ok c => exact ⟨c, rfl⟩
    | error b =>
      obtain ⟨-, -, -, -, bad⟩ := assemble_eq_error_iff_first.mp made
      obtain ⟨a, ok⟩ := sound b.field
      cases ok.symm.trans bad

/-! ## Layers -/

/-- A variable names a field. -/
def Names (name : String) (f : Field) : Prop := keyParts? name = some [f.name.toList]

/-- A variable names a field or something inside it. -/
def Concerns (name : String) (f : Field) : Prop :=
  ∃ inner, keyParts? name = some (f.name.toList :: inner)

instance (name : String) (f : Field) : Decidable (Names name f) :=
  inferInstanceAs (Decidable (_ = _))

instance (name : String) (f : Field) : Decidable (Concerns name f) :=
  decidable_of_iff ((keyParts? name).bind List.head? = some f.name.toList) <| by
    unfold Concerns
    cases keyParts? name with
    | none => simp
    | some parts => cases parts <;> simp

theorem names_dataTokenEnabled_iff : Names name .dataTokenEnabled ↔ Switches name :=
  keyParts?_eq_ignoredKey_iff

theorem settingOf?_of_names (names : Names name f) (value : String) :
    settingOf? f.name name value = some (Setting.Notation.read value) :=
  settingOf?_of_keyParts? names value

theorem concerns_of_settingOf? {s : Setting} (gives : settingOf? f.name name value = some s) :
    Concerns name f := by
  unfold settingOf? at gives
  split at gives
  · next part key =>
    split at gives
    · next same => exact ⟨[], same ▸ key⟩
    · cases gives
  · next part inner _ key =>
    split at gives
    · next same => exact ⟨inner, same ▸ key⟩
    · cases gives
  · cases gives

/-- Only variables that concern a field play a part in it. -/
theorem setting?_filter_concerns (env : Environment) (f : Field) :
    setting? (env.filter fun e => Concerns e.1 f) f.name = setting? env f.name := by
  have same (e : String × String) :
      (if decide (Concerns e.1 f) = true then settingOf? f.name e.1 e.2 else none) =
        settingOf? f.name e.1 e.2 := by
    split
    · rfl
    · next apart =>
      cases gives : settingOf? f.name e.1 e.2 with
      | none => rfl
      | some s => exact absurd (decide_eq_true (concerns_of_settingOf? gives)) apart
  rw [setting?, setting?, List.filterMap_filter, funext same]

theorem setting?_congr
    (same : env.filter (fun e => Concerns e.1 f) = env'.filter fun e => Concerns e.1 f) :
    setting? env f.name = setting? env' f.name := by
  rw [← setting?_filter_concerns env, same, setting?_filter_concerns]

/-- **What is for no field plays no part.** -/
theorem extract_congr
    (sameOptions : ∀ (f : Field) k, foldKey k = f.name → options.get? k = options'.get? k)
    (sameVariables : ∀ f : Field,
      env.filter (fun e => Concerns e.1 f) = env'.filter fun e => Concerns e.1 f) :
    extract options env = extract options' env' := by
  have same : settingFor? options env = settingFor? options' env' := by
    funext f
    unfold settingFor?
    rw [setting?_congr (sameVariables f), optionFor?_eq_spelling?, optionFor?_eq_spelling?,
      spelling?_congr (sameOptions f)]
  rw [extract_eq_assemble, extract_eq_assemble, same]

/-- In each layer a field is given at most once, and no variable leads inside a field. -/
structure Unambiguous (options : Options) (env : Environment) : Prop where
  option_unique : ∀ (f : Field) k k' v v', options.get? k = some v → options.get? k' = some v' →
    foldKey k = f.name → foldKey k' = f.name → k = k'
  variable_unique : ∀ f : Field, ∀ e ∈ env, ∀ e' ∈ env, Names e.1 f → Names e'.1 f → e = e'
  flat : ∀ f : Field, ∀ e ∈ env, Concerns e.1 f → Names e.1 f

/-- Whether fields are given twice can be seen from the entries. -/
theorem unambiguous_of_entries
    (optionUnique : ∀ f ∈ Field.inOrder, ∀ e ∈ options.toList, ∀ e' ∈ options.toList,
      foldKey e.1 = f.name → foldKey e'.1 = f.name → e.1 = e'.1)
    (variableUnique : ∀ f ∈ Field.inOrder, ∀ e ∈ env, ∀ e' ∈ env,
      Names e.1 f → Names e'.1 f → e = e')
    (flat : ∀ f ∈ Field.inOrder, ∀ e ∈ env, Concerns e.1 f → Names e.1 f) :
    Unambiguous options env := by
  have all (f : Field) : f ∈ Field.inOrder := by cases f <;> decide
  have mem {k v : String} (found : options.get? k = some v) : (k, v) ∈ options.toList :=
    NameMap.get?_eq_some_iff_mem.mp found
  refine ⟨?_, fun f => variableUnique f (all f), fun f => flat f (all f)⟩
  intro f k k' v v' found found'
  exact optionUnique f (all f) (k, v) (mem found) (k', v') (mem found')

/-- The raw value of a field is what the uppermost layer gives, of environment and options. -/
inductive Effective (options : Options) (env : Environment) (f : Field) : Raw → Prop
  | fromEnvironment {name value : String} : (name, value) ∈ env → Names name f →
      Effective options env f (some (.environment, Setting.Notation.read value))
  | fromOptions {key text : String} : (∀ e ∈ env, ¬ Names e.1 f) →
      options.get? key = some text → foldKey key = f.name →
      Effective options env f (some (.options, .text text))
  | builtIn : (∀ e ∈ env, ¬ Names e.1 f) →
      (∀ key text, options.get? key = some text → foldKey key ≠ f.name) →
      Effective options env f none

theorem exists_effective (options : Options) (env : Environment) (f : Field) :
    ∃ raw, Effective options env f raw := by
  by_cases named : ∃ e ∈ env, Names e.1 f
  · obtain ⟨e, mem, names⟩ := named
    exact ⟨_, .fromEnvironment mem names⟩
  · have unnamed : ∀ e ∈ env, ¬ Names e.1 f := fun e mem names => named ⟨e, mem, names⟩
    cases counts : spelling? options f with
    | none => exact ⟨_, .builtIn unnamed (spelling?_eq_none_iff.mp counts)⟩
    | some given =>
      obtain ⟨⟨found, spells⟩, -⟩ := spelling?_eq_some_iff.mp counts
      exact ⟨_, .fromOptions unnamed found spells⟩

namespace Unambiguous

variable (plain : Unambiguous options env)
include plain

theorem optionFor?_eq_some {key : String} (found : options.get? key = some text)
    (spells : foldKey key = f.name) : optionFor? options f = some text := by
  have counts : spelling? options f = some (key, text) := by
    refine spelling?_eq_some_iff.mpr ⟨⟨found, spells⟩, ?_⟩
    intro key' text' found' spells' later
    obtain rfl := plain.option_unique f key key' text text' found found' spells spells'
    exact String.lt_irrefl key later
  rw [optionFor?_eq_spelling?, counts, Option.map_some]

theorem setting?_eq_some (mem : (name, value) ∈ env) (names : Names name f) :
    setting? env f.name = some (Setting.Notation.read value) := by
  have gives := settingOf?_of_names names value
  cases given : setting? env f.name with
  | none => cases gives.symm.trans (setting?_eq_none_iff.mp given (name, value) mem)
  | some s =>
    obtain ⟨earlier, e, later, rfl, gives', -⟩ := setting?_eq_some_iff.mp given
    have mem' : e ∈ earlier ++ e :: later := List.mem_append_right _ List.mem_cons_self
    have names' := plain.flat f e mem' (concerns_of_settingOf? gives')
    obtain rfl := plain.variable_unique f (name, value) mem e mem' names names'
    exact gives'.symm.trans gives

theorem setting?_eq_none (unnamed : ∀ e ∈ env, ¬ Names e.1 f) : setting? env f.name = none := by
  rw [setting?_eq_none_iff]
  intro e mem
  cases gives : settingOf? f.name e.1 e.2 with
  | none => rfl
  | some s =>
    have names := plain.flat f e mem (concerns_of_settingOf? gives)
    exact absurd names (unnamed e mem)

theorem settingFor?_eq_of_effective (effective : Effective options env f raw) :
    settingFor? options env f = raw := by
  unfold settingFor?
  cases effective with
  | fromEnvironment mem names => rw [plain.setting?_eq_some mem names]
  | fromOptions unnamed found spells =>
    rw [plain.setting?_eq_none unnamed, plain.optionFor?_eq_some found spells]
    rfl
  | builtIn unnamed unspelled =>
    rw [plain.setting?_eq_none unnamed, optionFor?_eq_spelling?,
      spelling?_eq_none_iff.mpr unspelled]
    rfl

theorem effective_iff : Effective options env f raw ↔ settingFor? options env f = raw := by
  constructor
  · exact plain.settingFor?_eq_of_effective
  · rintro rfl
    obtain ⟨raw, effective⟩ := exists_effective options env f
    rwa [plain.settingFor?_eq_of_effective effective]

end Unambiguous

/-- **Each field follows its own layers.** Where no field is given twice, every field has one raw
value. A configuration is read exactly if all raw values are sound, each field is what its own raw
value makes of it, whatever the others are, and otherwise the first field with an unsound raw value
is reported. Options and variables for no field change nothing. Only variables that switch data
tokens, by blanks behind the beginning of their names, give these a raw value. -/
theorem fields_follow_their_own_layers (plain : Unambiguous options env) :
    (∀ f, ∃ raw, ∀ raw', Effective options env f raw' ↔ raw' = raw) ∧
    (∀ c, extract options env = .ok c ↔
      ∀ (f : Field) raw, Effective options env f raw → f.resolve raw = .ok (c.get f)) ∧
    ((∃ c, extract options env = .ok c) ↔
      ∀ (f : Field) raw, Effective options env f raw → ∃ a, f.resolve raw = .ok a) ∧
    (∀ b, extract options env = .error b ↔
      ∃ before after raw, Field.inOrder = before ++ b.field :: after ∧
        (∀ f ∈ before, ∀ raw, Effective options env f raw → ∃ a, f.resolve raw = .ok a) ∧
        Effective options env b.field raw ∧ b.field.resolve raw = .error b) ∧
    (∀ options' env' c c' f raw, Unambiguous options' env' → Effective options env f raw →
      Effective options' env' f raw → extract options env = .ok c →
      extract options' env' = .ok c' → c.get f = c'.get f) ∧
    (∀ options' env',
      (∀ (f : Field) k, foldKey k = f.name → options.get? k = options'.get? k) →
      (∀ f : Field,
        env.filter (fun e => Concerns e.1 f) = env'.filter fun e => Concerns e.1 f) →
      extract options env = extract options' env') ∧
    ∀ name, Names name .dataTokenEnabled ↔ Switches name := by
  refine ⟨?_, ?_, ?_, ?_, ?_, fun options' env' => extract_congr,
    fun name => names_dataTokenEnabled_iff⟩
  · intro f
    simp only [plain.effective_iff]
    exact ⟨_, fun raw' => eq_comm⟩
  · intro c
    simp only [plain.effective_iff, forall_eq']
    rw [extract_eq_assemble, assemble_eq_ok_iff]
  · simp only [plain.effective_iff, forall_eq', extract_eq_assemble]
    exact exists_assemble_eq_ok_iff
  · intro b
    simp only [plain.effective_iff, forall_eq', extract_eq_assemble, assemble_eq_error_iff_first]
    refine exists_congr fun before => exists_congr fun after => ?_
    constructor
    · rintro ⟨split, sound, bad⟩
      exact ⟨_, split, sound, rfl, bad⟩
    · rintro ⟨raw, split, sound, rfl, bad⟩
      exact ⟨split, sound, bad⟩
  · intro options' env' c c' f raw plain' effective effective' read read'
    rw [extract_eq_assemble, assemble_eq_ok_iff] at read read'
    have made := read f
    have made' := read' f
    rw [plain.effective_iff.mp effective] at made
    rw [plain'.effective_iff.mp effective'] at made'
    exact Except.ok.inj (made.symm.trans made')

namespace Sample

/-- Options of which one does not do for its field, and one is for no field. -/
def lateMargin : Options := .ofList
  [("Data-Token.Enabled", "on"), ("fs.endpoint", "eu"), ("token.refresh-margin_ms", "soon")]

/-- An environment with a page size that is no number, and with a variable for no field. -/
def manyNames : Environment :=
  [("LAKECAT__REGION__NAME", "eu"), ("lakecat__page_size_default", "many")]

theorem unambiguous_lateMargin : Unambiguous lateMargin manyNames :=
  unambiguous_of_entries (by decide +kernel) (by decide +kernel) (by decide +kernel)

theorem unambiguous_blankBehindPrefix : Unambiguous withoutTokens blankBehindPrefix :=
  unambiguous_of_entries (by decide +kernel) (by decide +kernel) (by decide +kernel)

end Sample

theorem own_layers_of_lateMargin :
    Unambiguous Sample.lateMargin Sample.manyNames ∧
      extract Sample.lateMargin Sample.manyNames =
        .error ⟨.pageSizeDefault, .environment, .wrongType "string \"many\"" "u32"⟩ := by
  have plain := Sample.unambiguous_lateMargin
  obtain ⟨-, -, -, fails, -⟩ := fields_follow_their_own_layers plain
  have found : ("lakecat__page_size_default", "many") ∈ Sample.manyNames := by decide +kernel
  have names : Names "lakecat__page_size_default" .pageSizeDefault := by decide +kernel
  refine ⟨plain, (fails _).mpr
    ⟨[.dataTokenEnabled], _, _, rfl, ?_, .fromEnvironment found names, ?_⟩⟩
  · intro f first raw effective
    obtain rfl := List.mem_singleton.mp first
    rw [← plain.effective_iff.mp effective]
    exact problem?_eq_none_iff.mp (by decide +kernel)
  · exact problem?_eq_some_iff.mp (by decide +kernel)

/-- It is not so that data tokens are as the options say where these say something. -/
theorem variable_gives_data_tokens :
    ¬ ∀ (options : Options) (env : Environment) (c : CatalogConfig),
      Unambiguous options env → extract options env = .ok c →
        ∀ key text, options.get? key = some text → foldKey key = Field.dataTokenEnabled.name →
          Field.dataTokenEnabled.resolve (some (.options, .text text)) =
            .ok (c.get .dataTokenEnabled) := by
  intro agree
  have read : extract Sample.withoutTokens Sample.blankBehindPrefix =
      .ok { dataTokenEnabled := true } := eq_ok_of_toOption (by decide +kernel)
  have said := agree _ _ _ Sample.unambiguous_blankBehindPrefix read "data-token-enabled" "off"
    (by decide +kernel) (by decide +kernel)
  have off : (Field.dataTokenEnabled.resolve (some (.options, .text "off"))).toOption =
      some false := by decide +kernel
  rw [said] at off
  cases off

end TableCatalog.CatalogConfig
