import Mathlib.Data.List.Forall2
import TableCatalog.Proofs.Config.Precedence
import TableCatalog.Proofs.Json.Shown

/-!
# A configuration is read as it was written

A configuration is written as options, each field that is present under some spelling of its name.
Whatever spellings are chosen, the same configuration is read from these options: every key is
folded to the name of its field, and every text is read as the value that it was made of.
-/

namespace TableCatalog

/-- Entries of which no two have the same name make a map with just these entries. -/
theorem NameMap.get?_ofList_eq_some_iff {β : Type} {pairs : List (String × β)} {k : String} {v : β}
    (functional : ∀ v v', (k, v) ∈ pairs → (k, v') ∈ pairs → v = v') :
    (ofList pairs).get? k = some v ↔ (k, v) ∈ pairs := by
  have same {p : String × β} (found : pairs.reverse.find? (·.1 = k) = some p) :
      (k, p.2) ∈ pairs := by
    have named : p.1 = k := by simpa using List.find?_some found
    rw [← named]
    exact List.mem_reverse.mp (List.mem_of_find?_eq_some found)
  rw [ofList, get?_insertMany, get?_empty, Option.or_none, Option.map_eq_some_iff]
  constructor
  · rintro ⟨p, found, rfl⟩
    exact same found
  · intro mem
    cases found : pairs.reverse.find? (·.1 = k) with
    | none =>
      have missed := List.find?_eq_none.mp found _ (List.mem_reverse.mpr mem)
      exact absurd (decide_eq_true rfl) missed
    | some p => exact ⟨p, rfl, functional _ _ (same found) mem⟩

/-! ## Numbers in settings -/

namespace Setting

theorem natural?_toDigits (n : Nat) : natural? (Nat.toDigits 10 n) = some n := by
  have digits : (Nat.toDigits 10 n).all Text.isDigit = true := by
    rw [List.all_eq_true]
    exact fun c mem => (Json.isDigit_eq c).trans (Json.isDigit_of_mem_toDigits mem)
  rw [natural?, if_pos ⟨Nat.toDigits_ne_nil, digits⟩, Json.decimalValue_toDigits]

theorem integer?_toDigits {bound n : Nat} (below : n < bound) :
    integer? bound (Nat.toDigits 10 n) = some (.unsigned n) := by
  have digits (c : Char) (mem : c ∈ Nat.toDigits 10 n) : c ≠ '-' ∧ c ≠ '+' := by
    have digit := Json.isDigit_of_mem_toDigits mem
    constructor <;> rintro rfl <;> exact absurd digit (by decide)
  have read := natural?_toDigits n
  cases written : Nat.toDigits 10 n with
  | nil => exact absurd written Nat.toDigits_ne_nil
  | cons c cs =>
    obtain ⟨minus, plus⟩ := digits c (written ▸ List.mem_cons_self)
    rw [written] at read
    have unsigned : plusNatural? (c :: cs) = some n := by
      rw [plusNatural?, read]
      exact fun rest same => plus (List.cons.inj same).1
    rw [integer?, unsigned]
    · simp [Option.filter, below]
    · exact fun rest same => minus (List.cons.inj same).1

/-- The digits of a number of at most 128 bits are read as this number. -/
theorem number?_toString {n : Nat} (below : n < Nat.pow 2 128) :
    number? (toString n) = some (.unsigned n) := by
  have digits (c : Char) (mem : c ∈ Nat.toDigits 10 n) : c.isDigit = true :=
    Json.isDigit_of_mem_toDigits mem
  have black (c : Char) (mem : c ∈ Nat.toDigits 10 n) : Text.isBlank c = false := by
    refine not_isBlank_of_wordChar (.inl ?_)
    rw [Char.isAlphanum, digits c mem, Bool.or_true]
  have trimmed : Text.trimWhere Text.isBlank (toString n).toList = Nat.toDigits 10 n := by
    rw [Nat.toString_eq_ofList_toDigits, String.toList_ofList]
    exact Text.trimWhere_eq_self black
  have noPoint : '.' ∉ Nat.toDigits 10 n := fun mem => absurd (digits '.' mem) (by decide)
  simp only [number?, trimmed]
  rw [if_neg noPoint, integer?_toDigits below]

/-- A number is read from its digits wherever it fits. -/
theorem toNatural_toString {bits n : Nat} (below : n < Nat.pow 2 bits) (few : bits ≤ 128) :
    (Setting.text (toString n)).toNatural bits = .ok n := by
  have short : n < Nat.pow 2 128 := Nat.lt_of_lt_of_le below (Nat.pow_le_pow_right (by decide) few)
  have number : (Setting.text (toString n)).asNumber = .unsigned n := by
    rw [asNumber, number?_toString short, Option.getD_some]
  rw [toNatural, number]
  exact if_pos below

end Setting

namespace CatalogConfig

/-! ## Spellings of a field -/

/-- A character that can stand in a key for a character of the name of a field: a letter in either
case, and three marks between words. -/
def StandsFor (c d : Char) : Prop :=
  (d = '_' ∧ c ∈ ['_', '-', '.']) ∨ (c.isAlpha = true ∧ c.toLower = d)

instance (c d : Char) : Decidable (StandsFor c d) := inferInstanceAs (Decidable (_ ∨ _))

/-- A key that is the name of a field, in any letter case and with any of three marks between words,
between blanks. -/
def Field.IsSpelledBy (f : Field) (key : String) : Prop :=
  ∃ front body back, key.toList = front ++ body ++ back ∧ (∀ c ∈ front, Text.isBlank c) ∧
    (∀ c ∈ back, Text.isBlank c) ∧ List.Forall₂ StandsFor body f.name.toList

variable {c d : Char} {body name : List Char} {f f' : Field} {key : String}

theorem StandsFor.not_isBlank (stands : StandsFor c d) : Text.isBlank c = false := by
  rcases stands with ⟨-, mark⟩ | ⟨letter, -⟩
  · simp only [List.mem_cons, List.not_mem_nil, or_false] at mark
    rcases mark with rfl | rfl | rfl <;> decide
  · exact not_isBlank_of_wordChar (.inl (by rw [Char.isAlphanum, letter, Bool.true_or]))

theorem StandsFor.foldChar_eq (stands : StandsFor c d) : foldChar c = d := by
  rcases stands with ⟨rfl, mark⟩ | ⟨letter, rfl⟩
  · simp only [List.mem_cons, List.not_mem_nil, or_false] at mark
    rcases mark with rfl | rfl | rfl <;> decide
  · have range := range_of_wordChar (c := c) (.inl (by rw [Char.isAlphanum, letter, Bool.true_or]))
    have noMark : ¬ (c = '-' ∨ c = '.') := by
      rintro (rfl | rfl) <;> exact absurd letter (by decide)
    rw [foldChar, if_neg noMark, if_neg (by omega)]

theorem map_foldChar_of_standsFor (stands : List.Forall₂ StandsFor body name) :
    body.map foldChar = name := by
  induction stands with
  | nil => rfl
  | cons first _ ih => rw [List.map_cons, first.foldChar_eq, ih]

theorem not_isBlank_of_mem (stands : List.Forall₂ StandsFor body name) :
    ∀ c ∈ body, Text.isBlank c = false := by
  induction stands with
  | nil => simp
  | cons first _ ih => exact List.forall_mem_cons.mpr ⟨first.not_isBlank, ih⟩

/-- Every spelling of a field is folded to its name. -/
theorem Field.IsSpelledBy.foldKey_eq (spelled : f.IsSpelledBy key) : foldKey key = f.name := by
  obtain ⟨front, body, back, split, before, behind, stands⟩ := spelled
  have trimmed : (Text.trim key).toList = body := by
    rw [Text.trim, String.toList_ofList, split, List.append_assoc, Text.trimWhere_append before,
      Text.trimWhere_append_of_behind (not_isBlank_of_mem stands) behind]
  rw [← String.toList_inj, foldKey, String.toList_map, trimmed, map_foldChar_of_standsFor stands]

theorem Field.name_injective : Function.Injective Field.name := by
  intro f f' same
  cases f <;> cases f' <;> first | rfl | exact absurd same (by decide)

/-! ## Writing a configuration as options -/

/-- What is written of a field, if it is present. -/
def written (c : CatalogConfig) : Field → Option String
  | .dataTokenEnabled => some (if c.dataTokenEnabled then "true" else "false")
  | .pageSizeDefault => c.pageSizeDefault.map fun n => toString n.toNat
  | .tokenRefreshMarginMs => some (toString c.tokenRefreshMarginMs.toNat)
  | .uri => c.uri.map Url.text
  | .warehouse => c.warehouse

/-- A configuration as options, with a key for every field. -/
def toOptions (c : CatalogConfig) (key : Field → String) : Options :=
  .ofList (Field.inOrder.filterMap fun f => (c.written f).map (key f, ·))

theorem mem_inOrder (f : Field) : f ∈ Field.inOrder := by
  cases f <;> decide

section

variable {config : CatalogConfig} {keys : Field → String}
  (spelled : ∀ f : Field, f.IsSpelledBy (keys f))
include spelled

theorem keys_injective : Function.Injective keys := by
  intro f f' same
  apply Field.name_injective
  rw [← (spelled f).foldKey_eq, same, (spelled f').foldKey_eq]

theorem get?_toOptions_eq_some_iff {key text : String} :
    (config.toOptions keys).get? key = some text ↔
      ∃ f, keys f = key ∧ config.written f = some text := by
  have mem (text : String) : (key, text) ∈ (Field.inOrder.filterMap fun f =>
      (config.written f).map (keys f, ·)) ↔ ∃ f, keys f = key ∧ config.written f = some text := by
    simp only [List.mem_filterMap, mem_inOrder, true_and, Option.map_eq_some_iff, Prod.mk.injEq]
    refine exists_congr fun f => ⟨?_, ?_⟩
    · rintro ⟨_, is, same, rfl⟩
      exact ⟨same, is⟩
    · rintro ⟨same, is⟩
      exact ⟨text, is, same, rfl⟩
  rw [toOptions, NameMap.get?_ofList_eq_some_iff, mem]
  intro text text' one other
  obtain ⟨f, rfl, is⟩ := (mem text).mp one
  obtain ⟨f', same, is'⟩ := (mem text').mp other
  obtain rfl := keys_injective spelled same
  exact Option.some.inj (is.symm.trans is')

/-- The option for a field is what was written of it. -/
theorem optionFor?_toOptions (f : Field) :
    optionFor? (config.toOptions keys) f = config.written f := by
  -- only the key of the field itself is folded to its name
  have own {key text : String} (found : (config.toOptions keys).get? key = some text)
      (spells : foldKey key = f.name) : key = keys f ∧ config.written f = some text := by
    obtain ⟨f', rfl, is⟩ := (get?_toOptions_eq_some_iff spelled).mp found
    rw [(spelled f').foldKey_eq] at spells
    obtain rfl := Field.name_injective spells
    exact ⟨rfl, is⟩
  rw [optionFor?_eq_spelling?]
  cases is : config.written f with
  | none =>
    have unspelled : spelling? (config.toOptions keys) f = none := by
      refine spelling?_eq_none_iff.mpr fun key text found spells => ?_
      cases is.symm.trans (own found spells).2
    rw [unspelled, Option.map_none]
  | some text =>
    have counts : spelling? (config.toOptions keys) f = some (keys f, text) := by
      refine spelling?_eq_some_iff.mpr ⟨⟨?_, (spelled f).foldKey_eq⟩, ?_⟩
      · exact (get?_toOptions_eq_some_iff spelled).mpr ⟨f, rfl, is⟩
      · intro key' text' found spells later
        rw [(own found spells).1] at later
        exact String.lt_irrefl _ later
    rw [counts, Option.map_some]

end

/-! ## Reading what was written -/

theorem toBool_of_bool (b : Bool) :
    (Setting.text (if b then "true" else "false")).toBool = .ok b := by
  cases b <;> exact eq_ok_of_toOption (by decide +kernel)

/-- Each field is taken from what was written of it. -/
theorem isTaken_written {config : CatalogConfig}
    (stable : ∀ u ∈ config.uri, Url.parse u.text = .ok u) (f : Field) :
    f.IsTaken (config.written f) config := by
  cases f with
  | dataTokenEnabled => exact toBool_of_bool config.dataTokenEnabled
  | pageSizeDefault =>
    rw [Field.IsTaken, written]
    cases config.pageSizeDefault with
    | none => exact rfl
    | some n =>
      have read := Setting.toNatural_toString (n := n.toNat) n.toNat_lt (by decide)
      show Except.map (some ∘ UInt32.ofNat) _ = .ok (some n)
      rw [read]
      exact congrArg (Except.ok ∘ some) UInt32.ofNat_toNat
  | tokenRefreshMarginMs =>
    have read := Setting.toNatural_toString (n := config.tokenRefreshMarginMs.toNat)
      config.tokenRefreshMarginMs.toNat_lt (by decide)
    show Except.map UInt64.ofNat _ = .ok config.tokenRefreshMarginMs
    rw [read]
    exact congrArg Except.ok UInt64.ofNat_toNat
  | uri =>
    rw [Field.IsTaken, written]
    cases is : config.uri with
    | none => exact rfl
    | some u =>
      show Except.map some (Setting.text u.text).toUrl = .ok (some u)
      have read : (Setting.text u.text).toUrl = .ok u := by
        simp only [Setting.toUrl, Setting.textFor, stable u is]
      rw [read]
      rfl
  | warehouse =>
    rw [Field.IsTaken, written]
    cases config.warehouse <;> exact rfl

/-- **A configuration is read as it was written**, whatever spelling is chosen for the key of each
field. That the text of a URL is read as the URL is asked of the one in the configuration. -/
theorem config_is_read_as_written {config : CatalogConfig} {keys : Field → String}
    {env : Environment} (spelled : ∀ f : Field, f.IsSpelledBy (keys f))
    (stable : ∀ u ∈ config.uri, Url.parse u.text = .ok u) (silent : Environment.Silent env) :
    extract (config.toOptions keys) env = .ok config := by
  refine (extract_eq_ok_iff silent).mpr fun f => ?_
  rw [optionFor?_toOptions spelled]
  exact isTaken_written stable f

namespace Sample

/-- The greatest numbers, a warehouse that looks like a number, and the address of a service. -/
def allPresent : CatalogConfig where
  dataTokenEnabled := true
  uri := some { scheme := "http", host := some (.name "localhost"), port := some 8080,
                path := .segments [""] }
  warehouse := some "007"
  tokenRefreshMarginMs := 18446744073709551615
  pageSizeDefault := some 4294967295

/-- A spelling of each field. -/
def mixedKeys : Field → String
  | .dataTokenEnabled => "data-token.enabled"
  | .pageSizeDefault => " Page_Size-Default"
  | .tokenRefreshMarginMs => "TOKEN.REFRESH.MARGIN.MS"
  | .uri => "\tUri "
  | .warehouse => "warehouse"

theorem isSpelledBy_mixedKeys (f : Field) : f.IsSpelledBy (mixedKeys f) := by
  cases f with
  | dataTokenEnabled =>
    exact ⟨[], "data-token.enabled".toList, [], rfl, by simp, by simp, by decide +kernel⟩
  | pageSizeDefault =>
    exact ⟨[' '], "Page_Size-Default".toList, [], rfl,
      List.forall_mem_singleton.mpr (by decide), by simp, by decide +kernel⟩
  | tokenRefreshMarginMs =>
    exact ⟨[], "TOKEN.REFRESH.MARGIN.MS".toList, [], rfl, by simp, by simp, by decide +kernel⟩
  | uri =>
    exact ⟨['\t'], "Uri".toList, [' '], rfl, List.forall_mem_singleton.mpr (by decide),
      List.forall_mem_singleton.mpr (by decide), by decide +kernel⟩
  | warehouse => exact ⟨[], "warehouse".toList, [], rfl, by simp, by simp, by decide +kernel⟩

theorem uri_allPresent_stable : ∀ u ∈ allPresent.uri, Url.parse u.text = .ok u := by
  have same : Url.parse "http://localhost:8080/" = .ok (allPresent.uri.get rfl) := by
    decide +kernel
  intro u is
  cases is
  exact same

end Sample

theorem read_as_written_of_allPresent :
    (∀ f, Field.IsSpelledBy f (Sample.mixedKeys f)) ∧
      (∀ u ∈ Sample.allPresent.uri, Url.parse u.text = .ok u) ∧ Environment.Silent [] ∧
      extract (Sample.allPresent.toOptions Sample.mixedKeys) [] = .ok Sample.allPresent := by
  have spelled := Sample.isSpelledBy_mixedKeys
  have stable := Sample.uri_allPresent_stable
  have silent : Environment.Silent [] := List.forall_mem_nil _
  exact ⟨spelled, stable, silent, config_is_read_as_written spelled stable silent⟩

end CatalogConfig

end TableCatalog
