import TableCatalog.Proofs.Config.Reading
import TableCatalog.Proofs.Text.Blank

/-!
# Variables that switch data tokens

The one key that no variable of the environment gives is compared before the rest of a name is
trimmed. So a name with blanks between its beginning and this key passes, and the key is read from
it after all. These are all the names that do: every other environment leaves data tokens to the
options, and of several such variables the last one counts.
-/

namespace TableCatalog

namespace Environment

open CatalogConfig Text

variable {name : String} {cs rest blanks : List Char}

theorem lowered_trimWhere (cs : List Char) :
    lowered (trimWhere isBlank cs) = trimWhere isBlank (lowered cs) := by
  have same : isBlank ∘ Char.toLower = isBlank := funext isBlank_toLower
  simp only [lowered, trimWhere, List.dropWhile_map, same, ← List.map_reverse]

/-- A text that was trimmed has no blanks at its end, in any letter case. -/
theorem eq_nil_of_lowered_trimWhere {front back : List Char}
    (ends : lowered (trimWhere isBlank cs) = front ++ back) (blank : ∀ c ∈ back, isBlank c) :
    back = [] := by
  rcases List.eq_nil_or_concat back with none | ⟨init, c, rfl⟩
  · exact none
  · rw [List.concat_eq_append, ← List.append_assoc] at ends
    obtain ⟨before, last, split, -, lower⟩ := List.map_eq_append_iff.mp ends
    obtain ⟨d, rfl, rfl⟩ := List.map_eq_singleton_iff.mp lower
    have blankLast : isBlank d := by
      rw [← isBlank_toLower]
      exact blank _ (by simp)
    rw [not_of_trimWhere_eq_append split] at blankLast
    cases blankLast

/-! ## Full stops for double underscores -/

theorem withFullStops_cons {c : Char} (single : ∀ later, c = '_' → rest ≠ '_' :: later) :
    withFullStops (c :: rest) = c :: withFullStops rest := by
  rw [withFullStops]
  exact single

theorem lowered_withFullStops (cs : List Char) :
    lowered (withFullStops cs) = withFullStops (lowered cs) := by
  fun_induction withFullStops cs with
  | case1 rest ih =>
    show '.' :: lowered (withFullStops rest) = '.' :: withFullStops (lowered rest)
    rw [ih]
  | case2 c rest single ih =>
    have stillSingle : ∀ later, c.toLower = '_' → lowered rest ≠ '_' :: later := by
      intro later first second
      obtain ⟨d, rest', rfl, second, -⟩ := List.map_eq_cons_iff.mp second
      exact single rest' (toLower_eq_underscore_iff.mp first)
        (by rw [toLower_eq_underscore_iff.mp second])
    show c.toLower :: lowered (withFullStops rest) = withFullStops (c.toLower :: lowered rest)
    rw [withFullStops_cons stillSingle, ih]
  | case3 => rfl

/-- Without a full stop in the result there was no double underscore. -/
theorem withFullStops_of_not_mem (none : '.' ∉ withFullStops cs) : withFullStops cs = cs := by
  fun_induction withFullStops cs with
  | case1 rest ih => exact absurd List.mem_cons_self none
  | case2 c rest single ih => rw [ih fun mem => none (List.mem_cons_of_mem c mem)]
  | case3 => rfl

theorem withFullStops_append_of_blank (blank : ∀ c ∈ blanks, isBlank c) (cs : List Char) :
    withFullStops (blanks ++ cs) = blanks ++ withFullStops cs := by
  induction blanks with
  | nil => rfl
  | cons c blanks ih =>
    have single : ∀ later, c = '_' → blanks ++ cs ≠ '_' :: later := by
      rintro later rfl
      exact absurd (blank '_' List.mem_cons_self) (by decide)
    rw [List.cons_append, withFullStops_cons single,
      ih fun d mem => blank d (List.mem_cons_of_mem c mem), List.cons_append]

/-! ## The names that switch -/

/-- The name of a variable that switches data tokens: blanks stand between the beginning of the name
and the key that no variable gives. -/
def Switches (name : String) : Prop :=
  ∃ blanks, blanks ≠ [] ∧ (∀ c ∈ blanks, isBlank c) ∧
    lowered (trimWhere isBlank name.toList) = lowered namePrefix ++ blanks ++ ignoredKey

theorem afterPrefix?_eq_some_iff :
    afterPrefix? cs = some rest ↔
      ∃ start, trimWhere isBlank cs = start ++ rest ∧ lowered start = lowered namePrefix := by
  unfold afterPrefix?
  dsimp only
  constructor
  · intro found
    split at found
    · next begins =>
      refine ⟨_, ?_, begins⟩
      rw [← Option.some.inj found, List.take_append_drop]
    · cases found
  · rintro ⟨start, split, begins⟩
    have long : start.length = namePrefix.length := by
      simpa [lowered] using congrArg List.length begins
    rw [split, List.take_left' long, List.drop_left' long, if_pos begins]

theorem keyParts?_eq_some_iff {parts : List (List Char)} :
    keyParts? name = some parts ↔
      ∃ rest, afterPrefix? name.toList = some rest ∧ lowered (withFullStops rest) ≠ ignoredKey ∧
        (lowered (trimWhere isBlank (withFullStops rest))).splitOn '.' = parts ∧ [] ∉ parts := by
  unfold keyParts?
  cases afterPrefix? name.toList with
  | none => simp
  | some rest =>
    simp only [Option.map_some, Option.some.injEq, exists_eq_left']
    split
    · next ignored => simp [ignored]
    · next other =>
      constructor
      · intro found
        split at found
        · cases found
        · next full =>
          cases found
          exact ⟨other, rfl, by simpa using full⟩
      · rintro ⟨-, rfl, full⟩
        rw [if_neg (by simpa using full)]

/-- The key that no variable gives is read from the names that switch, and from no other ones. -/
theorem keyParts?_eq_ignoredKey_iff : keyParts? name = some [ignoredKey] ↔ Switches name := by
  rw [keyParts?_eq_some_iff]
  constructor
  · rintro ⟨rest, after, other, key, -⟩
    obtain ⟨start, split, begins⟩ := afterPrefix?_eq_some_iff.mp after
    have key : trimWhere isBlank (withFullStops (lowered rest)) = ignoredKey := by
      rw [lowered_trimWhere, lowered_withFullStops] at key
      calc trimWhere isBlank (withFullStops (lowered rest))
        _ = ['.'].intercalate ((trimWhere isBlank (withFullStops (lowered rest))).splitOn '.') :=
          (List.intercalate_splitOn '.').symm
        _ = ['.'].intercalate [ignoredKey] := by rw [key]
        _ = ignoredKey := List.intercalate_singleton
    obtain ⟨front, back, whole, blank, blankBack⟩ :=
      exists_trimWhere_eq isBlank (withFullStops (lowered rest))
    rw [key] at whole
    -- there is no full stop, so the rest of the name is the key between blanks
    have noStop : '.' ∉ withFullStops (lowered rest) := by
      have notBlank : ¬ isBlank '.' := by decide
      rw [whole, List.mem_append, List.mem_append]
      rintro ((mem | mem) | mem)
      · exact notBlank (blank '.' mem)
      · exact absurd mem (by decide)
      · exact notBlank (blankBack '.' mem)
    have same := withFullStops_of_not_mem noStop
    rw [lowered_withFullStops, same] at other
    rw [same] at whole
    have named : lowered (trimWhere isBlank name.toList) =
        lowered namePrefix ++ front ++ ignoredKey ++ back := by
      rw [split, lowered, List.map_append, ← lowered, ← lowered, begins, whole]
      simp only [List.append_assoc]
    obtain rfl := eq_nil_of_lowered_trimWhere named blankBack
    rw [List.append_nil] at named whole
    refine ⟨front, ?_, blank, named⟩
    rintro rfl
    exact other whole
  · rintro ⟨blanks, some, blank, named⟩
    rw [List.append_assoc] at named
    obtain ⟨start, rest, split, begins, ends⟩ := List.map_eq_append_iff.mp named
    have key : lowered (withFullStops rest) = blanks ++ ignoredKey := by
      rw [lowered_withFullStops, lowered, ends, withFullStops_append_of_blank blank]
      rfl
    refine ⟨rest, afterPrefix?_eq_some_iff.mpr ⟨start, split, begins⟩, ?_, ?_, by decide⟩
    · rw [key]
      simpa using some
    · rw [lowered_trimWhere, key, trimWhere_append blank]
      decide

instance (name : String) : Decidable (Switches name) :=
  decidable_of_iff _ keyParts?_eq_ignoredKey_iff

/-! ## The setting of a field -/

variable {env : Environment} {field value : String} {s : Setting}

theorem setting?_eq_none_iff :
    setting? env field = none ↔ ∀ e ∈ env, settingOf? field e.1 e.2 = none := by
  rw [setting?, List.getLast?_eq_none_iff, List.filterMap_eq_nil_iff]

/-- The setting for a field is that of a variable behind which no other one gives any. -/
theorem setting?_eq_some_iff :
    setting? env field = some s ↔ ∃ earlier e later, env = earlier ++ e :: later ∧
      settingOf? field e.1 e.2 = some s ∧ ∀ e' ∈ later, settingOf? field e'.1 e'.2 = none := by
  rw [setting?, List.getLast?_filterMap, List.findSome?_eq_some_iff]
  constructor
  · rintro ⟨later, e, earlier, split, gives, silent⟩
    rw [List.reverse_eq_iff, List.reverse_append, List.reverse_cons, List.append_assoc] at split
    refine ⟨earlier.reverse, e, later.reverse, split, gives, ?_⟩
    intro e' mem
    exact silent e' (List.mem_reverse.mp mem)
  · rintro ⟨earlier, e, later, rfl, gives, silent⟩
    refine ⟨later.reverse, e, earlier.reverse, by simp, gives, ?_⟩
    intro e' mem
    exact silent e' (List.mem_reverse.mp mem)

/-- A variable whose key is the name of a field gives its value to the field. -/
theorem settingOf?_of_keyParts? (key : keyParts? name = some [field.toList]) (value : String) :
    settingOf? field name value = some (Setting.Notation.read value) := by
  rw [settingOf?, key]
  exact if_pos rfl

theorem toList_name : Field.dataTokenEnabled.name.toList = ignoredKey := rfl

theorem settingOf?_of_switches (switches : Switches name) (value : String) :
    settingOf? Field.dataTokenEnabled.name name value = some (Setting.Notation.read value) :=
  settingOf?_of_keyParts? (keyParts?_eq_ignoredKey_iff.mpr switches) value

/-- A variable that gives the field and does not switch gives a mapping for it. -/
theorem eq_mapping_of_not_switches (stays : ¬ Switches name)
    (gives : settingOf? Field.dataTokenEnabled.name name value = some s) : s = .mapping := by
  unfold settingOf? at gives
  split at gives
  · next part key =>
    split at gives
    · next same =>
      rw [same, toList_name] at key
      exact absurd (keyParts?_eq_ignoredKey_iff.mp key) stays
    · cases gives
  · split at gives
    · exact (Option.some.inj gives).symm
    · cases gives
  · cases gives

/-- The last variable that switches data tokens. -/
def lastSwitch? (env : Environment) : Option (String × String) :=
  (env.filter fun e => Switches e.1).getLast?

theorem lastSwitch?_eq_none_iff : lastSwitch? env = none ↔ ∀ e ∈ env, ¬ Switches e.1 := by
  rw [lastSwitch?, List.getLast?_eq_none_iff, List.filter_eq_nil_iff]
  simp only [decide_eq_true_eq]

theorem lastSwitch?_append_cons {earlier later : Environment} {e : String × String}
    (switches : Switches e.1) (none : ∀ e' ∈ later, ¬ Switches e'.1) :
    lastSwitch? (earlier ++ e :: later) = some e := by
  have silent : later.filter (fun e' => Switches e'.1) = [] :=
    List.getLast?_eq_none_iff.mp (lastSwitch?_eq_none_iff.mpr none)
  rw [lastSwitch?, List.filter_append, List.filter_cons, if_pos (decide_eq_true switches), silent,
    List.getLast?_concat]

end Environment

namespace CatalogConfig

open Environment

variable {options : Options} {env : Environment} {c : CatalogConfig}

theorem value_of_extract (read : extract options env = .ok c) :
    value options env .dataTokenEnabled Setting.toBool false = .ok c.dataTokenEnabled := by
  unfold extract at read
  simp only [bind_eq_ok_iff] at read
  obtain ⟨dataTokenEnabled, first, _, -, _, -, _, -, _, -, same⟩ := read
  cases same
  exact first

/-- Data tokens are as the last variable that switches them says, or as the options say. -/
theorem dataTokenEnabled_cases (read : extract options env = .ok c) :
    (∃ e, lastSwitch? env = some e ∧
      (Setting.Notation.read e.2).toBool = .ok c.dataTokenEnabled) ∨
    lastSwitch? env = none ∧
      IsRead Setting.toBool false (optionFor? options .dataTokenEnabled) c.dataTokenEnabled := by
  have is := value_of_extract read
  cases given : setting? env Field.dataTokenEnabled.name with
  | none =>
    refine .inr ⟨lastSwitch?_eq_none_iff.mpr ?_, (value_eq_ok_iff_of_none given).mp is⟩
    intro e mem switches
    have silent := setting?_eq_none_iff.mp given e mem
    rw [settingOf?_of_switches switches] at silent
    cases silent
  | some s =>
    have reads := (value_eq_ok_iff_of_some given).mp is
    obtain ⟨earlier, e, later, rfl, gives, silent⟩ := setting?_eq_some_iff.mp given
    by_cases switches : Switches e.1
    · rw [settingOf?_of_switches switches] at gives
      obtain rfl := Option.some.inj gives
      refine .inl ⟨e, lastSwitch?_append_cons switches ?_, reads⟩
      intro e' mem switches'
      have gives' := silent e' mem
      rw [settingOf?_of_switches switches'] at gives'
      cases gives'
    · -- a mapping is no truth value
      rw [eq_mapping_of_not_switches switches gives] at reads
      cases reads

theorem IsRead.unique {α : Type} {read : Setting → Except Setting.Problem α} {builtIn a b : α}
    {text : Option String} (one : IsRead read builtIn text a) (other : IsRead read builtIn text b) :
    a = b := by
  cases text with
  | none => exact one.trans other.symm
  | some t => exact Except.ok.inj (one.symm.trans other)

/-- **What switches data tokens.** Where no variable has blanks between the beginning of its name
and the key that no variable is to give, data tokens are as the options say. Of such variables the
last one switches them, in the order in which the process has them. So two environments that have
the same last one, or none, agree. -/
theorem data_tokens_follow_last_switch (read : extract options env = .ok c) :
    ((∀ e ∈ env, ¬ Switches e.1) →
      IsRead Setting.toBool false (optionFor? options .dataTokenEnabled) c.dataTokenEnabled) ∧
    (∀ earlier name value later, env = earlier ++ (name, value) :: later → Switches name →
      (∀ e ∈ later, ¬ Switches e.1) →
        (Setting.Notation.read value).toBool = .ok c.dataTokenEnabled) ∧
    ∀ env' c', extract options env' = .ok c' → lastSwitch? env = lastSwitch? env' →
      c.dataTokenEnabled = c'.dataTokenEnabled := by
  refine ⟨?_, ?_, ?_⟩
  · intro none
    rcases dataTokenEnabled_cases read with ⟨e, last, -⟩ | ⟨-, reads⟩
    · cases last.symm.trans (lastSwitch?_eq_none_iff.mpr none)
    · exact reads
  · rintro earlier name value later rfl switches none
    have last : lastSwitch? (earlier ++ (name, value) :: later) = some (name, value) :=
      lastSwitch?_append_cons switches none
    rcases dataTokenEnabled_cases read with ⟨e, last', reads⟩ | ⟨none', -⟩
    · obtain rfl := Option.some.inj (last.symm.trans last')
      exact reads
    · cases last.symm.trans none'
  · intro env' c' read' same
    rcases dataTokenEnabled_cases read with ⟨e, last, reads⟩ | ⟨none, reads⟩ <;>
      rcases dataTokenEnabled_cases read' with ⟨e', last', reads'⟩ | ⟨none', reads'⟩
    · obtain rfl := Option.some.inj (last.symm.trans (same.trans last'))
      exact Except.ok.inj (reads.symm.trans reads')
    · cases last.symm.trans (same.trans none')
    · cases last'.symm.trans (same.symm.trans none)
    · exact reads.unique reads'

namespace Sample

/-- Options that leave data tokens out. -/
def withoutTokens : Options := .ofList [("data-token-enabled", "off")]

/-- An environment with a blank in the name of the variable that is left out. -/
def blankBehindPrefix : Environment := [("LAKECAT__ DATA_TOKEN_ENABLED", "true")]

/-- An environment in which two variables switch data tokens. The name of the later one comes before
that of the earlier one. -/
def twoSwitches : Environment :=
  [("LAKECAT__WAREHOUSE", "prod"), ("LAKECAT__ Data_Token_Enabled", "false"),
    ("LAKECAT__\tDATA_TOKEN_ENABLED", "true"), ("LAKECAT__DATA_TOKEN_ENABLED", "false")]

theorem extract_twoSwitches : extract withoutTokens twoSwitches =
    .ok { dataTokenEnabled := true, warehouse := some "prod" } :=
  eq_ok_of_toOption (by decide +kernel)

end Sample

theorem last_switch_of_twoSwitches :
    extract Sample.withoutTokens Sample.twoSwitches =
        .ok { dataTokenEnabled := true, warehouse := some "prod" } ∧
      Switches "LAKECAT__\tDATA_TOKEN_ENABLED" ∧ Switches "LAKECAT__ Data_Token_Enabled" ∧
      ¬ Switches "LAKECAT__DATA_TOKEN_ENABLED" ∧
      (Setting.Notation.read "true").toBool = .ok true := by
  have read := Sample.extract_twoSwitches
  have last : Switches "LAKECAT__\tDATA_TOKEN_ENABLED" := by decide +kernel
  have ignored : ¬ Switches "LAKECAT__DATA_TOKEN_ENABLED" := by decide +kernel
  have switched := (data_tokens_follow_last_switch read).2.1
    [("LAKECAT__WAREHOUSE", "prod"), ("LAKECAT__ Data_Token_Enabled", "false")] _ _
    [("LAKECAT__DATA_TOKEN_ENABLED", "false")] rfl last (List.forall_mem_singleton.mpr ignored)
  exact ⟨read, last, by decide +kernel, ignored, switched⟩

/-- It is not so that all environments in which a configuration is read agree on data tokens. -/
theorem environment_switches_data_tokens :
    ¬ ∀ (options : Options) (env env' : Environment) (c c' : CatalogConfig),
      extract options env = .ok c → extract options env' = .ok c' →
        c.dataTokenEnabled = c'.dataTokenEnabled := by
  intro agree
  have without : extract {} [] = .ok {} := eq_ok_of_toOption (by decide +kernel)
  have switched : extract {} Sample.blankBehindPrefix = .ok { dataTokenEnabled := true } :=
    eq_ok_of_toOption (by decide +kernel)
  exact absurd (agree _ _ _ _ _ without switched) (by decide)

end CatalogConfig

end TableCatalog
