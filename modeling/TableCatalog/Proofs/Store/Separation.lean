import TableCatalog.Proofs.Store.History

/-!
# What is done to other databases

Databases have nothing in common but the counter of identities. Take from a run all that is not
about a certain database: what is left of that database is the same, identities apart.
-/

namespace TableCatalog

section Values

variable {β γ : Type}

def NameMap.map (f : β → γ) (m : NameMap β) : NameMap γ :=
  ⟨m.toList.map fun e => (e.1, f e.2), List.pairwise_map.mpr (m.ascending.imp id)⟩

theorem NameMap.get?_map (f : β → γ) (m : NameMap β) (k : String) :
    (m.map f).get? k = (m.get? k).map f := by
  ext v
  simp only [get?_eq_some_iff_mem, Option.map_eq_some_iff, map, List.mem_map, Prod.mk.injEq]
  constructor
  · rintro ⟨e, mem, rfl, rfl⟩
    exact ⟨e.2, mem, rfl⟩
  · rintro ⟨v', mem, rfl⟩
    exact ⟨(k, v'), mem, rfl, rfl⟩

theorem NameMap.keys_map (f : β → γ) (m : NameMap β) : (m.map f).keys = m.keys := by
  simp [keys, map]

theorem NameMap.map_insert (f : β → γ) (m : NameMap β) (k : String) (v : β) :
    (m.insert k v).map f = (m.map f).insert k (f v) := by
  apply ext_get?
  intro k'
  simp only [get?_map, get?_insert]
  split <;> rfl

end Values

/-- A reply without the identity. -/
def TableDescription.anonymous (d : TableDescription) : TableDescription := { d with id := "" }

def Request.database? : Request → Option String
  | .config | .listDatabases | .listDatabasesPaged _ => none
  | .createDatabase name _ | .getDatabase name | .dropDatabase name | .alterDatabase name _ _
  | .listTables name | .listTablesPaged name _ => some name
  | .getTable i | .loadTableToken i => some i.database

namespace Store

variable {s s' s₁ s₂ : Store} {name : String} {a : Action} {d₁ d₂ : Database} {t₁ t₂ : Table}

def Action.database? : Action → Option String
  | .request _ r => r.database?
  | .setAudit name _ | .putTable name _ _ _ | .putBranch name _ _ => some name

/-- An action is about a database. -/
def Action.isAbout (name : String) (a : Action) : Bool := a.database? = some name

theorem Action.database?_of_deed? {x : Deed} {result : a.Result}
    (done : a.deed? result = some x) : a.database? = some x.database := by
  unfold Action.deed? at done
  split at done <;> cases done <;> rfl

/-! ## Other databases -/

theorem databases_eq_of_effect_none (effect : Effect s none s') :
    s'.databases = s.databases := by
  cases effect
  rfl

theorem get?_perform_of_ne (other : a.database? ≠ some name) :
    (s.perform a).2.databases.get? name = s.databases.get? name := by
  have effect := effect_perform s a
  cases done : a.deed? (s.perform a).1 with
  | none =>
    rw [done] at effect
    rw [databases_eq_of_effect_none effect]
  | some x =>
    rw [done] at effect
    apply effect.get?_of_ne
    rintro rfl
    exact other (Action.database?_of_deed? done)

/-! ## The same up to identities -/

def Table.anonymous (t : Table) : Table := { t with id := 0 }

def Database.anonymous (d : Database) : Database :=
  { d with id := 0, tables := d.tables.map Table.anonymous }

/-- A database is the same in two stores, identities apart. -/
def Alike (name : String) (s₁ s₂ : Store) : Prop :=
  s₁.root = s₂.root ∧
    (s₁.databases.get? name).map Database.anonymous =
      (s₂.databases.get? name).map Database.anonymous

theorem Table.anonymous_inj :
    t₁.anonymous = t₂.anonymous ↔
      t₁.schema = t₂.schema ∧ t₁.audit = t₂.audit ∧ t₁.branches = t₂.branches := by
  simp [anonymous]

theorem Database.anonymous_inj :
    d₁.anonymous = d₂.anonymous ↔
      d₁.location = d₂.location ∧ d₁.options = d₂.options ∧ d₁.audit = d₂.audit ∧
        d₁.tables.map Table.anonymous = d₂.tables.map Table.anonymous := by
  simp [anonymous]

theorem entries_cases {α β : Type} {f : α → β} {e₁ e₂ : Option α} (same : e₁.map f = e₂.map f) :
    (e₁ = none ∧ e₂ = none) ∨ ∃ v₁ v₂, e₁ = some v₁ ∧ e₂ = some v₂ ∧ f v₁ = f v₂ := by
  cases e₁ <;> cases e₂ <;> simp_all

theorem tables_cases (same : d₁.anonymous = d₂.anonymous) (table : String) :
    (d₁.tables.get? table = none ∧ d₂.tables.get? table = none) ∨
      ∃ t₁ t₂, d₁.tables.get? table = some t₁ ∧ d₂.tables.get? table = some t₂ ∧
        t₁.anonymous = t₂.anonymous := by
  have tables := (Database.anonymous_inj.mp same).2.2.2
  apply entries_cases
  rw [← NameMap.get?_map, ← NameMap.get?_map, tables]

namespace Alike

theorem set (alike : Alike name s₁ s₂) (same : d₁.anonymous = d₂.anonymous) :
    Alike name (s₁.setDatabase name d₁) (s₂.setDatabase name d₂) := by
  refine ⟨alike.1, ?_⟩
  simp only [get?_setDatabase_self, Option.map_some, same]

theorem insert (alike : Alike name s₁ s₂) (same : d₁.anonymous = d₂.anonymous)
    (sameTable : t₁.anonymous = t₂.anonymous) (table : String) :
    Alike name (s₁.setDatabase name { d₁ with tables := d₁.tables.insert table t₁ })
      (s₂.setDatabase name { d₂ with tables := d₂.tables.insert table t₂ }) := by
  obtain ⟨location, options, audit, tables⟩ := Database.anonymous_inj.mp same
  apply alike.set
  refine Database.anonymous_inj.mpr ⟨location, options, audit, ?_⟩
  rw [NameMap.map_insert, NameMap.map_insert, tables, sameTable]

theorem answer (alike : Alike name s₁ s₂) {now : Instant} {r : Request}
    (own : r.database? = some name) : Alike name (s₁.answer now r).2 (s₂.answer now r).2 := by
  cases r with
  | createDatabase name' properties =>
    obtain rfl : name' = name := Option.some.inj own
    simp only [Store.answer]
    rcases entries_cases alike.2 with ⟨absent₁, absent₂⟩ | ⟨d₁, d₂, found₁, found₂, -⟩
    · rw [createDatabase_of_none absent₁, createDatabase_of_none absent₂]
      exact alike.set (by simp [Database.anonymous_inj, newDatabase, alike.1])
    · rw [createDatabase_of_some found₁, createDatabase_of_some found₂]
      exact alike
  | dropDatabase name' =>
    obtain rfl : name' = name := Option.some.inj own
    simp only [Store.answer]
    rcases entries_cases alike.2 with ⟨absent₁, absent₂⟩ | ⟨d₁, d₂, found₁, found₂, -⟩
    · rw [dropDatabase_of_none absent₁, dropDatabase_of_none absent₂]
      exact alike
    · rw [dropDatabase_of_some found₁, dropDatabase_of_some found₂]
      refine ⟨alike.1, ?_⟩
      simp only [NameMap.get?_erase, if_true]
  | alterDatabase name' remove set =>
    obtain rfl : name' = name := Option.some.inj own
    simp only [Store.answer]
    rcases entries_cases alike.2 with ⟨absent₁, absent₂⟩ | ⟨d₁, d₂, found₁, found₂, same⟩
    · rw [alterDatabase_of_none absent₁, alterDatabase_of_none absent₂]
      exact alike
    · rw [alterDatabase_of_some found₁, alterDatabase_of_some found₂]
      obtain ⟨location, options, audit, tables⟩ := Database.anonymous_inj.mp same
      exact alike.set (Database.anonymous_inj.mpr ⟨location, by rw [options], audit, tables⟩)
  | loadTableToken i =>
    have effect₁ := effect_issueToken s₁ now i
    have effect₂ := effect_issueToken s₂ now i
    refine ⟨effect₁.root_eq.trans (alike.1.trans effect₂.root_eq.symm), ?_⟩
    simp only [Store.answer]
    rw [databases_eq_of_effect_none effect₁, databases_eq_of_effect_none effect₂]
    exact alike.2
  | config | listDatabases | listDatabasesPaged | getDatabase | listTables | listTablesPaged
  | getTable => exact alike

theorem perform (alike : Alike name s₁ s₂) (own : a.database? = some name) :
    Alike name (s₁.perform a).2 (s₂.perform a).2 := by
  cases a with
  | request now r => exact alike.answer own
  | setAudit name' audit =>
    obtain rfl : name' = name := Option.some.inj own
    simp only [Store.perform]
    rcases entries_cases alike.2 with ⟨absent₁, absent₂⟩ | ⟨d₁, d₂, found₁, found₂, same⟩
    · rw [setDatabaseAudit_of_none absent₁, setDatabaseAudit_of_none absent₂]
      exact alike
    · rw [setDatabaseAudit_of_some found₁, setDatabaseAudit_of_some found₂]
      obtain ⟨location, options, -, tables⟩ := Database.anonymous_inj.mp same
      exact alike.set (Database.anonymous_inj.mpr ⟨location, options, rfl, tables⟩)
  | putTable name' table schema audit =>
    obtain rfl : name' = name := Option.some.inj own
    simp only [Store.perform]
    rcases entries_cases alike.2 with ⟨absent₁, absent₂⟩ | ⟨d₁, d₂, found₁, found₂, same⟩
    · rw [putTable_of_none absent₁, putTable_of_none absent₂]
      exact alike
    · rcases tables_cases same table with ⟨new₁, new₂⟩ | ⟨t₁, t₂, there₁, there₂, sameTable⟩
      · rw [putTable_of_new found₁ new₁, putTable_of_new found₂ new₂]
        refine alike.insert same ?_ table
        exact Table.anonymous_inj.mpr ⟨rfl, rfl, rfl⟩
      · rw [putTable_of_there found₁ there₁, putTable_of_there found₂ there₂]
        obtain ⟨-, -, branches⟩ := Table.anonymous_inj.mp sameTable
        refine alike.insert same ?_ table
        exact Table.anonymous_inj.mpr ⟨rfl, rfl, branches⟩
  | putBranch name' table branch =>
    obtain rfl : name' = name := Option.some.inj own
    simp only [Store.perform]
    rcases entries_cases alike.2 with ⟨absent₁, absent₂⟩ | ⟨d₁, d₂, found₁, found₂, same⟩
    · rw [putBranch_of_none absent₁, putBranch_of_none absent₂]
      exact alike
    · rcases tables_cases same table with ⟨new₁, new₂⟩ | ⟨t₁, t₂, there₁, there₂, sameTable⟩
      · rw [putBranch_of_new found₁ new₁, putBranch_of_new found₂ new₂]
        exact alike
      · rw [putBranch_of_there found₁ there₁, putBranch_of_there found₂ there₂]
        obtain ⟨schema, audit, branches⟩ := Table.anonymous_inj.mp sameTable
        refine alike.insert same ?_ table
        exact Table.anonymous_inj.mpr ⟨schema, audit, by rw [branches]⟩

/-- **What is done to other databases has no influence.** -/
theorem run (alike : Alike name s₁ s₂) (actions : List Action) :
    Alike name (s₁.after (actions.filter (·.isAbout name))) (s₂.after actions) := by
  induction actions generalizing s₁ s₂ with
  | nil => exact alike
  | cons a rest ih =>
    by_cases own : a.database? = some name
    · have about : a.isAbout name = true := decide_eq_true own
      rw [List.filter_cons_of_pos about]
      exact ih (alike.perform own)
    · have elsewhere : ¬ a.isAbout name = true := fun about => own (of_decide_eq_true about)
      rw [List.filter_cons_of_neg elsewhere]
      refine ih ⟨alike.1.trans (effect_perform s₂ a).root_eq.symm, ?_⟩
      rw [get?_perform_of_ne own]
      exact alike.2

/-! ## Replies -/

theorem getTable_eq {i : Identifier} (alike : Alike i.database s₁ s₂) (now : Instant) :
    (storeService.answer now s₁ (.getTable i)).1.map TableDescription.anonymous =
      (storeService.answer now s₂ (.getTable i)).1.map TableDescription.anonymous := by
  simp only [storeService, Store.answer]
  rcases entries_cases alike.2 with ⟨absent₁, absent₂⟩ | ⟨d₁, d₂, found₁, found₂, same⟩
  · simp only [table, absent₁, absent₂]
  · rcases tables_cases same i.table with ⟨new₁, new₂⟩ | ⟨t₁, t₂, there₁, there₂, sameTable⟩
    · simp only [table, found₁, found₂, new₁, new₂]
    · obtain ⟨location, -⟩ := Database.anonymous_inj.mp same
      obtain ⟨schema, audit, branches⟩ := Table.anonymous_inj.mp sameTable
      simp only [table, found₁, found₂, there₁, there₂, branches]
      split
      · simp only [Except.map, describeTable, TableDescription.anonymous, location, schema, audit]
      · rfl

theorem listTables_eq (alike : Alike name s₁ s₂) (now : Instant) :
    (storeService.answer now s₁ (.listTables name)).1 =
      (storeService.answer now s₂ (.listTables name)).1 := by
  simp only [storeService, Store.answer]
  rcases entries_cases alike.2 with ⟨absent₁, absent₂⟩ | ⟨d₁, d₂, found₁, found₂, same⟩
  · rw [database_of_none absent₁, database_of_none absent₂]
  · rw [database_of_some found₁, database_of_some found₂]
    have tables := (Database.anonymous_inj.mp same).2.2.2
    have keys := congrArg NameMap.keys tables
    rw [NameMap.keys_map, NameMap.keys_map] at keys
    exact congrArg Except.ok keys

end Alike

end Store

end TableCatalog
