import TableCatalog.Store

/-!
# What is done to a store

Clients make requests, and whoever runs the store gives databases other audit fields and puts tables
and branches into them. Only what succeeds leaves a trace, and of the requests only those that make,
drop or alter a database: these are the deeds, and `Effect` says what each of them does to the
store. All else leaves the store as it was, up to the number of data tokens.
-/

namespace TableCatalog.Store

/-- Something that is done to a store. -/
inductive Action where
  | request (now : Instant) (r : Request)
  | setAudit (database : String) (audit : Audit)
  | putTable (database table : String) (schema : Schema) (audit : Audit)
  | putBranch (database table branch : String)
  deriving DecidableEq

@[reducible] def Action.Result : Action → Type
  | .request _ r => Answer r
  | .setAudit _ _ | .putBranch _ _ _ => Except Failure Unit
  | .putTable _ _ _ _ => Except Failure Nat

/-- The result of an action, and the store after it. -/
def perform (s : Store) : (a : Action) → a.Result × Store
  | .request now r => storeService.answer now s r
  | .setAudit database audit => s.setDatabaseAudit database audit
  | .putTable database table schema audit => s.putTable database table schema audit
  | .putBranch database table branch => s.putBranch database table branch

/-- The store after several actions. -/
def after (s : Store) (actions : List Action) : Store :=
  actions.foldl (fun s a => (s.perform a).2) s

/-! ## Deeds -/

/-- What is put as a table, and the identity that the table has. -/
structure Version where
  schema : Schema
  audit : Audit
  id : Nat
  deriving DecidableEq

/-- An action that succeeded and is not only a question. -/
inductive Deed where
  | created (database : String) (properties : Options)
  | dropped (database : String)
  | altered (database : String) (remove : List String) (set : Options)
  | audited (database : String) (audit : Audit)
  | put (database table : String) (version : Version)
  | branched (database table branch : String)
  deriving DecidableEq

/-- What an action with a result has done. -/
def Action.deed? : (a : Action) → a.Result → Option Deed
  | .request _ (.createDatabase database properties), .ok () => some (.created database properties)
  | .request _ (.dropDatabase database), .ok () => some (.dropped database)
  | .request _ (.alterDatabase database remove set), .ok () => some (.altered database remove set)
  | .setAudit database audit, .ok () => some (.audited database audit)
  | .putTable database table schema audit, .ok id =>
    some (.put database table { schema, audit, id })
  | .putBranch database table branch, .ok () => some (.branched database table branch)
  | _, _ => none

/-- Where a database lies that is made of a name and properties. -/
def locationOf (root name : String) (properties : Options) : String :=
  (properties.get? Options.locationKey).getD (root ++ "/" ++ name ++ ".db")

def newDatabase (s : Store) (name : String) (properties : Options) : Database where
  id := s.idsIssued
  location := locationOf s.root name properties
  options := properties.erase Options.locationKey

/-- What a deed does to a store. Without a deed, at most data tokens are counted. -/
inductive Effect (s : Store) : Option Deed → Store → Prop
  | none (tokensIssued : Nat) : Effect s none { s with tokensIssued }
  | created {database : String} {properties : Options} :
      s.databases.get? database = .none →
      Effect s (some (.created database properties))
        { s.setDatabase database (s.newDatabase database properties) with
          idsIssued := s.idsIssued + 1 }
  | dropped {database : String} {d : Database} :
      s.databases.get? database = some d →
      Effect s (some (.dropped database)) { s with databases := s.databases.erase database }
  | altered {database : String} {remove : List String} {set : Options} {d : Database} :
      s.databases.get? database = some d →
      Effect s (some (.altered database remove set))
        (s.setDatabase database { d with options := (d.options.eraseMany remove).overlay set })
  | audited {database : String} {audit : Audit} {d : Database} :
      s.databases.get? database = some d →
      Effect s (some (.audited database audit)) (s.setDatabase database { d with audit })
  | replaced {database table : String} {schema : Schema} {audit : Audit} {d : Database}
      {t : Table} :
      s.databases.get? database = some d → d.tables.get? table = some t →
      Effect s (some (.put database table { schema, audit, id := t.id }))
        (s.setDatabase database
          { d with tables := d.tables.insert table { t with schema, audit } })
  | put {database table : String} {schema : Schema} {audit : Audit} {d : Database} :
      s.databases.get? database = some d → d.tables.get? table = .none →
      Effect s (some (.put database table { schema, audit, id := s.idsIssued }))
        { s.setDatabase database
            { d with tables := d.tables.insert table { id := s.idsIssued, schema, audit } } with
          idsIssued := s.idsIssued + 1 }
  | branched {database table branch : String} {d : Database} {t : Table} :
      s.databases.get? database = some d → d.tables.get? table = some t →
      Effect s (some (.branched database table branch))
        (s.setDatabase database
          { d with tables := d.tables.insert table { t with branches := t.branches.add branch } })

theorem database_of_some {s : Store} {name : String} {d : Database}
    (found : s.databases.get? name = some d) : s.database name = .ok d := by
  simp only [database, found]

theorem database_of_none {s : Store} {name : String} (absent : s.databases.get? name = none) :
    s.database name = .error (noDatabase name) := by
  simp only [database, absent]

/-- What is made of a database is made of one that is there. -/
theorem map_database_eq_ok_iff {α : Type} {s : Store} {name : String} {f : Database → α} {a : α} :
    (s.database name).map f = .ok a ↔ ∃ d, s.databases.get? name = some d ∧ f d = a := by
  cases found : s.databases.get? name with
  | none => simp [database_of_none found, Except.map]
  | some d => simp [database_of_some found, Except.map]

theorem get?_setDatabase (s : Store) (name other : String) (d : Database) :
    (s.setDatabase name d).databases.get? other =
      if other = name then some d else s.databases.get? other :=
  NameMap.get?_insert s.databases name other d

theorem get?_setDatabase_self (s : Store) (name : String) (d : Database) :
    (s.setDatabase name d).databases.get? name = some d := by
  rw [get?_setDatabase, if_pos rfl]

theorem setDatabase_setDatabase (s : Store) (name : String) (d d' : Database) :
    (s.setDatabase name d).setDatabase name d' = s.setDatabase name d' := by
  simp only [setDatabase, NameMap.insert_insert_self]

/-! ## Outcomes -/

section Outcomes

variable {s : Store} {name table : String} {d : Database} {t : Table}

theorem createDatabase_of_none (absent : s.databases.get? name = none) (properties : Options) :
    s.createDatabase name properties =
      (.ok (), { s.setDatabase name (s.newDatabase name properties) with
        idsIssued := s.idsIssued + 1 }) := by
  have free : s.databases.contains name = false := by simp [NameMap.contains, absent]
  simp [createDatabase, free, newDatabase, locationOf]

theorem createDatabase_of_some (found : s.databases.get? name = some d) (properties : Options) :
    s.createDatabase name properties = (.error (databaseExists name), s) := by
  have taken : s.databases.contains name = true := by simp [NameMap.contains, found]
  simp [createDatabase, taken]

theorem dropDatabase_of_none (absent : s.databases.get? name = none) :
    s.dropDatabase name = (.error (noDatabase name), s) := by
  have free : s.databases.contains name = false := by simp [NameMap.contains, absent]
  simp [dropDatabase, free]

theorem dropDatabase_of_some (found : s.databases.get? name = some d) :
    s.dropDatabase name = (.ok (), { s with databases := s.databases.erase name }) := by
  have taken : s.databases.contains name = true := by simp [NameMap.contains, found]
  simp [dropDatabase, taken]

theorem alterDatabase_of_none (absent : s.databases.get? name = none) (remove : List String)
    (set : Options) : s.alterDatabase name remove set = (.error (noDatabase name), s) := by
  simp only [alterDatabase, database_of_none absent]

theorem alterDatabase_of_some (found : s.databases.get? name = some d) (remove : List String)
    (set : Options) :
    s.alterDatabase name remove set =
      (.ok (),
        s.setDatabase name { d with options := (d.options.eraseMany remove).overlay set }) := by
  simp only [alterDatabase, database_of_some found]

theorem setDatabaseAudit_of_none (absent : s.databases.get? name = none) (audit : Audit) :
    s.setDatabaseAudit name audit = (.error (noDatabase name), s) := by
  simp only [setDatabaseAudit, database_of_none absent]

theorem setDatabaseAudit_of_some (found : s.databases.get? name = some d) (audit : Audit) :
    s.setDatabaseAudit name audit = (.ok (), s.setDatabase name { d with audit }) := by
  simp only [setDatabaseAudit, database_of_some found]

theorem putTable_of_none (absent : s.databases.get? name = none) (schema : Schema)
    (audit : Audit) : s.putTable name table schema audit = (.error (noDatabase name), s) := by
  simp only [putTable, database_of_none absent]

theorem putTable_of_new (found : s.databases.get? name = some d)
    (new : d.tables.get? table = none) (schema : Schema) (audit : Audit) :
    s.putTable name table schema audit =
      (.ok s.idsIssued,
        { s.setDatabase name
            { d with tables := d.tables.insert table { id := s.idsIssued, schema, audit } } with
          idsIssued := s.idsIssued + 1 }) := by
  simp only [putTable, database_of_some found, new]

theorem putTable_of_there (found : s.databases.get? name = some d)
    (there : d.tables.get? table = some t) (schema : Schema) (audit : Audit) :
    s.putTable name table schema audit =
      (.ok t.id,
        s.setDatabase name
          { d with tables := d.tables.insert table { t with schema, audit } }) := by
  simp only [putTable, database_of_some found, there]

theorem putBranch_of_none (absent : s.databases.get? name = none) (branch : String) :
    s.putBranch name table branch = (.error (noTable (name ++ "." ++ table)), s) := by
  simp only [putBranch, absent]

theorem putBranch_of_new (found : s.databases.get? name = some d)
    (new : d.tables.get? table = none) (branch : String) :
    s.putBranch name table branch = (.error (noTable (name ++ "." ++ table)), s) := by
  simp only [putBranch, found, new]

theorem putBranch_of_there (found : s.databases.get? name = some d)
    (there : d.tables.get? table = some t) (branch : String) :
    s.putBranch name table branch =
      (.ok (),
        s.setDatabase name
          { d with
            tables := d.tables.insert table { t with branches := t.branches.add branch } }) := by
  simp only [putBranch, found, there]

end Outcomes

/-! ## Effects -/

theorem effect_issueToken (s : Store) (now : Instant) (i : Identifier) :
    Effect s ((Action.request now (.loadTableToken i)).deed? (issueToken now s i).1)
      (issueToken now s i).2 := by
  unfold issueToken
  cases s.table i with
  | error e => exact .none s.tokensIssued
  | ok found => exact .none (s.tokensIssued + 1)

theorem effect_answer (s : Store) (now : Instant) (r : Request) :
    Effect s ((Action.request now r).deed? (s.answer now r).1) (s.answer now r).2 := by
  have refused : Effect s none s := .none s.tokensIssued
  cases r with
  | createDatabase name properties =>
    simp only [answer]
    cases found : s.databases.get? name with
    | none =>
      rw [createDatabase_of_none found]
      exact .created found
    | some d =>
      rw [createDatabase_of_some found]
      exact refused
  | dropDatabase name =>
    simp only [answer]
    cases found : s.databases.get? name with
    | none =>
      rw [dropDatabase_of_none found]
      exact refused
    | some d =>
      rw [dropDatabase_of_some found]
      exact .dropped found
  | alterDatabase name remove set =>
    simp only [answer]
    cases found : s.databases.get? name with
    | none =>
      rw [alterDatabase_of_none found]
      exact refused
    | some d =>
      rw [alterDatabase_of_some found]
      exact .altered found
  | loadTableToken i => exact effect_issueToken s now i
  | config | listDatabases | listDatabasesPaged | getDatabase | listTables | listTablesPaged
  | getTable => exact refused

/-- **Every action has the effect of what it has done.** -/
theorem effect_perform (s : Store) (a : Action) :
    Effect s (a.deed? (s.perform a).1) (s.perform a).2 := by
  have refused : Effect s none s := .none s.tokensIssued
  cases a with
  | request now r => exact effect_answer s now r
  | setAudit name audit =>
    simp only [perform]
    cases found : s.databases.get? name with
    | none =>
      rw [setDatabaseAudit_of_none found]
      exact refused
    | some d =>
      rw [setDatabaseAudit_of_some found]
      exact .audited found
  | putTable name table schema audit =>
    simp only [perform]
    cases found : s.databases.get? name with
    | none =>
      rw [putTable_of_none found]
      exact refused
    | some d =>
      cases there : d.tables.get? table with
      | none =>
        rw [putTable_of_new found there]
        exact .put found there
      | some t =>
        rw [putTable_of_there found there]
        exact .replaced found there
  | putBranch name table branch =>
    simp only [perform]
    cases found : s.databases.get? name with
    | none =>
      rw [putBranch_of_none found]
      exact refused
    | some d =>
      cases there : d.tables.get? table with
      | none =>
        rw [putBranch_of_new found there]
        exact refused
      | some t =>
        rw [putBranch_of_there found there]
        exact .branched found there

end TableCatalog.Store
