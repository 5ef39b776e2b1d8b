import TableCatalog.Proofs.Store.History

/-!
# What is found in a store

A table is found if its database was made, if it was put since, and if the branch was registered
through which it is addressed. The reply is then made of the history, and so are the listings.
-/

namespace TableCatalog.Store

variable {s : Store} {h : List Deed} {root name : String} {i : Identifier} {now : Instant}
variable {d : Database} {t : Table}

/-- A table was put, and its branch registered, since its database was made. -/
def Known (h : List Deed) (i : Identifier) : Prop :=
  ∃ properties since, IsMade h i.database properties since ∧ puts i.database i.table since ≠ [] ∧
    ∀ branch ∈ i.branch, .branched i.database i.table branch ∈ since

/-- The reply that a history tells: the identity is the one of the first time that the table was
put, the schema and the audit fields those of the last time. -/
def IsTold (root : String) (h : List Deed) (i : Identifier) (reply : TableDescription) : Prop :=
  ∃ properties since first last, IsMade h i.database properties since ∧
    (puts i.database i.table since).head? = some first ∧
    (puts i.database i.table since).getLast? = some last ∧
    reply = { id := idText first.id, name := i.table,
              path := locationOf root i.database properties ++ "/" ++ i.table,
              schema := last.schema, audit := last.audit }

theorem table_of_there (found : s.databases.get? i.database = some d)
    (there : d.tables.get? i.table = some t) :
    s.table i =
      if i.branch.all t.branches.contains then .ok (d, t) else .error (noTable i.text) := by
  simp only [table, found, there]

theorem table_eq_ok_iff :
    s.table i = .ok (d, t) ↔
      s.databases.get? i.database = some d ∧ d.tables.get? i.table = some t ∧
        ∀ branch ∈ i.branch, t.branches.contains branch = true := by
  constructor
  · intro ok
    cases found : s.databases.get? i.database with
    | none => simp [table, found] at ok
    | some d' =>
      cases there : d'.tables.get? i.table with
      | none => simp [table, found, there] at ok
      | some t' =>
        rw [table_of_there found there] at ok
        split at ok
        · next registered =>
          cases ok
          exact ⟨rfl, there, Option.all_eq_true _ _ |>.mp registered⟩
        · cases ok
  · rintro ⟨found, there, registered⟩
    rw [table_of_there found there, if_pos (Option.all_eq_true _ _ |>.mpr registered)]

theorem table_eq_error (missing : ∀ d t, s.table i ≠ .ok (d, t)) :
    s.table i = .error (noTable i.text) := by
  cases found : s.databases.get? i.database with
  | none => simp only [table, found]
  | some d =>
    cases there : d.tables.get? i.table with
    | none => simp only [table, found, there]
    | some t =>
      have differs := missing d t
      rw [table_of_there found there] at differs ⊢
      split at differs
      · exact absurd rfl differs
      · next unregistered => rw [if_neg unregistered]

/-- A table is found exactly if the history knows it. -/
theorem known_iff (records : Records root i.database h (s.databases.get? i.database)) :
    Known h i ↔ ∃ d t, s.table i = .ok (d, t) := by
  simp only [table_eq_ok_iff]
  constructor
  · rintro ⟨properties, since, made, putSince, registered⟩
    obtain ⟨d, found⟩ := records.isMade_iff.mp ⟨properties, since, made⟩
    rw [found] at records
    obtain _ | ⟨made', -, tables⟩ := records
    obtain ⟨-, rfl⟩ := made.unique made'
    have tells := tables i.table
    obtain ⟨t, there⟩ := tells.puts_ne_nil_iff.mp putSince
    refine ⟨d, t, found, there, ?_⟩
    intro branch mem
    rw [there] at tells
    obtain ⟨t', same, contains⟩ := (tells.branches branch).mp (registered branch mem)
    rwa [Option.some.inj same]
  · rintro ⟨d, t, found, there, registered⟩
    rw [found] at records
    obtain _ | ⟨made, -, tables⟩ := records
    have tells := tables i.table
    refine ⟨_, _, made, tells.puts_ne_nil_iff.mpr ⟨t, there⟩, ?_⟩
    intro branch mem
    exact (tells.branches branch).mpr ⟨t, there, registered branch mem⟩

theorem isTold_describeTable (records : Records root i.database h (s.databases.get? i.database))
    (found : s.table i = .ok (d, t)) : IsTold root h i (describeTable i d t) := by
  obtain ⟨found, there, -⟩ := table_eq_ok_iff.mp found
  rw [found] at records
  obtain _ | ⟨made, location, tables⟩ := records
  have tells := tables i.table
  rw [there] at tells
  obtain ⟨first, isFirst, sameId⟩ := Option.map_eq_some_iff.mp tells.first
  obtain ⟨last, isLast, sameContent⟩ := Option.map_eq_some_iff.mp tells.last
  obtain ⟨sameSchema, sameAudit⟩ := Prod.mk.inj sameContent
  refine ⟨_, _, first, last, made, isFirst, isLast, ?_⟩
  rw [describeTable, location, sameId, sameSchema, sameAudit]

/-- To put a table succeeds exactly if its database is made. -/
theorem putTable_eq_ok_iff (records : Records root name h (s.databases.get? name))
    (table : String) (schema : Schema) (audit : Audit) :
    (∃ id, (s.putTable name table schema audit).1 = .ok id) ↔
      ∃ properties since, IsMade h name properties since := by
  rw [records.isMade_iff]
  cases found : s.databases.get? name with
  | none => simp [putTable_of_none found]
  | some d =>
    cases there : d.tables.get? table with
    | none => simp [putTable_of_new found there]
    | some t => simp [putTable_of_there found there]

theorem answers_of_known (records : Records root i.database h (s.databases.get? i.database))
    (known : Known h i) (now : Instant) :
    ∃ reply grant, IsTold root h i reply ∧
      (storeService.answer now s (.getTable i)).1 = .ok reply ∧
      (storeService.answer now s (.loadTableToken i)).1 = .ok grant := by
  obtain ⟨d, t, found⟩ := (known_iff records).mp known
  have answered : (storeService.answer now s (.getTable i)).1 = .ok (describeTable i d t) := by
    simp only [storeService, answer, found, Except.map]
  obtain ⟨grant, granted⟩ :
      ∃ grant, (storeService.answer now s (.loadTableToken i)).1 = .ok grant := by
    simp only [storeService, answer, issueToken, found]
    exact ⟨_, rfl⟩
  exact ⟨_, grant, isTold_describeTable records found, answered, granted⟩

theorem answers_of_unknown (records : Records root i.database h (s.databases.get? i.database))
    (unknown : ¬ Known h i) (now : Instant) :
    (storeService.answer now s (.getTable i)).1 = .error (noTable i.text) ∧
      (storeService.answer now s (.loadTableToken i)).1 = .error (noTable i.text) := by
  have failed : s.table i = .error (noTable i.text) := by
    apply table_eq_error
    intro d t found
    exact unknown ((known_iff records).mpr ⟨d, t, found⟩)
  constructor
  · simp only [storeService, answer, failed, Except.map]
  · simp only [storeService, answer, issueToken, failed]

/-! ## Listings -/

theorem listTables_of_isMade {properties : Options} {since : List Deed}
    (records : Records root name h (s.databases.get? name))
    (made : IsMade h name properties since) (now : Instant) :
    ∃ names, (storeService.answer now s (.listTables name)).1 = .ok names ∧
      names.Pairwise (· < ·) ∧ ∀ table, table ∈ names ↔ puts name table since ≠ [] := by
  obtain ⟨d, found⟩ := records.isMade_iff.mp ⟨properties, since, made⟩
  refine ⟨d.tables.keys, ?_, d.tables.pairwise_keys, ?_⟩
  · simp only [storeService, answer, database_of_some found, Except.map]
  · intro table
    rw [found] at records
    obtain _ | ⟨made', -, tables⟩ := records
    obtain ⟨-, rfl⟩ := made.unique made'
    rw [NameMap.mem_keys_iff, (tables table).puts_ne_nil_iff]

theorem listTables_of_not_isMade (records : Records root name h (s.databases.get? name))
    (never : ¬ ∃ properties since, IsMade h name properties since) (now : Instant) :
    (storeService.answer now s (.listTables name)).1 = .error (noDatabase name) := by
  have absent : s.databases.get? name = none := by
    rw [Option.eq_none_iff_forall_ne_some]
    intro d found
    exact never (records.isMade_iff.mpr ⟨d, found⟩)
  simp only [storeService, answer, database_of_none absent, Except.map]

theorem listDatabases_eq (records : ∀ name, Records root name h (s.databases.get? name))
    (now : Instant) :
    ∃ names, (storeService.answer now s .listDatabases).1 = .ok names ∧
      names.Pairwise (· < ·) ∧
      ∀ name, name ∈ names ↔ ∃ properties since, IsMade h name properties since := by
  refine ⟨s.databases.keys, rfl, s.databases.pairwise_keys, ?_⟩
  intro name
  rw [NameMap.mem_keys_iff, (records name).isMade_iff]

end TableCatalog.Store
