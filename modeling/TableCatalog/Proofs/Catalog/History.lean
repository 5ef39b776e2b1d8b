import TableCatalog.Catalog
import TableCatalog.Proofs.Catalog.Operation
import TableCatalog.Proofs.Store.Lookup
import TableCatalog.Proofs.Store.Separation

/-!
# What is found after a run

After any run that starts without databases, the history says which tables are found, by clients of
the store as by a catalog, and what the replies and the listings are. Only what was done to the
database itself matters.
-/

namespace TableCatalog.Catalog

open Store (Action IsMade Known IsTold puts)

variable {σ : Type} {service : Service σ} {state : σ} {now : Instant} {i : Identifier}

/-- What a catalog makes of the description of a table, which may not be at a location. -/
def loaded (c : Catalog) (i : Identifier) (reply : TableDescription) : CatalogResult Table :=
  match Location.parse reply.path with
  | .ok path => .ok (c.tableOf i path reply)
  | .error defect => .error (.ofFault (defect.toFault reply.path))

theorem result_perform_getTable_of_reply (c : Catalog) {text : String} {reply : TableDescription}
    (parsed : Identifier.parse text = .ok i)
    (answered : (service.answer now state (.getTable i)).1 = .ok reply) :
    ((c.getTable text).perform service now state).result = c.loaded i reply := by
  simp only [getTable, parsed]
  rw [loadTable, Operation.result_perform_within, Operation.result_perform_request, answered]
  dsimp only
  unfold loaded
  cases Location.parse reply.path <;> rfl

theorem result_perform_getTable_of_failure (c : Catalog) {text : String} {failure : Failure}
    (parsed : Identifier.parse text = .ok i)
    (answered : (service.answer now state (.getTable i)).1 = .error failure) :
    ((c.getTable text).perform service now state).result =
      .error (Operation.orMissing (.tableNotFound i) failure).1 := by
  simp only [getTable, parsed]
  rw [loadTable, Operation.result_perform_within, Operation.result_perform_request, answered]

/-- **A store is determined by its history.** After a run that starts without databases, a table is
found exactly if the history knows it, by a request for it, for a data token, or through a catalog,
and the reply is what the history tells. Tables can be put exactly into the databases that are made,
and those that were put since are the tables of a database. These are listed in increasing order, as
are the databases that are made. Without what is about other databases, a run leads to the same
replies, identities apart. -/
theorem store_is_determined_by_its_history (c : Catalog) {fresh : Store}
    (empty : fresh.databases = NameMap.empty) (actions : List Action) (now : Instant) :
    let s := fresh.after actions
    let h := fresh.deeds actions
    (∀ i, Known h i → ∃ reply grant, IsTold fresh.root h i reply ∧
      (storeService.answer now s (.getTable i)).1 = .ok reply ∧
      (storeService.answer now s (.loadTableToken i)).1 = .ok grant ∧
      ∀ text, Identifier.parse text = .ok i →
        ((c.getTable text).perform storeService now s).result = c.loaded i reply) ∧
    (∀ i, ¬ Known h i →
      (storeService.answer now s (.getTable i)).1 = .error (Store.noTable i.text) ∧
      (storeService.answer now s (.loadTableToken i)).1 = .error (Store.noTable i.text) ∧
      ∀ text, Identifier.parse text = .ok i →
        ((c.getTable text).perform storeService now s).result =
          .error (.ofFault
            { cause := .tableNotFound i, details := [(Store.noTable i.text).message] })) ∧
    (∀ name table schema audit, (∃ id, (s.putTable name table schema audit).1 = .ok id) ↔
      ∃ properties since, IsMade h name properties since) ∧
    (∀ name properties since, IsMade h name properties since →
      ∃ names, (storeService.answer now s (.listTables name)).1 = .ok names ∧
        names.Pairwise (· < ·) ∧ ∀ table, table ∈ names ↔ puts name table since ≠ []) ∧
    (∀ name, (¬ ∃ properties since, IsMade h name properties since) →
      (storeService.answer now s (.listTables name)).1 = .error (Store.noDatabase name)) ∧
    (∃ names, (storeService.answer now s .listDatabases).1 = .ok names ∧
      names.Pairwise (· < ·) ∧
      ∀ name, name ∈ names ↔ ∃ properties since, IsMade h name properties since) ∧
    ∀ name, let own := fresh.after (actions.filter (·.isAbout name))
      (storeService.answer now own (.listTables name)).1 =
        (storeService.answer now s (.listTables name)).1 ∧
      ∀ i : Identifier, i.database = name →
        (storeService.answer now own (.getTable i)).1.map TableDescription.anonymous =
          (storeService.answer now s (.getTable i)).1.map TableDescription.anonymous := by
  intro s h
  have records := Store.records_after empty actions
  refine ⟨?_, ?_, fun name => Store.putTable_eq_ok_iff (records name), ?_, ?_,
    Store.listDatabases_eq records now, ?_⟩
  · intro i known
    obtain ⟨reply, grant, told, answered, granted⟩ :=
      Store.answers_of_known (records i.database) known now
    refine ⟨reply, grant, told, answered, granted, ?_⟩
    intro text parsed
    exact result_perform_getTable_of_reply c parsed answered
  · intro i unknown
    obtain ⟨answered, refused⟩ := Store.answers_of_unknown (records i.database) unknown now
    refine ⟨answered, refused, ?_⟩
    intro text parsed
    exact result_perform_getTable_of_failure c parsed answered
  · intro name properties since made
    exact Store.listTables_of_isMade (records name) made now
  · intro name never
    exact Store.listTables_of_not_isMade (records name) never now
  · intro name
    have start : Store.Alike name fresh fresh := ⟨rfl, rfl⟩
    have alike := start.run actions
    refine ⟨alike.listTables_eq now, ?_⟩
    rintro i rfl
    exact alike.getTable_eq now

namespace Sample

def pilot : Catalog := { config := {}, options := {} }

/-- A branch of a table. -/
def shipsOnDraft : Identifier where
  database := "harbor"
  table := "ships"
  branch := some "draft"
  database_ok := by decide
  table_ok := by decide
  branch_ok := by
    intro b drafted
    cases drafted
    decide

def putShips (comment : String) : Action :=
  .putTable "harbor" "ships" { comment := some comment } {}

/-- A database is dropped and made again, and its table is put again beside its branch. -/
def traffic : List Action :=
  [.request Instant.epoch (.createDatabase "harbor" {}), putShips "old",
    .request Instant.epoch (.createDatabase "island" {}),
    .request Instant.epoch (.dropDatabase "harbor"),
    .request Instant.epoch (.createDatabase "harbor" {}), putShips "first",
    .putTable "island" "palms" {} {}, .putBranch "harbor" "ships" "draft", putShips "second"]

end Sample

theorem determined_by_history_of_traffic :
    ∃ reply, IsTold "memory://warehouse" (Store.deeds {} Sample.traffic) Sample.shipsOnDraft reply ∧
      (storeService.answer Instant.epoch (Store.after {} Sample.traffic)
        (.getTable Sample.shipsOnDraft)).1 = .ok reply ∧
      reply.schema.comment = some "second" ∧ reply.id = Store.idText 4 ∧
      ((Sample.pilot.getTable "harbor.ships.draft").perform storeService Instant.epoch
        (Store.after {} Sample.traffic)).result =
          Sample.pilot.loaded Sample.shipsOnDraft reply := by
  have empty : ({} : Store).databases = NameMap.empty := rfl
  obtain ⟨found, -⟩ :=
    store_is_determined_by_its_history Sample.pilot empty Sample.traffic Instant.epoch
  have made : IsMade (Store.deeds {} Sample.traffic) "harbor" {}
      ((Store.deeds {} Sample.traffic).drop 5) :=
    ⟨(Store.deeds {} Sample.traffic).take 4, by decide, by decide⟩
  have known : Known (Store.deeds {} Sample.traffic) Sample.shipsOnDraft := by
    refine ⟨_, _, made, by decide, ?_⟩
    intro branch drafted
    cases drafted
    decide
  obtain ⟨reply, grant, told, answered, -, through⟩ := found Sample.shipsOnDraft known
  refine ⟨reply, told, answered, ?_, ?_, through _ rfl⟩
  · obtain rfl := Except.ok.inj answered
    decide
  · obtain rfl := Except.ok.inj answered
    decide

end TableCatalog.Catalog
