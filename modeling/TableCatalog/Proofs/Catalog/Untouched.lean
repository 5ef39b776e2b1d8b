import TableCatalog.Proofs.Catalog.Operation
import TableCatalog.Proofs.Store.Action

/-!
# What fails leaves the store untouched

Every action of a store looks up what it is about before it writes anything, so that one that fails
gives the store back as it found it. A call of a catalog over the store makes one request at most.
-/

namespace TableCatalog

/-! ## Actions that fail

What fails can be left out of a course of actions.
-/

namespace Store

/-- The failure of an action with a result. -/
def Action.failure? : (a : Action) → a.Result → Option Failure
  | .request _ _, .error f => some f
  | .setAudit _ _, .error f => some f
  | .putTable _ _ _ _, .error f => some f
  | .putBranch _ _ _, .error f => some f
  | _, _ => none

variable {s : Store} {f : Failure}

theorem answer_of_error {now : Instant} {r : Request} (failed : (s.answer now r).1 = .error f) :
    (s.answer now r).2 = s := by
  cases r with
  | createDatabase name properties =>
    simp only [answer] at failed ⊢
    cases found : s.databases.get? name with
    | none =>
      rw [createDatabase_of_none found] at failed
      cases failed
    | some d => rw [createDatabase_of_some found]
  | dropDatabase name =>
    simp only [answer] at failed ⊢
    cases found : s.databases.get? name with
    | none => rw [dropDatabase_of_none found]
    | some d =>
      rw [dropDatabase_of_some found] at failed
      cases failed
  | alterDatabase name remove set =>
    simp only [answer] at failed ⊢
    cases found : s.databases.get? name with
    | none => rw [alterDatabase_of_none found]
    | some d =>
      rw [alterDatabase_of_some found] at failed
      cases failed
  | loadTableToken i =>
    simp only [answer, issueToken] at failed ⊢
    cases found : s.table i with
    | error f' => rfl
    | ok there =>
      rw [found] at failed
      cases failed
  | config | listDatabases | listDatabasesPaged | getDatabase | listTables | listTablesPaged
  | getTable => rfl

/-- **An action that fails leaves the store as it was.** -/
theorem perform_of_failure? {a : Action} (failed : a.failure? (s.perform a).1 = some f) :
    (s.perform a).2 = s := by
  cases a with
  | request now r =>
    have failed : (Action.request now r).failure? (s.answer now r).1 = some f := failed
    cases answered : (s.answer now r).1 with
    | error f' => exact answer_of_error answered
    | ok reply =>
      rw [answered] at failed
      cases failed
  | setAudit name audit =>
    simp only [perform] at failed ⊢
    cases found : s.databases.get? name with
    | none => rw [setDatabaseAudit_of_none found]
    | some d =>
      rw [setDatabaseAudit_of_some found] at failed
      cases failed
  | putTable name table schema audit =>
    simp only [perform] at failed ⊢
    cases found : s.databases.get? name with
    | none => rw [putTable_of_none found]
    | some d =>
      cases there : d.tables.get? table with
      | none =>
        rw [putTable_of_new found there] at failed
        cases failed
      | some t =>
        rw [putTable_of_there found there] at failed
        cases failed
  | putBranch name table branch =>
    simp only [perform] at failed ⊢
    cases found : s.databases.get? name with
    | none => rw [putBranch_of_none found]
    | some d =>
      cases there : d.tables.get? table with
      | none => rw [putBranch_of_new found there]
      | some t =>
        rw [putBranch_of_there found there] at failed
        cases failed

/-! ### Courses of actions -/

/-- The actions of a course that succeed where they stand. -/
def succeeding (s : Store) : List Action → List Action
  | [] => []
  | a :: actions =>
    if (a.failure? (s.perform a).1).isSome then s.succeeding actions
    else a :: (s.perform a).2.succeeding actions

/-- **What fails can be left out.** -/
theorem after_succeeding (s : Store) (actions : List Action) :
    s.after (s.succeeding actions) = s.after actions := by
  induction actions generalizing s with
  | nil => rfl
  | cons a actions ih =>
    rw [succeeding]
    split
    · next failed =>
      obtain ⟨f, is⟩ := Option.isSome_iff_exists.mp failed
      have same : s.after (a :: actions) = s.after actions := by
        show (s.perform a).2.after actions = s.after actions
        rw [perform_of_failure? is]
      rw [ih, same]
    · exact ih (s.perform a).2

end Store

/-! ## Calls that fail

Three requests of calls can change the store, and a call that makes one of these fails only if its
request does; the others may fail for what a call makes of the reply, but they are only questions. A
failure that a call ignores leaves the store as it was, too.
-/

namespace Catalog

open Operation (result_perform_ask result_perform_of_error result_perform_within)
open Store (Action)

section

variable {c : Catalog} {s : Store} {now : Instant} {name : String}

/-! ### Calls that change a store -/

theorem result_createDatabase_of_ok (c : Catalog) (ignoreIfExists : Bool) {properties : Options}
    (granted : (storeService.answer now s (.createDatabase name properties)).1 = .ok ()) :
    ((c.createDatabase name ignoreIfExists properties).perform storeService now s).result =
      .ok () := by
  rw [createDatabase, result_perform_within, result_perform_ask granted]

theorem result_dropDatabase_of_ok (c : Catalog) (ignoreIfNotExists : Bool)
    (granted : (storeService.answer now s (.dropDatabase name)).1 = .ok ()) :
    ((c.dropDatabase name ignoreIfNotExists).perform storeService now s).result = .ok () := by
  rw [dropDatabase, result_perform_within, result_perform_ask granted]

theorem result_alterDatabase_of_ok (c : Catalog) {changes : List PropertyChange}
    (granted : (storeService.answer now s
      (.alterDatabase name (PropertyChanges.reduce changes).remove.keys
        (PropertyChanges.reduce changes).set)).1 = .ok ()) :
    ((c.alterDatabase name changes).perform storeService now s).result = .ok () := by
  rw [alterDatabase, result_perform_within, result_perform_ask granted]

/-- A call that succeeds if its request does has changed nothing if it fails. -/
theorem service_of_request {call : Call} {e : CatalogError} (r : Request)
    (leaves : ((c.operation call).perform storeService now s).service = (s.answer now r).2)
    (grants : ∀ a, (s.answer now r).1 = .ok a →
      ∃ v, ((c.operation call).perform storeService now s).result = .ok v)
    (failed : ((c.operation call).perform storeService now s).result = .error e) :
    ((c.operation call).perform storeService now s).service = s := by
  rw [leaves]
  cases answered : (s.answer now r).1 with
  | error f => exact Store.answer_of_error answered
  | ok a =>
    obtain ⟨v, granted⟩ := grants a answered
    cases granted.symm.trans failed

/-- A call that fails leaves the store as it was. -/
theorem service_of_error {call : Call} {e : CatalogError}
    (failed : ((c.operation call).perform storeService now s).result = .error e) :
    ((c.operation call).perform storeService now s).service = s := by
  cases call with
  | createDatabase name ignoreIfExists properties =>
    exact service_of_request (.createDatabase name properties) rfl
      (fun _ granted => ⟨(), result_createDatabase_of_ok c ignoreIfExists granted⟩) failed
  | dropDatabase name ignoreIfNotExists =>
    exact service_of_request (.dropDatabase name) rfl
      (fun _ granted => ⟨(), result_dropDatabase_of_ok c ignoreIfNotExists granted⟩) failed
  | alterDatabase name changes =>
    exact service_of_request (.alterDatabase name (PropertyChanges.reduce changes).remove.keys
      (PropertyChanges.reduce changes).set) rfl
      (fun _ granted => ⟨(), result_alterDatabase_of_ok c granted⟩) failed
  | getTable identifier =>
    simp only [operation, getTable]
    cases Identifier.parse identifier <;> rfl
  | connect | listDatabases | listDatabasesPaged | getDatabase | listTables | listTablesPaged
  | createTable | loadTable => rfl

/-! ### Failures that are ignored -/

theorem createDatabase_ignoring {d : Store.Database} (found : s.databases.get? name = some d)
    (properties : Options) :
    let o := (c.createDatabase name true properties).perform storeService now s
    o.result = .ok () ∧ o.service = s := by
  have refused : (storeService.answer now s (.createDatabase name properties)).1 =
      .error (Store.databaseExists name) :=
    congrArg Prod.fst (Store.createDatabase_of_some found properties)
  exact ⟨result_perform_of_error (.head _) refused, Store.answer_of_error refused⟩

theorem dropDatabase_ignoring (absent : s.databases.get? name = none) :
    let o := (c.dropDatabase name true).perform storeService now s
    o.result = .ok () ∧ o.service = s := by
  have refused : (storeService.answer now s (.dropDatabase name)).1 =
      .error (Store.noDatabase name) :=
    congrArg Prod.fst (Store.dropDatabase_of_none absent)
  exact ⟨result_perform_of_error (.head _) refused, Store.answer_of_error refused⟩

end

/-- **What fails leaves the store as it was**: an action on the store, whatever its arguments, and a
call of a catalog over it. So does a call that is content with a database that is there already, or
with one that is not there. -/
theorem failures_leave_the_store (s : Store) :
    (∀ (a : Action) (f : Failure),
      a.failure? (s.perform a).1 = some f → (s.perform a).2 = s) ∧
    (∀ (c : Catalog) (call : Call) (now : Instant) (e : CatalogError),
      ((c.operation call).perform storeService now s).result = .error e →
        ((c.operation call).perform storeService now s).service = s) ∧
    (∀ (c : Catalog) (now : Instant) (name : String) (properties : Options) (d : Store.Database),
      s.databases.get? name = some d →
        let o := (c.createDatabase name true properties).perform storeService now s
        o.result = .ok () ∧ o.service = s) ∧
    (∀ (c : Catalog) (now : Instant) (name : String), s.databases.get? name = none →
      let o := (c.dropDatabase name true).perform storeService now s
      o.result = .ok () ∧ o.service = s) :=
  ⟨fun _ _ => Store.perform_of_failure?, fun _ _ _ _ => service_of_error,
    fun _ _ _ properties _ found => createDatabase_ignoring found properties,
    fun _ _ _ => dropDatabase_ignoring⟩

namespace Sample

/-- A database with a table. -/
def shelf : Store :=
  Store.after {} [.request Instant.epoch (.createDatabase "shelf" {}),
    .putTable "shelf" "jars" {} {}]

end Sample

theorem failures_leave_shelf :
    let s := Sample.shelf
    let c : Catalog := ⟨{}, {}⟩
    (s.perform (.putBranch "shelf" "bowls" "spring")).2 = s ∧
    ((c.operation (.getDatabase "attic")).perform storeService Instant.epoch s).service = s ∧
    ((c.createDatabase "shelf" true {}).perform storeService Instant.epoch s).service = s ∧
    ((c.dropDatabase "attic" true).perform storeService Instant.epoch s).service = s := by
  intro s c
  obtain ⟨actions, calls, making, dropping⟩ := failures_leave_the_store s
  have there : s.databases.get? "shelf" = some _ := rfl
  exact ⟨actions (.putBranch "shelf" "bowls" "spring") _ rfl, calls c _ _ _ rfl,
    (making c Instant.epoch "shelf" {} _ there).2, (dropping c Instant.epoch "attic" rfl).2⟩

end Catalog

end TableCatalog
