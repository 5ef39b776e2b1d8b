import TableCatalog.Proofs.Catalog.Operation
import TableCatalog.Service

/-!
# Calls whose request fails

The metadata service fails with a status code, and to some calls two of the codes mean something:
nothing is there, or something is there already. Such a call fails for a cause of its own, unless it
was told to ignore just this. To every other call the failure means nothing, and it is passed on as
it is. In no case does the status code change on the way.
-/

namespace TableCatalog

/-- An operation failed for a cause of its own. -/
def CatalogError.IsFor (e : CatalogError) (cause : Cause) : Prop :=
  ∃ details, e = .own ⟨cause, details⟩

namespace Catalog

variable {σ : Type} {service : Service σ} {now : Instant} {state : σ}
variable {c : Catalog} {call : Call} {r : Request} {f : Failure}

namespace Call

/-- The database that has to be there for a call. -/
def database? : Call → Option String
  | .getDatabase name | .dropDatabase name _ | .alterDatabase name _ | .listTables name
  | .listTablesPaged name _ => some name
  | _ => none

/-- The table that has to be there for a call. -/
def table? : Call → Option Identifier
  | .getTable identifier => (Identifier.parse identifier).toOption
  | .loadTable identifier => some identifier
  | _ => none

/-- The database that must not be there for a call. -/
def newDatabase? : Call → Option String
  | .createDatabase name _ _ => some name
  | _ => none

/-- A call is content with a failure. -/
def Ignores (f : Failure) : Call → Prop
  | .createDatabase _ ignoreIfExists _ => ignoreIfExists = true ∧ f.code = 409
  | .dropDatabase _ ignoreIfNotExists => ignoreIfNotExists = true ∧ f.code = 404
  | _ => False

/-- What a failure of the metadata service means to a call. -/
def cause? (f : Failure) (call : Call) : Option Cause :=
  if f.code = 404 then (call.database?.map .databaseNotFound).or (call.table?.map .tableNotFound)
  else if f.code = 409 then call.newDatabase?.map .databaseAlreadyExists
  else none

/-- What a call makes of a failure with which it is not content. -/
def told (f : Failure) (call : Call) : CatalogError :=
  match call.cause? f with
  | some cause => .ofFault { cause, details := [f.message] }
  | none => .remote f

/-- How a failure of the metadata service is told. -/
structure Tells (call : Call) (f : Failure) (e : CatalogError) : Prop where
  code : e.toFailure.code = f.code
  databaseNotFound : ∀ name,
    e.IsFor (.databaseNotFound name) ↔ f.code = 404 ∧ call.database? = some name
  tableNotFound : ∀ i, e.IsFor (.tableNotFound i) ↔ f.code = 404 ∧ call.table? = some i
  databaseAlreadyExists : ∀ name,
    e.IsFor (.databaseAlreadyExists name) ↔ f.code = 409 ∧ call.newDatabase? = some name
  detail : ∀ cause, e.IsFor cause → e.toFailure.details.head? = some f.message
  passedOn : (∀ name, ¬ e.IsFor (.databaseNotFound name)) → (∀ i, ¬ e.IsFor (.tableNotFound i)) →
    (∀ name, ¬ e.IsFor (.databaseAlreadyExists name)) → e = .remote f ∧ e.toFailure = f

end Call

theorem isFor_ofFault_iff {fault : Fault} {cause : Cause} :
    (CatalogError.ofFault fault).IsFor cause ↔ fault.cause = cause := by
  constructor
  · rintro ⟨details, same⟩
    cases same
    rfl
  · rintro rfl
    exact ⟨_, rfl⟩

theorem not_isFor_remote (f : Failure) (cause : Cause) : ¬ (CatalogError.remote f).IsFor cause := by
  rintro ⟨details, same⟩
  cases same

namespace Call

/-- No call looks for a database and for a table. -/
theorem table?_eq_none_of_database? {name : String} (sought : call.database? = some name) :
    call.table? = none := by
  cases call <;> first | rfl | cases sought

theorem cause?_eq_databaseNotFound_iff {name : String} :
    call.cause? f = some (.databaseNotFound name) ↔ f.code = 404 ∧ call.database? = some name := by
  unfold cause?
  split
  · next absent => cases call.database? <;> cases call.table? <;> simp [absent]
  · next other => split <;> cases call.newDatabase? <;> simp [other]

theorem cause?_eq_tableNotFound_iff {i : Identifier} :
    call.cause? f = some (.tableNotFound i) ↔ f.code = 404 ∧ call.table? = some i := by
  unfold cause?
  split
  · next absent =>
    cases sought : call.database? with
    | some name => simp [absent, table?_eq_none_of_database? sought]
    | none => cases call.table? <;> simp [absent]
  · next other => split <;> cases call.newDatabase? <;> simp [other]

theorem cause?_eq_databaseAlreadyExists_iff {name : String} :
    call.cause? f = some (.databaseAlreadyExists name) ↔
      f.code = 409 ∧ call.newDatabase? = some name := by
  unfold cause?
  split
  · next absent => cases call.database? <;> cases call.table? <;> simp [absent]
  · next other =>
    split
    · next present => cases call.newDatabase? <;> simp [present]
    · next neither => simp [neither]

/-- A failure means one of three things to a call. -/
theorem cause?_cases {cause : Cause} (meant : call.cause? f = some cause) :
    (∃ name, cause = .databaseNotFound name) ∨ (∃ i, cause = .tableNotFound i) ∨
      ∃ name, cause = .databaseAlreadyExists name := by
  unfold cause? at meant
  split at meant
  · cases sought : call.database? with
    | some name =>
      rw [sought] at meant
      exact .inl ⟨name, (Option.some.inj meant).symm⟩
    | none =>
      rw [sought] at meant
      obtain ⟨i, -, rfl⟩ := Option.map_eq_some_iff.mp meant
      exact .inr (.inl ⟨i, rfl⟩)
  · split at meant
    · obtain ⟨name, -, rfl⟩ := Option.map_eq_some_iff.mp meant
      exact .inr (.inr ⟨name, rfl⟩)
    · cases meant

theorem isFor_told_iff {cause : Cause} :
    (call.told f).IsFor cause ↔ call.cause? f = some cause := by
  unfold told
  cases call.cause? f with
  | none => simp [not_isFor_remote]
  | some meant => simp [isFor_ofFault_iff]

theorem code_of_cause? {cause : Cause} (meant : call.cause? f = some cause) :
    cause.code = f.code := by
  rcases cause?_cases meant with ⟨name, rfl⟩ | ⟨i, rfl⟩ | ⟨name, rfl⟩
  · exact (cause?_eq_databaseNotFound_iff.mp meant).1.symm
  · exact (cause?_eq_tableNotFound_iff.mp meant).1.symm
  · exact (cause?_eq_databaseAlreadyExists_iff.mp meant).1.symm

theorem tells_told (call : Call) (f : Failure) : call.Tells f (call.told f) where
  code := by
    unfold told
    cases meant : call.cause? f with
    | none => rfl
    | some cause => exact code_of_cause? meant
  databaseNotFound name := isFor_told_iff.trans cause?_eq_databaseNotFound_iff
  tableNotFound i := isFor_told_iff.trans cause?_eq_tableNotFound_iff
  databaseAlreadyExists name := isFor_told_iff.trans cause?_eq_databaseAlreadyExists_iff
  detail cause own := by
    rw [told, isFor_told_iff.mp own]
    rfl
  passedOn noDatabase noTable noConflict := by
    have meaningless : call.cause? f = none := by
      rw [Option.eq_none_iff_forall_ne_some]
      intro cause meant
      have own := isFor_told_iff.mpr meant
      rcases cause?_cases meant with ⟨name, rfl⟩ | ⟨i, rfl⟩ | ⟨name, rfl⟩
      · exact noDatabase name own
      · exact noTable i own
      · exact noConflict name own
    rw [told, meaningless]
    exact ⟨rfl, rfl⟩

end Call

/-! ## What a failed request leads to -/

theorem orMissing_of_notFound (missing : Cause) (absent : f.code = 404) :
    (Operation.orMissing missing f).1 = .ofFault { cause := missing, details := [f.message] } := by
  simp [Operation.orMissing, Failure.isNotFound, absent]

theorem orMissing_of_other (missing : Cause) (other : f.code ≠ 404) :
    (Operation.orMissing missing f).1 = .remote f := by
  simp [Operation.orMissing, Operation.passOn, Failure.isNotFound, other]

namespace Call

theorem told_of_ne (other : f.code ≠ 404) (makesNone : call.newDatabase? = none) :
    call.told f = .remote f := by
  rw [told, cause?, if_neg other, makesNone, Option.map_none, ite_self]

theorem told_of_database? {name : String} (sought : call.database? = some name) :
    call.told f = (Operation.orMissing (.databaseNotFound name) f).1 := by
  by_cases absent : f.code = 404
  · rw [told, cause?_eq_databaseNotFound_iff.mpr ⟨absent, sought⟩, orMissing_of_notFound _ absent]
  · have makesNone : call.newDatabase? = none := by cases call <;> first | rfl | cases sought
    rw [told_of_ne absent makesNone, orMissing_of_other _ absent]

theorem told_of_table? {i : Identifier} (sought : call.table? = some i) :
    call.told f = (Operation.orMissing (.tableNotFound i) f).1 := by
  by_cases absent : f.code = 404
  · rw [told, cause?_eq_tableNotFound_iff.mpr ⟨absent, sought⟩, orMissing_of_notFound _ absent]
  · have makesNone : call.newDatabase? = none := by cases call <;> first | rfl | cases sought
    rw [told_of_ne absent makesNone, orMissing_of_other _ absent]

/-- To a call that is about no database and no table in particular a failure means nothing. -/
theorem told_of_none (noDatabase : call.database? = none) (noTable : call.table? = none)
    (makesNone : call.newDatabase? = none) : call.told f = .remote f := by
  rw [told, cause?, noDatabase, noTable, makesNone]
  simp

end Call

theorem onError_createDatabase (c : Catalog) {name : String} {ignoreIfExists : Bool}
    {properties : Options} :
    (c.createDatabase name ignoreIfExists properties).onError f =
      if ignoreIfExists = true ∧ f.code = 409 then .ok ()
      else .error (Call.told f (.createDatabase name ignoreIfExists properties)) := by
  by_cases present : f.code = 409
  · cases ignoreIfExists <;>
      simp [createDatabase, Operation.within, Operation.onError, Call.told, Call.cause?,
        Call.newDatabase?, Failure.isConflict, present]
  · simp [createDatabase, Operation.within, Operation.onError, Call.told, Call.cause?,
      Call.database?, Call.table?, Failure.isConflict, Operation.passOn, present]

theorem onError_dropDatabase (c : Catalog) {name : String} {ignoreIfNotExists : Bool} :
    (c.dropDatabase name ignoreIfNotExists).onError f =
      if ignoreIfNotExists = true ∧ f.code = 404 then .ok ()
      else .error (Call.told f (.dropDatabase name ignoreIfNotExists)) := by
  rw [Call.told_of_database? rfl]
  by_cases absent : f.code = 404
  · cases ignoreIfNotExists <;>
      simp [dropDatabase, Operation.within, Operation.onError, Failure.isNotFound, absent]
  · simp [dropDatabase, Operation.within, Operation.onError, Failure.isNotFound, absent]

/-- A call whose request fails is content with the failure, or fails as it tells it. -/
theorem onError_operation (c : Catalog) (asks : call.request? c ≠ none) :
    (call.Ignores f ∧ ∃ a, (c.operation call).onError f = .ok a) ∨
      (¬ call.Ignores f ∧ (c.operation call).onError f = .error (call.told f)) := by
  cases call with
  | createDatabase name ignoreIfExists properties =>
    dsimp only [operation, Call.Ignores]
    rw [onError_createDatabase]
    split
    · next ignored => exact .inl ⟨ignored, (), rfl⟩
    · next taken => exact .inr ⟨taken, rfl⟩
  | dropDatabase name ignoreIfNotExists =>
    dsimp only [operation, Call.Ignores]
    rw [onError_dropDatabase]
    split
    · next ignored => exact .inl ⟨ignored, (), rfl⟩
    · next taken => exact .inr ⟨taken, rfl⟩
  | connect | listDatabases | listDatabasesPaged =>
    refine .inr ⟨id, ?_⟩
    rw [Call.told_of_none rfl rfl rfl]
    rfl
  | getDatabase | alterDatabase | listTables | listTablesPaged =>
    refine .inr ⟨id, ?_⟩
    rw [Call.told_of_database? rfl]
    rfl
  | createTable => exact absurd rfl asks
  | loadTable i =>
    refine .inr ⟨id, ?_⟩
    rw [Call.told_of_table? rfl]
    rfl
  | getTable identifier =>
    cases parsed : Identifier.parse identifier with
    | error refused =>
      rw [Call.request?, parsed] at asks
      exact absurd rfl asks
    | ok i =>
      have sought : (Call.getTable identifier).table? = some i := by
        rw [Call.table?, parsed]
        rfl
      refine .inr ⟨id, ?_⟩
      rw [Call.told_of_table? sought, operation, getTable, parsed]
      rfl

/-- **How the failure of a request is told.** A call whose request fails succeeds exactly if it was
told to ignore this failure. Otherwise it fails under the same status code: with what the code means
to the call, and the message of the service as the first detail, or with the failure itself. -/
theorem failure_is_told_by_its_code (asked : r ∈ (c.operation call).requests)
    (failed : (service.answer now state r).1 = .error f) :
    let result := ((c.operation call).perform service now state).result
    ((∃ a, result = .ok a) ↔ call.Ignores f) ∧ ∀ e, result = .error e → call.Tells f e := by
  intro result
  have asks : call.request? c ≠ none := by
    intro settled
    rw [requests_operation, settled] at asked
    cases asked
  have same : result = (c.operation call).onError f :=
    Operation.result_perform_of_error asked failed
  rw [same]
  rcases onError_operation c asks with ⟨ignored, succeeds⟩ | ⟨taken, fails⟩
  · refine ⟨iff_of_true succeeds ignored, ?_⟩
    intro e fails
    obtain ⟨a, ok⟩ := succeeds
    rw [ok] at fails
    cases fails
  · rw [fails]
    refine ⟨iff_of_false ?_ taken, ?_⟩
    · rintro ⟨a, ok⟩
      cases ok
    · intro e told
      cases told
      exact Call.tells_told call f

namespace Sample

def farmer : Catalog := { config := {}, options := {} }

/-- A failure with an identity and a detail of its own. -/
def gone : Failure where
  message := "no crops"
  kind := "NoSuchDatabase"
  code := 404
  details := ["region 7"]
  id := some "0191-77"

/-- A service that fails with it at two methods. -/
def fallow : Script := { dropDatabase := [.error gone], listDatabases := [.error gone] }

end Sample

/-- A call that is about a database tells which one is not there, unless it was told to ignore
this; a listing passes the failure on. -/
theorem told_of_gone :
    (∃ e, ((Sample.farmer.dropDatabase "crops" false).perform scriptedService Instant.epoch
        Sample.fallow).result = .error e ∧ e.IsFor (.databaseNotFound "crops") ∧
      e.toFailure.details.head? = some "no crops") ∧
    (∃ a, ((Sample.farmer.dropDatabase "crops" true).perform scriptedService Instant.epoch
        Sample.fallow).result = .ok a) ∧
    ∃ e, (Sample.farmer.listDatabases.perform scriptedService Instant.epoch
        Sample.fallow).result = .error e ∧ e.toFailure = Sample.gone := by
  have refused := @failure_is_told_by_its_code _ scriptedService Instant.epoch Sample.fallow
    Sample.farmer (.dropDatabase "crops" false) (.dropDatabase "crops") Sample.gone (.head _) rfl
  have ignored := @failure_is_told_by_its_code _ scriptedService Instant.epoch Sample.fallow
    Sample.farmer (.dropDatabase "crops" true) (.dropDatabase "crops") Sample.gone (.head _) rfl
  have passed := @failure_is_told_by_its_code _ scriptedService Instant.epoch Sample.fallow
    Sample.farmer .listDatabases .listDatabases Sample.gone (.head _) rfl
  refine ⟨⟨_, rfl, ?_⟩, ignored.1.mpr ⟨rfl, rfl⟩, _, rfl, ?_⟩
  · have tells := refused.2 _ rfl
    have own := (tells.databaseNotFound "crops").mpr ⟨rfl, rfl⟩
    exact ⟨own, tells.detail _ own⟩
  · have tells := passed.2 _ rfl
    refine (tells.passedOn ?_ ?_ ?_).2
    · exact fun name own => nomatch ((tells.databaseNotFound name).mp own).2
    · exact fun i own => nomatch ((tells.tableNotFound i).mp own).2
    · exact fun name own => nomatch ((tells.databaseAlreadyExists name).mp own).2

end Catalog

end TableCatalog
