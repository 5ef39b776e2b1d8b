import TableCatalog.Catalog

/-!
# Operations and calls

An operation that makes a request ends as its reply is taken, or as a failure is taken. The span it
stands in and the events it emits play no part in the result.
-/

namespace TableCatalog

namespace Operation

variable {σ α : Type} {service : Service σ} {now : Instant} {state : σ}

theorem requests_perform (o : Operation α) (service : Service σ) (now : Instant) (state : σ) :
    (o.perform service now state).requests = o.requests := by
  cases o <;> rfl

theorem result_perform_within (span : Span) (o : Operation α) :
    ((o.within span).perform service now state).result =
      (o.perform service now state).result := by
  cases o <;> rfl

theorem result_perform_ask {r : Request} {before : List Event}
    {conclude : Answer r → CatalogResult α × List Event} {answer : Answer r}
    (answered : (service.answer now state r).1 = answer) :
    ((ask r before conclude).perform service now state).result = (conclude answer).1 := by
  show (conclude (service.answer now state r).1).1 = _
  rw [answered]

theorem result_perform_request {r : Request} {onFailure : OnFailure}
    {onReply : r.Reply → CatalogResult α × List Event} :
    ((request r onFailure onReply).perform service now state).result =
      match (service.answer now state r).1 with
      | .ok reply => (onReply reply).1
      | .error f => .error (onFailure f).1 := by
  simp only [request, perform]
  cases (service.answer now state r).1 <;> rfl

/-- An operation succeeds if its request is answered, and if what is made of the reply succeeds. -/
theorem result_perform_request_eq_ok_iff {r : Request} {onFailure : OnFailure}
    {onReply : r.Reply → CatalogResult α × List Event} {a : α} :
    ((request r onFailure onReply).perform service now state).result = .ok a ↔
      ∃ reply, (service.answer now state r).1 = .ok reply ∧ (onReply reply).1 = .ok a := by
  rw [result_perform_request]
  cases (service.answer now state r).1 <;> simp

theorem result_perform_fetch_eq_ok_iff {r : Request} {onFailure : OnFailure} {f : r.Reply → α}
    {a : α} :
    ((fetch r onFailure f).perform service now state).result = .ok a ↔
      ∃ reply, (service.answer now state r).1 = .ok reply ∧ f reply = a := by
  rw [fetch, result_perform_request_eq_ok_iff]
  simp

theorem result_perform_fetch_of_error {r : Request} {onFailure : OnFailure} {f : r.Reply → α}
    {failure : Failure} (failed : (service.answer now state r).1 = .error failure) :
    ((fetch r onFailure f).perform service now state).result = .error (onFailure failure).1 := by
  rw [fetch, result_perform_request, failed]

/-! ## Events -/

theorem events_perform_within (span : Span) (o : Operation α) :
    ((o.within span).perform service now state).events =
      (o.perform service now state).events.map (Event.within span) := by
  cases o with
  | settled result events => rfl
  | ask r before conclude => exact List.map_append.symm

theorem events_perform_ask {r : Request} {before : List Event}
    {conclude : Answer r → CatalogResult α × List Event} {answer : Answer r}
    (answered : (service.answer now state r).1 = answer) :
    ((ask r before conclude).perform service now state).events =
      before ++ (conclude answer).2 := by
  show before ++ (conclude (service.answer now state r).1).2 = _
  rw [answered]

/-- What an operation comes to depends on the answer alone, whoever gives it. -/
theorem perform_congr {τ : Type} {other : Service τ} {later : Instant} {otherState : τ}
    {o : Operation α}
    (same : ∀ r ∈ o.requests,
      (service.answer now state r).1 = (other.answer later otherState r).1) :
    (o.perform service now state).result = (o.perform other later otherState).result ∧
      (o.perform service now state).events = (o.perform other later otherState).events := by
  cases o with
  | settled result events => exact ⟨rfl, rfl⟩
  | ask r before conclude =>
    have answered := same r (List.mem_singleton_self r)
    exact ⟨(result_perform_ask answered).trans (result_perform_ask rfl).symm,
      (events_perform_ask answered).trans (events_perform_ask rfl).symm⟩

/-! ## Failed requests -/

/-- What an operation comes to if its request fails. -/
def onError (f : Failure) : Operation α → CatalogResult α
  | .settled result _ => result
  | .ask _ _ conclude => (conclude (.error f)).1

theorem result_perform_of_error {o : Operation α} {r : Request} {f : Failure}
    (asked : r ∈ o.requests) (failed : (service.answer now state r).1 = .error f) :
    (o.perform service now state).result = o.onError f := by
  cases o with
  | settled result events => cases asked
  | ask request before conclude =>
    obtain rfl : r = request := List.mem_singleton.mp asked
    exact result_perform_ask failed

end Operation

/-! ## Calls

All operations of a catalog as one type, so that something can be said of any of them. A call makes
at most one request to the metadata service. Which one it is can be told from the arguments of the
call and the page size of the configuration, before anything is asked.
-/

namespace Catalog

/-- What a client can want of a catalog, or of a service to which it connects. -/
inductive Call where
  | connect (clientOptions : Options) (env : Environment)
  | listDatabases
  | listDatabasesPaged (query : PageQuery)
  | createDatabase (name : String) (ignoreIfExists : Bool) (properties : Options)
  | getDatabase (name : String)
  | dropDatabase (name : String) (ignoreIfNotExists : Bool)
  | alterDatabase (name : String) (changes : List PropertyChange)
  | listTables (database : String)
  | listTablesPaged (database : String) (query : PageQuery)
  | createTable (identifier : String) (schema : Schema) (ignoreIfExists : Bool)
  | getTable (identifier : String)
  | loadTable (identifier : Identifier)

namespace Call

@[reducible] def Value : Call → Type
  | .connect _ _ => Catalog
  | .listDatabases | .listTables _ => List String
  | .listDatabasesPaged _ | .listTablesPaged _ _ => Page String
  | .createDatabase _ _ _ | .dropDatabase _ _ | .alterDatabase _ _ | .createTable _ _ _ => Unit
  | .getDatabase _ => Database
  | .getTable _ | .loadTable _ => Table

/-- The request that a call makes. -/
def request? (c : Catalog) : Call → Option Request
  | .connect _ _ => some .config
  | .listDatabases => some .listDatabases
  | .listDatabasesPaged query =>
    some (.listDatabasesPaged { query with limit := query.limit.or c.config.pageSizeDefault })
  | .createDatabase name _ properties => some (.createDatabase name properties)
  | .getDatabase name => some (.getDatabase name)
  | .dropDatabase name _ => some (.dropDatabase name)
  | .alterDatabase name changes =>
    let reduced := PropertyChanges.reduce changes
    some (.alterDatabase name reduced.remove.keys reduced.set)
  | .listTables database => some (.listTables database)
  | .listTablesPaged database query =>
    some (.listTablesPaged database
      { query with limit := query.limit.or c.config.pageSizeDefault })
  | .createTable _ _ _ => none
  | .getTable identifier => (Identifier.parse identifier).toOption.map .getTable
  | .loadTable identifier => some (.getTable identifier)

end Call

/-- What a catalog does at a call. -/
def operation (c : Catalog) : (call : Call) → Operation call.Value
  | .connect clientOptions env => connect clientOptions env
  | .listDatabases => c.listDatabases
  | .listDatabasesPaged query => c.listDatabasesPaged query
  | .createDatabase name ignoreIfExists properties =>
    c.createDatabase name ignoreIfExists properties
  | .getDatabase name => c.getDatabase name
  | .dropDatabase name ignoreIfNotExists => c.dropDatabase name ignoreIfNotExists
  | .alterDatabase name changes => c.alterDatabase name changes
  | .listTables database => c.listTables database
  | .listTablesPaged database query => c.listTablesPaged database query
  | .createTable identifier schema ignoreIfExists => c.createTable identifier schema ignoreIfExists
  | .getTable identifier => c.getTable identifier
  | .loadTable identifier => c.loadTable identifier

/-- **A call makes the request of its name, or none.** -/
theorem requests_operation (c : Catalog) (call : Call) :
    (c.operation call).requests = (call.request? c).toList := by
  cases call with
  | getTable identifier =>
    simp only [operation, getTable, Call.request?]
    cases Identifier.parse identifier <;> rfl
  | _ => rfl

end Catalog

end TableCatalog
