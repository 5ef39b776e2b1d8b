import TableCatalog.Proofs.Catalog.Journal
import TableCatalog.Proofs.Options.Changes

/-!
# Calls that differ in secrets only

The options of a client and of a catalog, the properties that a database is made with and the values
that are set are secret. Two calls that are alike up to such secrets, and answered in the same way,
tell the same and load the same tables, up to the options that a catalog hands on.
-/

namespace TableCatalog.Catalog

open Operation (events_perform_ask events_perform_within perform_congr result_perform_ask
  result_perform_within)

variable {σ₁ σ₂ : Type} {service₁ : Service σ₁} {service₂ : Service σ₂} {now : Instant}
variable {state₁ : σ₁} {state₂ : σ₂} {c₁ c₂ : Catalog}

/-! ## Loading a table -/

theorem resolvedEvent_withheld (t : Table) : resolvedEvent t.withheld = resolvedEvent t := by
  obtain ⟨identifier, metadata, location, fileAccess⟩ := t
  cases fileAccess <;> rfl

/-- File access is chosen by the configuration; the options of a catalog are only handed on. -/
theorem withheld_resolve (same : c₁.config = c₂.config) (i : Identifier) (path : Location) :
    (c₁.resolver.resolve i path).withheld = (c₂.resolver.resolve i path).withheld := by
  have withheld (c : Catalog) : (c.resolver.resolve i path).withheld =
      if c.config.dataTokenEnabled
      then .token ⟨i, path, NameMap.empty, c.config.tokenRefreshMargin⟩ else .static :=
    apply_ite FileAccess.withheld _ _ _
  rw [withheld, withheld, same]

theorem withheld_tableOf (same : c₁.config = c₂.config) (i : Identifier) (path : Location)
    (d : TableDescription) :
    (c₁.tableOf i path d).withheld = (c₂.tableOf i path d).withheld := by
  simp only [Table.withheld, tableOf, withheld_resolve same]

theorem agree_loadTable (same : c₁.config = c₂.config) (i : Identifier)
    (answered : (service₁.answer now state₁ (.getTable i)).1 =
      (service₂.answer now state₂ (.getTable i)).1) :
    let o₁ := (c₁.loadTable i).perform service₁ now state₁
    let o₂ := (c₂.loadTable i).perform service₂ now state₂
    o₁.events = o₂.events ∧
      (loadedTables o₁.result).map Table.withheld =
        (loadedTables o₂.result).map Table.withheld := by
  intro o₁ o₂
  simp only [o₁, o₂, loadTable, events_perform_within, result_perform_within, Operation.request,
    events_perform_ask answered, result_perform_ask answered, events_perform_ask rfl,
    result_perform_ask rfl]
  cases (service₂.answer now state₂ (.getTable i)).1 with
  | error f => exact ⟨rfl, rfl⟩
  | ok d =>
    simp only
    cases Location.parse d.path with
    | error defect => exact ⟨rfl, rfl⟩
    | ok path =>
      have tables := withheld_tableOf same i path d
      refine ⟨?_, congrArg (fun t => [t]) tables⟩
      simp only
      rw [← resolvedEvent_withheld, tables, resolvedEvent_withheld]

/-! ## Calls -/

namespace Call

/-- Calls that differ in secrets only. -/
inductive Alike : Call → Call → Prop
  | same (call : Call) : Alike call call
  | connect (options₁ options₂ : Options) (env₁ env₂ : Environment) :
      Alike (.connect options₁ env₁) (.connect options₂ env₂)
  | createDatabase (name : String) (ignoreIfExists : Bool) (properties₁ properties₂ : Options) :
      Alike (.createDatabase name ignoreIfExists properties₁)
        (.createDatabase name ignoreIfExists properties₂)
  | alterDatabase (name : String) {changes₁ changes₂ : List PropertyChange}
      (alike : List.Forall₂ PropertyChange.Alike changes₁ changes₂) :
      Alike (.alterDatabase name changes₁) (.alterDatabase name changes₂)

/-- What two runs of a call have in common: what is told, and the table that is loaded. -/
structure Agree (call₁ call₂ : Call) (o₁ : Outcome σ₁ call₁.Value) (o₂ : Outcome σ₂ call₂.Value) :
    Prop where
  events : o₁.events = o₂.events
  tables : (call₁.table o₁.result).map Table.withheld = (call₂.table o₂.result).map Table.withheld

/-- What was answered to the requests of a call. -/
def replies {σ : Type} (service : Service σ) (now : Instant) (state : σ) (c : Catalog)
    (call : Call) : List Reply :=
  (c.operation call).requests.map fun r => .of r (service.answer now state r).1

/-- The configurations of the catalogs that a call has connected. -/
def configs (call : Call) (result : CatalogResult call.Value) : List (Option CatalogConfig) :=
  (call.connected result).map (·.map Catalog.config)

variable {call call₁ call₂ : Call}

theorem Alike.span?_eq (alike : call₁.Alike call₂) : call₁.span? = call₂.span? := by
  cases alike <;> rfl

theorem Alike.length_replies (alike : call₁.Alike call₂) (same : c₁.config = c₂.config) :
    (call₁.replies service₁ now state₁ c₁).length =
      (call₂.replies service₂ now state₂ c₂).length := by
  simp only [replies, List.length_map, requests_operation]
  cases alike with
  | same => cases call₁ <;> simp only [request?, same]
  | _ => rfl

theorem Alike.length_configs (alike : call₁.Alike call₂) (r₁ : CatalogResult call₁.Value)
    (r₂ : CatalogResult call₂.Value) : (call₁.configs r₁).length = (call₂.configs r₂).length := by
  cases alike with
  | same => cases call₁ <;> rfl
  | _ => rfl

/-- Only data tokens are withheld from a reply. -/
theorem of_inj {r : Request} (notToken : ∀ i, r ≠ .loadTableToken i) {a b : Answer r}
    (same : Reply.of r a = .of r b) : a = b := by
  cases r with
  | loadTableToken i => exact absurd rfl (notToken i)
  | _ =>
    cases same
    rfl

theorem sized_eq (same : c₁.config = c₂.config) (query : PageQuery) :
    c₁.sized query = c₂.sized query := by
  rw [sized, sized, pageSize, pageSize, same]

/-- The same call, answered in the same way. -/
theorem agree_same (same : c₁.config = c₂.config)
    (replies : call.replies service₁ now state₁ c₁ = call.replies service₂ now state₂ c₂) :
    Agree call call ((c₁.operation call).perform service₁ now state₁)
      ((c₂.operation call).perform service₂ now state₂) := by
  have requests : (c₂.operation call).requests = (c₁.operation call).requests := by
    rw [requests_operation, requests_operation]
    cases call <;> simp only [request?, same]
  have answered : ∀ r ∈ (c₁.operation call).requests,
      (service₁.answer now state₁ r).1 = (service₂.answer now state₂ r).1 := by
    intro r asked
    rw [Call.replies, Call.replies, requests] at replies
    refine of_inj ?_ (List.map_inj_left.mp replies r asked)
    rintro i rfl
    rw [requests_operation, Option.mem_toList] at asked
    exact request?_ne_loadTableToken c₁ call i asked
  -- a catalog enters into an operation with its configuration, unless it loads a table
  have congr (same : c₁.operation call = c₂.operation call) :
      Agree call call ((c₁.operation call).perform service₁ now state₁)
        ((c₂.operation call).perform service₂ now state₂) := by
    obtain ⟨result, events⟩ := perform_congr answered
    rw [← same]
    exact ⟨events, by rw [result]⟩
  cases call with
  | loadTable i =>
    obtain ⟨events, tables⟩ := agree_loadTable same i (answered _ (.head _))
    exact ⟨events, tables⟩
  | getTable identifier =>
    cases read : Identifier.parse identifier with
    | error refused =>
      have refuses (c : Catalog) : c.operation (.getTable identifier) =
          .settled (.error (.ofCause (.malformedIdentifier refused))) [] := by
        simp only [operation, Catalog.getTable, read]
      exact congr ((refuses c₁).trans (refuses c₂).symm)
    | ok i =>
      have loads (c : Catalog) : c.operation (.getTable identifier) = c.loadTable i := by
        simp only [operation, Catalog.getTable, read]
      rw [loads c₁] at answered
      obtain ⟨events, tables⟩ := agree_loadTable same i (answered _ (.head _))
      rw [loads c₁, loads c₂]
      exact ⟨events, tables⟩
  | listDatabasesPaged query =>
    refine congr ?_
    rw [operation, operation, Catalog.listDatabasesPaged, Catalog.listDatabasesPaged, sized_eq same]
  | listTablesPaged database query =>
    refine congr ?_
    rw [operation, operation, Catalog.listTablesPaged, Catalog.listTablesPaged, sized_eq same]
  | _ => exact congr rfl

/-- To connect tells what the answer and the configuration say. -/
theorem events_connect {σ : Type} {service : Service σ} {state : σ} (clientOptions : Options)
    (env : Environment) :
    let o := (Catalog.connect clientOptions env).perform service now state
    o.events =
      (match (service.answer now state .config).1 with
        | .error f => (Operation.passOn f).2
        | .ok _ => (o.result.toOption.map Catalog.config).toList.map connectedEvent).map
      (Event.within { name := "catalog_connect" }) := by
  intro o
  simp only [o, Catalog.connect, events_perform_within, result_perform_within, Operation.request,
    events_perform_ask rfl, result_perform_ask rfl]
  cases (service.answer now state .config).1 with
  | error f => rfl
  | ok server =>
    simp only
    cases CatalogConfig.extract (server.merge clientOptions) env <;> rfl

theorem alteringEvent_eq {changes₁ changes₂ : List PropertyChange}
    (alike : List.Forall₂ PropertyChange.Alike changes₁ changes₂) :
    alteringEvent (PropertyChanges.reduce changes₁) =
      alteringEvent (PropertyChanges.reduce changes₂) := by
  obtain ⟨set, remove⟩ := PropertyChanges.names_reduce alike
  rw [alteringEvent, alteringEvent, ← NameMap.size_names, set, NameMap.size_names, remove]

/-- **Calls that differ in secrets only agree** if they are answered in the same way and, if they
connect, come to the same configuration. -/
theorem Alike.agree (alike : call₁.Alike call₂) (same : c₁.config = c₂.config)
    (replies : call₁.replies service₁ now state₁ c₁ = call₂.replies service₂ now state₂ c₂)
    (configs : call₁.configs ((c₁.operation call₁).perform service₁ now state₁).result =
      call₂.configs ((c₂.operation call₂).perform service₂ now state₂).result) :
    Agree call₁ call₂ ((c₁.operation call₁).perform service₁ now state₁)
      ((c₂.operation call₂).perform service₂ now state₂) := by
  cases alike with
  | same => exact agree_same same replies
  | connect options₁ options₂ env₁ env₂ =>
    have answered : (service₁.answer now state₁ .config).1 =
        (service₂.answer now state₂ .config).1 :=
      Reply.config.inj (List.head_eq_of_cons_eq replies)
    have yields : ((Catalog.connect options₁ env₁).perform service₁ now state₁).result.toOption.map
          Catalog.config =
        ((Catalog.connect options₂ env₂).perform service₂ now state₂).result.toOption.map
          Catalog.config :=
      List.head_eq_of_cons_eq configs
    refine ⟨?_, rfl⟩
    simp only [operation, events_connect, answered, yields]
  | createDatabase name ignoreIfExists properties₁ properties₂ =>
    have answered : (service₁.answer now state₁ (.createDatabase name properties₁)).1 =
        (service₂.answer now state₂ (.createDatabase name properties₂)).1 :=
      Reply.done.inj (List.head_eq_of_cons_eq replies)
    refine ⟨?_, rfl⟩
    simp only [operation, Catalog.createDatabase, events_perform_within,
      events_perform_ask answered, events_perform_ask rfl]
    cases (service₂.answer now state₂ (.createDatabase name properties₂)).1 <;> rfl
  | @alterDatabase name changes₁ changes₂ changes =>
    have answered : (service₁.answer now state₁ (.alterDatabase name
          (PropertyChanges.reduce changes₁).remove.keys (PropertyChanges.reduce changes₁).set)).1 =
        (service₂.answer now state₂ (.alterDatabase name
          (PropertyChanges.reduce changes₂).remove.keys (PropertyChanges.reduce changes₂).set)).1 :=
      Reply.done.inj (List.head_eq_of_cons_eq replies)
    refine ⟨?_, rfl⟩
    simp only [operation, Catalog.alterDatabase, events_perform_within,
      events_perform_ask answered, events_perform_ask rfl, alteringEvent_eq changes]
    cases (service₂.answer now state₂ (.alterDatabase name
      (PropertyChanges.reduce changes₂).remove.keys
      (PropertyChanges.reduce changes₂).set)).1 <;> rfl

end Call

end TableCatalog.Catalog
