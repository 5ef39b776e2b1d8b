import TableCatalog.Proofs.Catalog.Operation
import TableCatalog.Proofs.Credential.Turn
import TableCatalog.Proofs.Table

/-!
# What a catalog asks for in the course of a session

In a session, calls of a catalog and of the accessors of loaded tables follow one another in any
order, and a service answers as it likes. Every request then belongs to one of them. A call of the
catalog makes the one request that can be told from its arguments, whatever is answered. Only the
accessor of a table asks for data tokens, and only for this table; and tables have accessors exactly
if the configuration says so.
-/

namespace TableCatalog

namespace Credential

/-- The request for a token that is made by a move which led to a state: by whom, when, and for
which table. -/
def Move.fetch? (s' : State) : Move → Option (Caller × Instant × Identifier)
  | .lookAgain caller now =>
    match s'.standing caller with
    | .fetching asked => some (caller, now, asked)
    | _ => none
  | _ => none

/-- A token is asked for the table of the accessor. -/
theorem Step.asked_eq {a : TokenAccess} {s s' : State} {m : Move} {caller : Caller} {now : Instant}
    {asked : Identifier} (step : Step a s m s') (asks : m.fetch? s' = some (caller, now, asked)) :
    asked = a.identifier := by
  cases step with
  | ask =>
    simp only [Move.fetch?, State.withStanding_self] at asks
    cases asks
    rfl
  | takeInTurn => simp [Move.fetch?] at asks
  | takeAtOnce | refuse | enter | fail | accept | store | drop | inquire | report => cases asks

end Credential

namespace Catalog

variable {σ : Type} {service : Service σ} {c : Catalog}

/-! ## Sessions -/

/-- A table that was loaded, with the accessor that its readers share if it has one. -/
structure Handle where
  table : Table
  accessor : Credential.State := .atRest none
  /-- What the service has answered to the last request of each caller. -/
  answers : Credential.Caller → Except Failure TokenGrant := fun _ => .error .blank

structure Session (σ : Type) where
  service : σ
  /-- The requests that were made, the first one first. -/
  requests : List Request := []
  /-- The tables that were loaded, the first one first. -/
  handles : List Handle := []

/-- What is done in a session. -/
inductive Use where
  | call (call : Call) (now : Instant)
  /-- A move of a caller of the accessor of a loaded table. -/
  | move (handle : Nat) (m : Credential.Move)

/-- The tables of a result, of which there is one at most. -/
def loadedTables : CatalogResult Table → List Table
  | .ok t => [t]
  | .error _ => []

/-- The table that a call has loaded. -/
def Call.table : (call : Call) → CatalogResult call.Value → List Table
  | .getTable _, result | .loadTable _, result => loadedTables result
  | _, _ => []

theorem eq_ok_of_mem {result : CatalogResult Table} {t : Table} (mem : t ∈ loadedTables result) :
    result = .ok t := by
  cases result with
  | error e => cases mem
  | ok t' => rw [List.mem_singleton.mp mem]

/-- The move with the answer that the service has given. -/
def Handle.delivered (h : Handle) : Credential.Move → Credential.Move
  | .receive caller _ now later => .receive caller (h.answers caller) now later
  | m => m

namespace Session

def tables (s : Session σ) : List Table := s.handles.map Handle.table

/-- The session after a move of an accessor. A move that cannot be made changes nothing. -/
def move (service : Service σ) (s : Session σ) (n : Nat) (m : Credential.Move) : Session σ :=
  match s.handles[n]? with
  | none => s
  | some h =>
    match h.table.fileAccess with
    | .static => s
    | .token access =>
      match Credential.step? access h.accessor (h.delivered m) with
      | none => s
      | some (accessor, _) =>
        match (h.delivered m).fetch? accessor with
        | none => { s with handles := s.handles.set n { h with accessor } }
        | some (caller, now, asked) =>
          let (answer, state) := service.answer now s.service (.loadTableToken asked)
          let answers := fun d => if d = caller then answer else h.answers d
          { service := state
            requests := s.requests ++ [.loadTableToken asked]
            handles := s.handles.set n { h with accessor, answers } }

def step (c : Catalog) (service : Service σ) (s : Session σ) : Use → Session σ
  | .call call now =>
    let outcome := (c.operation call).perform service now s.service
    { service := outcome.service
      requests := s.requests ++ outcome.requests
      handles := s.handles ++ (call.table outcome.result).map ({ table := · }) }
  | .move n m => s.move service n m

/-- The session after several uses. -/
def after (c : Catalog) (service : Service σ) (s : Session σ) (uses : List Use) : Session σ :=
  uses.foldl (step c service) s

end Session

/-! ## What a use contributes -/

/-- The requests that a use makes when these tables are loaded. -/
def Use.Contributes (c : Catalog) (tables : List Table) : Use → List Request → Prop
  | .call made _, requests => requests = (made.request? c).toList
  | .move n _, requests =>
    requests = [] ∨ ∃ t access, tables[n]? = some t ∧ t.fileAccess = .token access ∧
      requests = [.loadTableToken t.identifier]

/-- Requests are what uses contribute, one after the other. -/
def IsTrace (c : Catalog) (tables : List Table) (uses : List Use) (requests : List Request) :
    Prop :=
  ∃ parts : List (Use × List Request), parts.map Prod.fst = uses ∧
    (∀ part ∈ parts, part.1.Contributes c tables part.2) ∧ requests = parts.flatMap Prod.snd

variable {tables more : List Table} {u : Use} {uses : List Use} {requests own : List Request}

/-- Tables that are loaded later change nothing. -/
theorem Use.Contributes.append (contributes : u.Contributes c tables own) (more : List Table) :
    u.Contributes c (tables ++ more) own := by
  cases u with
  | call call now => exact contributes
  | move n m =>
    rcases contributes with rfl | ⟨t, access, loaded, token, rfl⟩
    · exact .inl rfl
    · obtain ⟨before, -⟩ := List.getElem?_eq_some_iff.mp loaded
      exact .inr ⟨t, access, (List.getElem?_append_left before).trans loaded, token, rfl⟩

namespace IsTrace

theorem nil (c : Catalog) (tables : List Table) : IsTrace c tables [] [] :=
  ⟨[], rfl, by simp, rfl⟩

theorem cons (contributes : u.Contributes c tables own) (trace : IsTrace c tables uses requests) :
    IsTrace c tables (u :: uses) (own ++ requests) := by
  obtain ⟨parts, rfl, each, rfl⟩ := trace
  exact ⟨(u, own) :: parts, rfl, List.forall_mem_cons.mpr ⟨contributes, each⟩, rfl⟩

/-- Every request is that of a call, or for a token of a table with an accessor. -/
theorem mem_cases {r : Request} (trace : IsTrace c tables uses requests) (mem : r ∈ requests) :
    (∃ call now, .call call now ∈ uses ∧ call.request? c = some r) ∨
      ∃ n m t access, .move n m ∈ uses ∧ t ∈ tables ∧ t.fileAccess = .token access ∧
        r = .loadTableToken t.identifier := by
  obtain ⟨parts, rfl, each, rfl⟩ := trace
  obtain ⟨⟨u, own⟩, among, mem⟩ := List.mem_flatMap.mp mem
  have used : u ∈ parts.map Prod.fst := List.mem_map_of_mem among
  have contributes := each (u, own) among
  cases u with
  | call call now =>
    refine .inl ⟨call, now, used, ?_⟩
    rwa [contributes, Option.mem_toList] at mem
  | move n m =>
    rcases contributes with none | ⟨t, access, loaded, token, one⟩
    · rw [none] at mem
      cases mem
    · rw [one] at mem
      exact .inr ⟨n, m, t, access, used, List.mem_of_getElem? loaded, token,
        List.mem_singleton.mp mem⟩

end IsTrace

/-! ## The steps of a session -/

/-- Data tokens are bound to the table that they are for, and used only if they are enabled. -/
theorem eq_of_resolve_eq_token {r : FileAccessResolver} {i : Identifier} {path : Location}
    {access : TokenAccess} (token : r.resolve i path = .token access) :
    r.dataTokenEnabled = true ∧ access = ⟨i, path, r.options, r.refreshMargin⟩ := by
  unfold FileAccessResolver.resolve at token
  split at token
  · next enabled =>
    cases token
    exact ⟨enabled, rfl⟩
  · cases token

/-- A table that a call has loaded is one that it has asked for, and the configuration says how its
files are read. -/
theorem Call.of_mem_table {call : Call} {now : Instant} {state : σ} {t : Table}
    (loads : t ∈ call.table ((c.operation call).perform service now state).result) :
    t.fileAccess = c.resolver.resolve t.identifier t.location ∧
      call.request? c = some (.getTable t.identifier) := by
  have ofLoad {i : Identifier}
      (loaded : ((c.loadTable i).perform service now state).result = .ok t) :
      t.fileAccess = c.resolver.resolve t.identifier t.location ∧
        some (Request.getTable i) = some (.getTable t.identifier) := by
    obtain ⟨d, path, -, -, rfl⟩ := result_perform_loadTable_eq_ok_iff.mp loaded
    exact ⟨rfl, rfl⟩
  cases call with
  | loadTable i => exact ofLoad (eq_ok_of_mem loads)
  | getTable text =>
    have loaded : ((c.getTable text).perform service now state).result = .ok t :=
      eq_ok_of_mem loads
    rw [Catalog.getTable] at loaded
    cases parsed : Identifier.parse text with
    | error refused =>
      rw [parsed] at loaded
      cases loaded
    | ok i =>
      rw [parsed] at loaded
      rw [request?, parsed]
      exact ofLoad loaded
  | connect | listDatabases | listDatabasesPaged | createDatabase | getDatabase | dropDatabase
  | alterDatabase | listTables | listTablesPaged | createTable => cases loads

namespace Session

variable {s : Session σ}

/-- Tables were asked for, and their files are read as the configuration says. -/
structure Sound (c : Catalog) (s : Session σ) : Prop where
  resolved : ∀ t ∈ s.tables, t.fileAccess = c.resolver.resolve t.identifier t.location
  asked : ∀ t ∈ s.tables, .getTable t.identifier ∈ s.requests

theorem map_table_set {handles : List Handle} {n : Nat} {h h' : Handle}
    (found : handles[n]? = some h) (same : h'.table = h.table) :
    (handles.set n h').map Handle.table = handles.map Handle.table := by
  have there : (handles.map Handle.table)[n]? = some h.table := by
    rw [List.getElem?_map, found, Option.map_some]
  obtain ⟨inside, is⟩ := List.getElem?_eq_some_iff.mp there
  rw [List.map_set, same, ← is]
  exact List.set_getElem_self inside

/-- A move of an accessor loads nothing, and asks for a token of its table or for nothing. -/
theorem Sound.move (sound : s.Sound c) (service : Service σ) (n : Nat) (m : Credential.Move) :
    (s.move service n m).tables = s.tables ∧
      ∃ own, (Use.move n m).Contributes c s.tables own ∧
        (s.move service n m).requests = s.requests ++ own := by
  have still : s.tables = s.tables ∧ ∃ own, (Use.move n m).Contributes c s.tables own ∧
      s.requests = s.requests ++ own := ⟨rfl, [], .inl rfl, (List.append_nil _).symm⟩
  unfold Session.move
  split
  · exact still
  · next h found =>
    split
    · exact still
    · next access token =>
      split
      · exact still
      · next accessor events made =>
        split
        · refine ⟨map_table_set found rfl, [], .inl rfl, (List.append_nil _).symm⟩
        · next caller now asked asks =>
          have step := Credential.step?_iff.mp (congrArg (Option.map Prod.fst) made)
          have loaded : h.table ∈ s.tables := List.mem_map_of_mem (List.mem_of_getElem? found)
          have there : s.tables[n]? = some h.table := by
            rw [tables, List.getElem?_map, found, Option.map_some]
          have bound : access.identifier = h.table.identifier := by
            rw [(eq_of_resolve_eq_token ((sound.resolved h.table loaded).symm.trans token)).2]
          rw [step.asked_eq asks, bound]
          exact ⟨map_table_set found rfl, _, .inr ⟨h.table, access, there, token, rfl⟩, rfl⟩

theorem tables_step_call (s : Session σ) (call : Call) (now : Instant) :
    (s.step c service (.call call now)).tables =
      s.tables ++ call.table ((c.operation call).perform service now s.service).result := by
  simp [step, tables, Function.comp_def]

/-- **One use keeps a session sound, and asks for what it contributes.** Tables stay loaded. -/
theorem Sound.step (sound : s.Sound c) (service : Service σ) (u : Use) :
    (s.step c service u).Sound c ∧ (∃ new, (s.step c service u).tables = s.tables ++ new) ∧
      ∃ own, u.Contributes c (s.step c service u).tables own ∧
        (s.step c service u).requests = s.requests ++ own := by
  cases u with
  | call call now =>
    have own : (s.step c service (.call call now)).requests =
        s.requests ++ (call.request? c).toList := by
      rw [← requests_operation, ← Operation.requests_perform _ service now s.service]
      rfl
    refine ⟨⟨?_, ?_⟩, ⟨_, tables_step_call s call now⟩, _, rfl, own⟩
    · intro t loaded
      rw [tables_step_call] at loaded
      rcases List.mem_append.mp loaded with before | new
      · exact sound.resolved t before
      · exact (Call.of_mem_table new).1
    · intro t loaded
      rw [tables_step_call] at loaded
      rw [own]
      rcases List.mem_append.mp loaded with before | new
      · exact List.mem_append_left _ (sound.asked t before)
      · rw [(Call.of_mem_table new).2]
        exact List.mem_append_right _ List.mem_cons_self
  | move n m =>
    obtain ⟨same, own, contributes, requests⟩ := sound.move service n m
    refine ⟨⟨?_, ?_⟩, ⟨[], ?_⟩, own, ?_, requests⟩
    · intro t loaded
      exact sound.resolved t (same ▸ loaded)
    · intro t loaded
      have asked := sound.asked t (same ▸ loaded)
      exact requests ▸ List.mem_append_left own asked
    · exact same.trans (List.append_nil _).symm
    · exact same.symm ▸ contributes

/-- **A session stays sound, and its requests are what the uses contribute.** -/
theorem Sound.after (sound : s.Sound c) (service : Service σ) (uses : List Use) :
    (s.after c service uses).Sound c ∧ (∃ new, (s.after c service uses).tables = s.tables ++ new) ∧
      ∃ own, IsTrace c (s.after c service uses).tables uses own ∧
        (s.after c service uses).requests = s.requests ++ own := by
  induction uses generalizing s with
  | nil => exact ⟨sound, ⟨[], (List.append_nil _).symm⟩, [], .nil c _, (List.append_nil _).symm⟩
  | cons u uses ih =>
    obtain ⟨sound₁, ⟨new₁, tables₁⟩, own, contributes, requests₁⟩ := sound.step service u
    obtain ⟨sound₂, ⟨new₂, tables₂⟩, rest, trace, requests₂⟩ := ih sound₁
    -- what the first use contributes, it still contributes when more tables are loaded
    refine ⟨sound₂, ⟨new₁ ++ new₂, ?_⟩, own ++ rest, ?_, ?_⟩
    · exact tables₂.trans (by rw [tables₁, List.append_assoc])
    · exact .cons (tables₂ ▸ contributes.append new₂) trace
    · exact requests₂.trans (by rw [requests₁, List.append_assoc])

theorem isTrace_after (c : Catalog) (service : Service σ) (start : σ) (uses : List Use) :
    let s := after c service { service := start } uses
    s.Sound c ∧ IsTrace c s.tables uses s.requests := by
  have noTables : ({ service := start } : Session σ).tables = [] := rfl
  have blank : Session.Sound c { service := start } := by
    constructor <;> simp [noTables]
  obtain ⟨sound, -, own, trace, all⟩ := blank.after service uses
  refine ⟨sound, ?_⟩
  rw [all]
  exact trace

end Session

theorem request?_ne_loadTableToken (c : Catalog) (call : Call) (i : Identifier) :
    call.request? c ≠ some (.loadTableToken i) := by
  intro same
  cases call with
  | getTable text =>
    obtain ⟨i', -, same⟩ := Option.map_eq_some_iff.mp same
    cases same
  | _ => cases same

/-- Names are removed in increasing order. -/
theorem pairwise_of_request?_eq_alterDatabase {call : Call} {name : String} {remove : List String}
    {set : Options} (same : call.request? c = some (.alterDatabase name remove set)) :
    remove.Pairwise (· < ·) := by
  cases call with
  | alterDatabase name' changes =>
    cases same
    exact (PropertyChanges.reduce changes).remove.pairwise_keys
  | getTable text =>
    obtain ⟨i', -, same⟩ := Option.map_eq_some_iff.mp same
    cases same
  | _ => cases same

/-- **The requests of a session are those that its uses contribute.** Whatever the service answers,
a call makes the one request that is told from its arguments, or none, and a move of an accessor
asks for a token of its table or for nothing. A table that was loaded has an accessor exactly if the
configuration enables data tokens, and it was asked for. So a session asks for no token if they are
not enabled, nor if it loads tables only. -/
theorem requests_are_contributions_of_uses (c : Catalog) (service : Service σ) (start : σ)
    (uses : List Use) :
    let s := Session.after c service { service := start } uses
    IsTrace c s.tables uses s.requests ∧
    (∀ t ∈ s.tables, .getTable t.identifier ∈ s.requests ∧
      ((∃ access, t.fileAccess = .token access) ↔ c.config.dataTokenEnabled = true) ∧
      ∀ access, t.fileAccess = .token access → access.identifier = t.identifier) ∧
    (c.config.dataTokenEnabled = false ∨ (∀ u ∈ uses, ∃ call now, u = .call call now) →
      ∀ i, .loadTableToken i ∉ s.requests) ∧
    ∀ name remove set, .alterDatabase name remove set ∈ s.requests → remove.Pairwise (· < ·) := by
  intro s
  obtain ⟨sound, trace⟩ := Session.isTrace_after c service start uses
  refine ⟨trace, ?_, ?_, ?_⟩
  · intro t loaded
    have resolved := sound.resolved t loaded
    refine ⟨sound.asked t loaded, ⟨?_, ?_⟩, ?_⟩
    · rintro ⟨access, token⟩
      exact (eq_of_resolve_eq_token (resolved.symm.trans token)).1
    · intro enabled
      exact ⟨_, resolved.trans (if_pos enabled)⟩
    · intro access token
      rw [(eq_of_resolve_eq_token (resolved.symm.trans token)).2]
  · intro barred i asked
    rcases trace.mem_cases asked with
      ⟨call, now, -, same⟩ | ⟨n, m, t, access, used, loaded, token, -⟩
    · exact request?_ne_loadTableToken c call i same
    · have resolved := sound.resolved t loaded
      have enabled := (eq_of_resolve_eq_token (resolved.symm.trans token)).1
      rcases barred with disabled | calls
      · exact Bool.false_ne_true (disabled.symm.trans enabled)
      · obtain ⟨call, now, same⟩ := calls _ used
        cases same
  · intro name remove set asked
    rcases trace.mem_cases asked with ⟨call, now, -, same⟩ | ⟨n, m, t, access, -, -, -, same⟩
    · exact pairwise_of_request?_eq_alterDatabase same
    · cases same

namespace Sample

/-- A table is loaded and read. In between there are two calls that ask for nothing. -/
def oneReader : List Use :=
  [.call (.getTable "shop.invoices") Instant.epoch, .call (.getTable "invoices") Instant.epoch,
    .call (.createTable "shop.drafts" {} false) Instant.epoch, .move 0 (.begin 7 Instant.epoch),
    .call (.listTables "shop") Instant.epoch, .move 0 (.enter 7),
    .move 0 (.lookAgain 7 Instant.epoch)]

end Sample

theorem requests_of_oneReader :
    let s := Session.after Sample.catalog scriptedService
      { service := Sample.describing (Sample.description [] {}) } Sample.oneReader
    s.requests = [.getTable (Sample.invoices none (by decide)), .listTables "shop",
      .loadTableToken (Sample.invoices none (by decide))] ∧
    ∃ t access, s.tables = [t] ∧ t.fileAccess = .token access ∧
      access.identifier = t.identifier := by
  intro s
  obtain ⟨-, each, -, -⟩ := requests_are_contributions_of_uses Sample.catalog scriptedService
    (Sample.describing (Sample.description [] {})) Sample.oneReader
  have loaded : s.tables = [Sample.catalog.tableOf (Sample.invoices none (by decide))
      Sample.location (Sample.description [] {})] := by decide +kernel
  obtain ⟨-, reads, bound⟩ := each _ (loaded ▸ List.mem_singleton_self _)
  obtain ⟨access, token⟩ := reads.mpr rfl
  exact ⟨by decide +kernel, _, access, loaded, token, bound access token⟩

end Catalog

end TableCatalog
