import TableCatalog.Proofs.Catalog.Alike

/-!
# Secrets are not told

What data tokens say is secret, and so is what calls can differ in and still be alike. Two sessions
in which the same is done up to such secrets, and the same is answered up to them, have the same
journal and the same diagnostic texts.
-/

namespace TableCatalog.Catalog

variable {σ₁ σ₂ : Type} {service₁ : Service σ₁} {service₂ : Service σ₂} {now : Instant}
variable {c₁ c₂ : Catalog}

/-! ## Moves -/

theorem fetch?_withheld (s : Credential.State) (m : Credential.Move) :
    m.withheld.fetch? s.withheld = m.fetch? s := by
  cases m with
  | lookAgain caller now =>
    have standing : s.withheld.standing caller = (s.standing caller).withheld := rfl
    simp only [Credential.Move.withheld, Credential.Move.fetch?, standing]
    cases s.standing caller <;> rfl
  | _ => rfl

namespace Handle

theorem delivered_withheld (h : Handle) (m : Credential.Move) :
    h.withheld.delivered m.withheld = (h.delivered m).withheld := by
  cases m <;> rfl

/-- Without its secrets a handle makes the same moves, tells the same, and asks for the same. -/
theorem move?_withheld (h : Handle) (m : Credential.Move) :
    h.withheld.move? m.withheld = (h.move? m).map fun next => (next.1.withheld, next.2) := by
  have fileAccess : h.withheld.table.fileAccess = h.table.fileAccess.withheld := rfl
  have accessor : h.withheld.accessor = h.accessor.withheld := rfl
  simp only [move?, fileAccess, accessor, delivered_withheld]
  cases h.table.fileAccess with
  | static => rfl
  | token access =>
    simp only [FileAccess.withheld, Credential.step?_withheld]
    cases Credential.step? access h.accessor (h.delivered m) with
    | none => rfl
    | some next =>
      simp only [Option.map_some, fetch?_withheld]
      rfl

/-- Tables are loaded with accessors that have no secrets yet. -/
theorem withheld_fresh (tables : List Table) :
    (tables.map fun table => ({ table } : Handle)).map withheld =
      (tables.map Table.withheld).map fun table => { table } := by
  rw [List.map_map, List.map_map]
  rfl

theorem withheld_answered (h : Handle) (caller : Credential.Caller)
    (answer : Except Failure TokenGrant) :
    (h.answered caller answer).withheld =
      h.withheld.answered caller (answer.map TokenGrant.withheld) := by
  simp only [answered, withheld, Handle.mk.injEq, true_and]
  funext d
  split <;> rfl

end Handle

/-! ## Journals -/

/-- Acts that differ in secrets only. -/
inductive Act.Alike : Act → Act → Prop
  | make {c₁ c₂ : Catalog} (same : c₁.config = c₂.config) : Alike (.make c₁) (.make c₂)
  | connect (options₁ options₂ : Options) (env₁ env₂ : Environment) (now : Instant) :
      Alike (.connect options₁ env₁ now) (.connect options₂ env₂ now)
  | call (n : Nat) {call₁ call₂ : Call} (alike : call₁.Alike call₂) (now : Instant) :
      Alike (.call n call₁ now) (.call n call₂ now)
  | move (n : Nat) (m : Credential.Move) : Alike (.move n m) (.move n m)

namespace Journal

variable {j₁ : Journal σ₁} {j₂ : Journal σ₂}

/-- Journals of sessions that differ in secrets only. -/
structure Alike (j₁ : Journal σ₁) (j₂ : Journal σ₂) : Prop where
  entries : j₁.entries = j₂.entries
  replies : j₁.replies = j₂.replies
  configs : j₁.configs = j₂.configs
  handles : j₁.handles.map Handle.withheld = j₂.handles.map Handle.withheld

/-- Journals of sessions that have come as far: as much was answered and as often connected, and if
it came to the same, the journals are alike. -/
structure Abreast (j₁ : Journal σ₁) (j₂ : Journal σ₂) : Prop where
  replies : j₁.replies.length = j₂.replies.length
  configs : j₁.configs.length = j₂.configs.length
  alike : j₁.replies = j₂.replies → j₁.configs = j₂.configs → j₁.Alike j₂

theorem Alike.abreast (alike : j₁.Alike j₂) : j₁.Abreast j₂ :=
  ⟨congrArg List.length alike.replies, congrArg List.length alike.configs, fun _ _ => alike⟩

theorem configs_perform {σ : Type} (service : Service σ) (j : Journal σ) (call : Call)
    (o : Operation call.Value) :
    (j.perform service call o now).configs =
      j.configs ++ call.configs (o.perform service now j.service).result :=
  List.map_append

theorem replies_perform {σ : Type} (service : Service σ) (j : Journal σ) (c : Catalog)
    (call : Call) :
    (j.perform service call (c.operation call) now).replies =
      j.replies ++ call.replies service now j.service c := rfl

theorem Alike.perform (alike : j₁.Alike j₂) {call₁ call₂ : Call} (calls : call₁.Alike call₂)
    (same : c₁.config = c₂.config) (now : Instant) :
    (j₁.perform service₁ call₁ (c₁.operation call₁) now).Abreast
      (j₂.perform service₂ call₂ (c₂.operation call₂) now) := by
  refine ⟨?_, ?_, ?_⟩
  · rw [replies_perform, replies_perform, List.length_append, List.length_append,
      alike.abreast.replies, calls.length_replies same]
  · rw [configs_perform, configs_perform, List.length_append, List.length_append,
      alike.abreast.configs, calls.length_configs]
  · intro replies configs
    have own : call₁.replies service₁ now j₁.service c₁ =
        call₂.replies service₂ now j₂.service c₂ := by
      rw [replies_perform, replies_perform, alike.replies] at replies
      exact List.append_cancel_left replies
    have yields : call₁.configs ((c₁.operation call₁).perform service₁ now j₁.service).result =
        call₂.configs ((c₂.operation call₂).perform service₂ now j₂.service).result := by
      rw [configs_perform, configs_perform, alike.configs] at configs
      exact List.append_cancel_left configs
    obtain ⟨events, tables⟩ := calls.agree same own yields
    refine ⟨?_, replies, configs, ?_⟩
    · simp only [Journal.perform, alike.entries, calls.span?_eq, events]
    · simp only [Journal.perform, List.map_append, alike.handles, Handle.withheld_fresh,
        tables]

/-- A move that is made in both sessions, if it can be made. -/
theorem Alike.move? (alike : j₁.Alike j₂) (n : Nat) (m : Credential.Move) :
    (j₁.handles[n]?.bind (·.move? m)).map (fun next => (next.1.withheld, next.2)) =
      (j₂.handles[n]?.bind (·.move? m)).map (fun next => (next.1.withheld, next.2)) := by
  have same : j₁.handles[n]?.map Handle.withheld = j₂.handles[n]?.map Handle.withheld := by
    rw [← List.getElem?_map, ← List.getElem?_map, alike.handles]
  have withheld (o : Option Handle) :
      (o.bind (·.move? m)).map (fun next => (next.1.withheld, next.2)) =
        (o.map Handle.withheld).bind (·.move? m.withheld) := by
    cases o with
    | none => rfl
    | some h => exact (h.move?_withheld m).symm
  rw [withheld, withheld, same]

theorem map_set_withheld {handles₁ handles₂ : List Handle} {h₁ h₂ : Handle}
    (all : handles₁.map Handle.withheld = handles₂.map Handle.withheld)
    (one : h₁.withheld = h₂.withheld) (n : Nat) :
    (handles₁.set n h₁).map Handle.withheld = (handles₂.set n h₂).map Handle.withheld := by
  rw [List.map_set, List.map_set, all, one]

theorem Alike.move (alike : j₁.Alike j₂) (n : Nat) (m : Credential.Move) :
    (j₁.move service₁ n m).Abreast (j₂.move service₂ n m) := by
  have both := alike.move? n m
  simp only [Journal.move]
  cases made₁ : j₁.handles[n]?.bind (·.move? m) with
  | none =>
    cases made₂ : j₂.handles[n]?.bind (·.move? m) with
    | none => exact alike.abreast
    | some next =>
      rw [made₁, made₂] at both
      cases both
  | some next₁ =>
    cases made₂ : j₂.handles[n]?.bind (·.move? m) with
    | none =>
      rw [made₁, made₂] at both
      cases both
    | some next₂ =>
      obtain ⟨h₁, events, asking⟩ := next₁
      obtain ⟨h₂, events₂, asking₂⟩ := next₂
      rw [made₁, made₂] at both
      simp only [Option.map_some, Option.some.injEq, Prod.mk.injEq] at both
      obtain ⟨one, rfl, rfl⟩ := both
      have entries : j₁.entries ++ events.map .told = j₂.entries ++ events.map .told := by
        rw [alike.entries]
      cases asking with
      | none =>
        exact ⟨alike.abreast.replies, alike.abreast.configs, fun _ _ =>
          ⟨entries, alike.replies, alike.configs, map_set_withheld alike.handles one n⟩⟩
      | some asking =>
        obtain ⟨caller, now, asked⟩ := asking
        refine ⟨?_, alike.abreast.configs, fun replies _ => ⟨entries, replies, alike.configs, ?_⟩⟩
        · simp only [List.length_append, alike.abreast.replies, List.length_singleton]
        · refine map_set_withheld alike.handles ?_ n
          simp only [alike.replies] at replies
          have answer := Reply.grant.inj (List.head_eq_of_cons_eq (List.append_cancel_left replies))
          rw [Handle.withheld_answered, Handle.withheld_answered, one, answer]

theorem Alike.make (alike : j₁.Alike j₂) (same : c₁.config = c₂.config) :
    (j₁.step service₁ (.make c₁)).Abreast (j₂.step service₂ (.make c₂)) := by
  have configs {σ : Type} (service : Service σ) (j : Journal σ) (c : Catalog) :
      (j.step service (.make c)).configs = j.configs ++ [some c.config] := List.map_append
  have next : Alike (j₁.step service₁ (.make c₁)) (j₂.step service₂ (.make c₂)) :=
    ⟨alike.entries, alike.replies, by rw [configs, configs, same, alike.configs], alike.handles⟩
  exact next.abreast

theorem Alike.call (alike : j₁.Alike j₂) (n : Nat) {call₁ call₂ : Call}
    (calls : call₁.Alike call₂) (now : Instant) :
    (j₁.step service₁ (.call n call₁ now)).Abreast (j₂.step service₂ (.call n call₂ now)) := by
  have configs : j₁.catalogs[n]?.map (·.map Catalog.config) =
      j₂.catalogs[n]?.map (·.map Catalog.config) := by
    rw [← List.getElem?_map, ← List.getElem?_map]
    exact congrArg (·[n]?) alike.configs
  simp only [Journal.step]
  match is₁ : j₁.catalogs[n]?, is₂ : j₂.catalogs[n]? with
  | some (some c₁), some (some c₂) =>
    rw [is₁, is₂] at configs
    exact alike.perform calls (Option.some.inj (Option.some.inj configs)) now
  | none, none | some none, some none => exact alike.abreast
  | none, some _ | some _, none | some none, some (some _) | some (some _), some none =>
    rw [is₁, is₂] at configs
    cases configs

/-- **Acts that differ in secrets only leave journals that do**, if the same is answered and the
same configurations come out. In any case as much is answered. -/
theorem Alike.step (alike : j₁.Alike j₂) (service₁ : Service σ₁) (service₂ : Service σ₂)
    {a₁ a₂ : Act} (acts : a₁.Alike a₂) : (j₁.step service₁ a₁).Abreast (j₂.step service₂ a₂) := by
  cases acts with
  | make same => exact alike.make same
  | connect options₁ options₂ env₁ env₂ now =>
    -- no catalog enters into the operation that connects
    have nothing :
        (⟨{}, NameMap.empty⟩ : Catalog).config = (⟨{}, NameMap.empty⟩ : Catalog).config := rfl
    exact alike.perform (.connect options₁ options₂ env₁ env₂) nothing now
  | call n calls now => exact alike.call n calls now
  | move n m => exact alike.move n m

section

variable {σ : Type} (service : Service σ) (j : Journal σ)

theorem prefix_step (a : Act) :
    j.replies <+: (j.step service a).replies ∧ j.configs <+: (j.step service a).configs := by
  have perform (call : Call) (o : Operation call.Value) (now : Instant) :
      j.replies <+: (j.perform service call o now).replies ∧
        j.configs <+: (j.perform service call o now).configs :=
    ⟨List.prefix_append _ _, configs_perform service j call o ▸ List.prefix_append _ _⟩
  have still : j.replies <+: j.replies ∧ j.configs <+: j.configs :=
    ⟨List.prefix_rfl, List.prefix_rfl⟩
  cases a with
  | make c => exact ⟨List.prefix_rfl, (List.prefix_append _ _).map _⟩
  | connect clientOptions env now => exact perform _ _ now
  | call n call now =>
    simp only [Journal.step]
    split
    · exact perform _ _ now
    · exact still
  | move n m =>
    simp only [Journal.step, Journal.move]
    split
    · exact still
    · exact still
    · exact ⟨List.prefix_append _ _, List.prefix_rfl⟩

theorem prefix_after (acts : List Act) :
    j.replies <+: (j.after service acts).replies ∧
      j.configs <+: (j.after service acts).configs := by
  induction acts generalizing j with
  | nil => exact ⟨List.prefix_rfl, List.prefix_rfl⟩
  | cons a acts ih =>
    obtain ⟨replies, configs⟩ := prefix_step service j a
    obtain ⟨moreReplies, moreConfigs⟩ := ih (j.step service a)
    exact ⟨replies.trans moreReplies, configs.trans moreConfigs⟩

end

/-- What two lists have agreed in until now, if they agree as far as both of them go. -/
theorem eq_of_prefix {α : Type} {l₁ l₂ all₁ all₂ : List α} (first : l₁ <+: all₁)
    (second : l₂ <+: all₂) (length : l₁.length = l₂.length)
    (agree : ∀ both ∈ all₁.zip all₂, both.1 = both.2) : l₁ = l₂ := by
  obtain ⟨rest₁, rfl⟩ := first
  obtain ⟨rest₂, rfl⟩ := second
  have pairs : (l₁.zip l₂).map Prod.fst = (l₁.zip l₂).map Prod.snd := by
    refine List.map_congr_left fun both mem => agree both ?_
    rw [List.zip_append length]
    exact List.mem_append_left _ mem
  rwa [List.map_fst_zip (Nat.le_of_eq length), List.map_snd_zip (Nat.le_of_eq length.symm)] at pairs

/-- **Sessions that differ in secrets only have journals that do**, at any time, if requests are
answered in the same way as long as both sessions make them, and the same configurations come out.
-/
theorem Alike.after (alike : j₁.Alike j₂) (service₁ : Service σ₁) (service₂ : Service σ₂)
    {acts₁ acts₂ : List Act} (acts : List.Forall₂ Act.Alike acts₁ acts₂)
    (replies : ∀ both ∈ (j₁.after service₁ acts₁).replies.zip (j₂.after service₂ acts₂).replies,
      both.1 = both.2)
    (configs : ∀ both ∈ (j₁.after service₁ acts₁).configs.zip (j₂.after service₂ acts₂).configs,
      both.1 = both.2) (k : Nat) :
    (j₁.after service₁ (acts₁.take k)).Alike (j₂.after service₂ (acts₂.take k)) := by
  induction acts generalizing j₁ j₂ k with
  | nil =>
    rw [List.take_nil]
    exact alike
  | @cons a₁ a₂ acts₁ acts₂ first _ ih =>
    cases k with
    | zero => exact alike
    | succ k =>
      have abreast := alike.step service₁ service₂ first
      obtain ⟨replies₁, configs₁⟩ := prefix_after service₁ (j₁.step service₁ a₁) acts₁
      obtain ⟨replies₂, configs₂⟩ := prefix_after service₂ (j₂.step service₂ a₂) acts₂
      -- what was answered until now is the first part of what is answered in the end
      have sameReplies := eq_of_prefix replies₁ replies₂ abreast.replies replies
      have sameConfigs := eq_of_prefix configs₁ configs₂ abreast.configs configs
      exact ih (abreast.alike sameReplies sameConfigs) replies configs k

/-! ### Diagnostic texts -/

section

variable {σ : Type} (j : Journal σ)

theorem resolverTexts_eq : j.resolverTexts = j.configs.map (·.map fun config =>
    (⟨config, NameMap.empty⟩ : Catalog).resolver.diagnostic.text) := by
  simp only [resolverTexts, Journal.configs, List.map_map, Function.comp_def, Option.map_map]
  rfl

theorem fileAccessTexts_eq : j.fileAccessTexts =
    (j.handles.map Handle.withheld).map fun h => h.table.fileAccess.diagnostic.text := by
  simp only [fileAccessTexts, List.map_map]
  refine List.map_congr_left fun h _ => ?_
  obtain ⟨⟨identifier, metadata, location, fileAccess⟩, accessor, answers⟩ := h
  cases fileAccess <;> rfl

theorem accessorTexts_eq : j.accessorTexts =
    (j.handles.map Handle.withheld).map fun h =>
      h.table.fileAccess.tokenAccess?.map fun access => access.diagnostic.text := by
  simp only [accessorTexts, List.map_map]
  refine List.map_congr_left fun h _ => ?_
  obtain ⟨⟨identifier, metadata, location, fileAccess⟩, accessor, answers⟩ := h
  cases fileAccess <;> rfl

end

theorem Alike.texts (alike : j₁.Alike j₂) :
    j₁.resolverTexts = j₂.resolverTexts ∧ j₁.fileAccessTexts = j₂.fileAccessTexts ∧
      j₁.accessorTexts = j₂.accessorTexts := by
  rw [resolverTexts_eq, resolverTexts_eq, fileAccessTexts_eq, fileAccessTexts_eq, accessorTexts_eq,
    accessorTexts_eq, alike.configs, alike.handles]
  exact ⟨rfl, rfl, rfl⟩

end Journal

/-- **Secrets are never told.** Let the same be done in two sessions up to the options of clients
and catalogs, the properties that databases are made with and the values that are set. If each
request is answered in the same way up to what data tokens say, and the same configurations come
out, then after each act the same spans and log events were told, in the same order, and the
diagnostic texts of what chooses file access, of file access and of the accessors are the same. -/
theorem secrets_are_never_told (service₁ : Service σ₁) (service₂ : Service σ₂) (start₁ : σ₁)
    (start₂ : σ₂) {acts₁ acts₂ : List Act} (acts : List.Forall₂ Act.Alike acts₁ acts₂)
    (replies : ∀ both ∈ (Journal.after service₁ { service := start₁ } acts₁).replies.zip
      (Journal.after service₂ { service := start₂ } acts₂).replies, both.1 = both.2)
    (configs : ∀ both ∈ (Journal.after service₁ { service := start₁ } acts₁).configs.zip
      (Journal.after service₂ { service := start₂ } acts₂).configs, both.1 = both.2) (k : Nat) :
    let j₁ := Journal.after service₁ { service := start₁ } (acts₁.take k)
    let j₂ := Journal.after service₂ { service := start₂ } (acts₂.take k)
    j₁.entries = j₂.entries ∧ j₁.resolverTexts = j₂.resolverTexts ∧
      j₁.fileAccessTexts = j₂.fileAccessTexts ∧ j₁.accessorTexts = j₂.accessorTexts := by
  intro j₁ j₂
  have blank : Journal.Alike ({ service := start₁ } : Journal σ₁)
      ({ service := start₂ } : Journal σ₂) := ⟨rfl, rfl, rfl, rfl⟩
  have alike : j₁.Alike j₂ := blank.after service₁ service₂ acts replies configs k
  exact ⟨alike.entries, alike.texts⟩

namespace Sample

/-- A session with a secret in the options of the client, in the properties of a database that is
made and altered, and in the token that a reader of a table gets. -/
def telling (secret : String) : List Act :=
  [.connect (.ofList [("data-token-enabled", "true"), ("fs.secret", secret)]) []
      Instant.epoch,
    .call 0 (.createDatabase "shop" false (.ofList [("owner", secret)])) Instant.epoch,
    .call 0 (.alterDatabase "shop" [.set "owner" secret, .remove "team"]) Instant.epoch,
    .call 0 (.getTable "shop.invoices") Instant.epoch, .move 0 (.begin 7 Instant.epoch),
    .move 0 (.enter 7), .move 0 (.lookAgain 7 Instant.epoch),
    .move 0 (.receive 7 (.error (Script.unscripted "load_table_token")) Instant.epoch
      Instant.epoch),
    .move 0 (.store 7)]

def granting (secret : String) : Script :=
  { describing (description [] {}) with
    config := [.ok {}]
    createDatabase := [.ok ()]
    alterDatabase := [.ok ()]
    loadTableToken := [.ok ⟨.ofList [("fs.key", secret)], 3600000⟩] }

/-- The session with the secret, and with the service that grants it. -/
def told (secret : String) : Journal Script :=
  Journal.after scriptedService { service := granting secret } (telling secret)

theorem telling_alike (secret₁ secret₂ : String) :
    List.Forall₂ Act.Alike (telling secret₁) (telling secret₂) :=
  have owner : List.Forall₂ PropertyChange.Alike [.set "owner" secret₁, .remove "team"]
      [.set "owner" secret₂, .remove "team"] :=
    .cons (.set ..) (.cons (.remove _) .nil)
  .cons (.connect ..) <| .cons (.call 0 (.createDatabase ..) _) <|
    .cons (.call 0 (.alterDatabase _ owner) _) <| .cons (.call 0 (.same _) _) <|
    .cons (.move ..) <| .cons (.move ..) <| .cons (.move ..) <| .cons (.move ..) <|
    .cons (.move ..) .nil

end Sample

theorem two_secrets_are_not_told :
    (Sample.told "first").handles.map (·.accessor.held.map DataToken.options) =
      [some (.ofList [("fs.key", "first")])] ∧
    (Sample.told "second").handles.map (·.accessor.held.map DataToken.options) =
      [some (.ofList [("fs.key", "second")])] ∧
    (Sample.told "first").entries.length = 9 ∧
    (Sample.told "first").entries = (Sample.told "second").entries ∧
    (Sample.told "first").resolverTexts = (Sample.told "second").resolverTexts ∧
    (Sample.told "first").fileAccessTexts = (Sample.told "second").fileAccessTexts ∧
    (Sample.told "first").accessorTexts = (Sample.told "second").accessorTexts :=
  ⟨by decide +kernel, by decide +kernel, by decide +kernel,
    secrets_are_never_told scriptedService scriptedService (Sample.granting "first")
      (Sample.granting "second") (Sample.telling_alike "first" "second") (by decide +kernel)
      (by decide +kernel) 9⟩

end TableCatalog.Catalog
