import TableCatalog.Catalog
import TableCatalog.Proofs.Catalog.Operation
import TableCatalog.Proofs.Config.Reading
import TableCatalog.Service

/-!
# The layers of options that a catalog connects with

The options of a client lie over the defaults of the metadata service and under its overrides. As
far as keys are written the same, an upper layer therefore wins. A field of the configuration can
be spelled differently in each layer, though, and then the last spelling in the order of the keys
wins. The uppermost layer that spells a field has its way exactly if no layer spells it by a later
key.
-/

namespace TableCatalog

open CatalogConfig

variable {server : ServerConfig} {client : Options} {f : Field} {k v : String}

namespace ServerConfig

/-- The layers, the lowest one first. -/
def layers (server : ServerConfig) (client : Options) : List Options :=
  [server.defaults, client, server.overrides]

/-- The option for a field in the uppermost layer that has one, with its key. -/
def uppermostSpelling? (server : ServerConfig) (client : Options) (f : Field) :
    Option (String × String) :=
  (spelling? server.overrides f).or ((spelling? client f).or (spelling? server.defaults f))

/-- The option for a field with the last key of all layers, in the uppermost layer that has it. -/
def lastSpelling? (server : ServerConfig) (client : Options) (f : Field) :
    Option (String × String) :=
  laterSpelling (laterSpelling (spelling? server.defaults f) (spelling? client f))
    (spelling? server.overrides f)

theorem get?_merge (server : ServerConfig) (client : Options) (k : String) :
    (server.merge client).get? k =
      (server.overrides.get? k).or ((client.get? k).or (server.defaults.get? k)) := by
  rw [merge, NameMap.get?_overlay, NameMap.get?_overlay]

theorem spelling?_merge (server : ServerConfig) (client : Options) (f : Field) :
    spelling? (server.merge client) f = server.lastSpelling? client f := by
  rw [merge, spelling?_overlay, spelling?_overlay]
  rfl

theorem exists_layer_of_get?_merge (found : (server.merge client).get? k = some v) :
    ∃ layer ∈ server.layers client, layer.get? k = some v := by
  rw [get?_merge, Option.or_eq_some_iff, Option.or_eq_some_iff] at found
  rcases found with found | ⟨-, found | ⟨-, found⟩⟩
  · exact ⟨server.overrides, by simp [layers], found⟩
  · exact ⟨client, by simp [layers], found⟩
  · exact ⟨server.defaults, by simp [layers], found⟩

theorem exists_get?_merge_of_layer {layer : Options} (mem : layer ∈ server.layers client)
    (found : layer.get? k = some v) : ∃ v', (server.merge client).get? k = some v' := by
  rw [get?_merge, ← Option.isSome_iff_exists]
  simp only [layers, List.mem_cons, List.not_mem_nil, or_false] at mem
  rcases mem with rfl | rfl | rfl <;> simp [found]

theorem get?_merge_of_uppermostSpelling? (h : server.uppermostSpelling? client f = some (k, v)) :
    (server.merge client).get? k = some v ∧ foldKey k = f.name := by
  rw [uppermostSpelling?, Option.or_eq_some_iff, Option.or_eq_some_iff] at h
  rw [get?_merge]
  rcases h with h | ⟨none₁, h | ⟨none₂, h⟩⟩
  · obtain ⟨⟨found, spells⟩, -⟩ := spelling?_eq_some_iff.mp h
    exact ⟨by rw [found, Option.some_or], spells⟩
  · obtain ⟨⟨found, spells⟩, -⟩ := spelling?_eq_some_iff.mp h
    exact ⟨by rw [get?_eq_none_of_unspelled none₁ spells, found]; rfl, spells⟩
  · obtain ⟨⟨found, spells⟩, -⟩ := spelling?_eq_some_iff.mp h
    refine ⟨?_, spells⟩
    rw [get?_eq_none_of_unspelled none₁ spells, get?_eq_none_of_unspelled none₂ spells, found]
    rfl

/-- **When the uppermost layer has its way.** It does exactly if no layer spells the field by a
later key than the uppermost one that spells it. -/
theorem lastSpelling?_eq_uppermostSpelling?_iff :
    server.lastSpelling? client f = server.uppermostSpelling? client f ↔
      ∀ k v, server.uppermostSpelling? client f = some (k, v) →
        ∀ layer ∈ server.layers client, ∀ k' v', layer.get? k' = some v' →
          foldKey k' = f.name → ¬ k < k' := by
  rw [← spelling?_merge]
  constructor
  · intro same k v uppermost layer mem k' v' found spells
    rw [uppermost] at same
    obtain ⟨v'', found'⟩ := exists_get?_merge_of_layer mem found
    exact (spelling?_eq_some_iff.mp same).2 k' v'' found' spells
  · intro ordered
    cases uppermost : server.uppermostSpelling? client f with
    | some e =>
      obtain ⟨k, v⟩ := e
      refine spelling?_eq_some_iff.mpr ⟨get?_merge_of_uppermostSpelling? uppermost, ?_⟩
      intro k' v' found spells
      obtain ⟨layer, mem, found'⟩ := exists_layer_of_get?_merge found
      exact ordered k v uppermost layer mem k' v' found' spells
    | none =>
      rw [uppermostSpelling?, Option.or_eq_none_iff, Option.or_eq_none_iff] at uppermost
      obtain ⟨none₁, none₂, none₃⟩ := uppermost
      rw [spelling?_merge, lastSpelling?, none₁, none₂, none₃]
      rfl

end ServerConfig

namespace Catalog

variable {σ : Type} {service : Service σ} {now : Instant} {state : σ}
variable {env : Environment} {catalog : Catalog}

/-- A catalog is connected exactly if the service tells its configuration and one can be read from
the merged options. -/
theorem result_perform_connect_eq_ok_iff :
    ((connect client env).perform service now state).result = .ok catalog ↔
      ∃ server, (service.answer now state .config).1 = .ok server ∧
        catalog.options = server.merge client ∧
        extract (server.merge client) env = .ok catalog.config := by
  rw [connect, Operation.result_perform_within, Operation.result_perform_request_eq_ok_iff]
  refine exists_congr fun server => and_congr_right fun _ => ?_
  obtain ⟨config, options⟩ := catalog
  dsimp only
  cases extract (server.merge client) env with
  | error bad => simp
  | ok read => simp [eq_comm, and_comm]

/-- **A connected catalog takes each field from its last spelling.** Without variables of the
environment, connecting succeeds exactly with the configuration whose fields are read from the last
spelling of each in all three layers, or are built in; and that is the spelling of the uppermost
layer exactly if no layer has a later one. -/
theorem connected_config_takes_last_spellings
    (answered : (service.answer now state .config).1 = .ok server)
    (silent : Environment.Silent env) :
    (∀ catalog, ((connect client env).perform service now state).result = .ok catalog ↔
      catalog.options = server.merge client ∧
        ∀ f : Field, f.IsTaken ((server.lastSpelling? client f).map (·.2)) catalog.config) ∧
    ∀ f, server.lastSpelling? client f = server.uppermostSpelling? client f ↔
      ∀ k v, server.uppermostSpelling? client f = some (k, v) →
        ∀ layer ∈ server.layers client, ∀ k' v', layer.get? k' = some v' →
          foldKey k' = f.name → ¬ k < k' := by
  refine ⟨fun catalog => ?_, fun f => ServerConfig.lastSpelling?_eq_uppermostSpelling?_iff⟩
  have taken : extract (server.merge client) env = .ok catalog.config ↔
      ∀ f : Field, f.IsTaken ((server.lastSpelling? client f).map (·.2)) catalog.config := by
    rw [extract_eq_ok_iff silent]
    simp only [optionFor?_eq_spelling?, ServerConfig.spelling?_merge]
  rw [result_perform_connect_eq_ok_iff, ← taken]
  constructor
  · rintro ⟨server', answered', merged, read⟩
    obtain rfl : server = server' := Except.ok.inj (answered.symm.trans answered')
    exact ⟨merged, read⟩
  · rintro ⟨merged, read⟩
    exact ⟨server, answered, merged, read⟩

namespace Sample

/-- A service that tells its configuration whenever it is asked. -/
def configuring (server : ServerConfig) : Script := { config := [.ok server] }

/-- Defaults and overrides that are spelled in one way. -/
def plainServer : ServerConfig where
  defaults := .ofList [("page-size-default", "100")]
  overrides := .ofList [("warehouse", "prod")]

/-- A client that spells all fields as that service does. -/
def plainClient : Options := .ofList [("page-size-default", "25"), ("warehouse", "dev")]

/-- A default with underscores, and an override in capitals. -/
def otherServer : ServerConfig where
  defaults := .ofList [("page_size_default", "100")]
  overrides := .ofList [("WAREHOUSE", "prod")]

theorem answer_configuring (server : ServerConfig) :
    (scriptedService.answer Instant.epoch (configuring server) .config).1 = .ok server :=
  rfl

theorem silent_nil : Environment.Silent [] := List.forall_mem_nil _

/-- A configuration of which only two fields have texts. -/
theorem isTaken_of_two_texts (texts : Field → Option String) (size name : String) (n : UInt32)
    (sized : texts .pageSizeDefault = some size) (named : texts .warehouse = some name)
    (reads : ((Setting.text size).toNatural 32).map (some ∘ UInt32.ofNat) = .ok (some n))
    (others : texts .dataTokenEnabled = none ∧ texts .tokenRefreshMarginMs = none ∧
      texts .uri = none) (f : Field) :
    f.IsTaken (texts f) { warehouse := some name, pageSizeDefault := some n } := by
  cases f with
  | dataTokenEnabled =>
    rw [others.1]
    exact rfl
  | pageSizeDefault =>
    rw [sized]
    exact reads
  | tokenRefreshMarginMs =>
    rw [others.2.1]
    exact rfl
  | uri =>
    rw [others.2.2]
    exact rfl
  | warehouse =>
    rw [named]
    exact rfl

end Sample

theorem last_spellings_of_plainServer :
    ∃ catalog, ((connect Sample.plainClient []).perform scriptedService Instant.epoch
        (Sample.configuring Sample.plainServer)).result = .ok catalog ∧
      catalog.config = { warehouse := some "prod", pageSizeDefault := some 25 } := by
  have answered := Sample.answer_configuring Sample.plainServer
  obtain ⟨takes, -⟩ := connected_config_takes_last_spellings answered Sample.silent_nil
  refine ⟨⟨_, _⟩, (takes _).mpr ⟨rfl, ?_⟩, rfl⟩
  exact Sample.isTaken_of_two_texts
    (fun f => (Sample.plainServer.lastSpelling? Sample.plainClient f).map (·.2)) "25" "prod" 25
    (by decide +kernel) (by decide +kernel) rfl (by decide +kernel)

/-- Each layer spells each field once, and an override and an option of the client are the uppermost
ones for their fields. Yet the client has its way against the override, and a default has its way
against the client. -/
theorem layers_are_defeated_by_spelling :
    (∀ layer ∈ Sample.otherServer.layers Sample.plainClient, SpellsOnce layer) ∧
      Sample.otherServer.uppermostSpelling? Sample.plainClient .warehouse =
        some ("WAREHOUSE", "prod") ∧
      Sample.otherServer.uppermostSpelling? Sample.plainClient .pageSizeDefault =
        some ("page-size-default", "25") ∧
      ∃ catalog, ((connect Sample.plainClient []).perform scriptedService Instant.epoch
          (Sample.configuring Sample.otherServer)).result = .ok catalog ∧
        catalog.config.warehouse = some "dev" ∧ catalog.config.pageSizeDefault = some 100 := by
  refine ⟨?_, by decide +kernel, by decide +kernel, ?_⟩
  · intro layer mem f
    simp only [ServerConfig.layers, List.mem_cons, List.not_mem_nil, or_false] at mem
    rcases mem with rfl | rfl | rfl <;> cases f <;> decide +kernel
  · have read : extract (Sample.otherServer.merge Sample.plainClient) [] =
        .ok { warehouse := some "dev", pageSizeDefault := some 100 } := by
      refine (extract_eq_ok_iff Sample.silent_nil).mpr ?_
      exact Sample.isTaken_of_two_texts
        (optionFor? (Sample.otherServer.merge Sample.plainClient)) "100" "dev" 100
        (by decide +kernel) (by decide +kernel) rfl (by decide +kernel)
    have answered := Sample.answer_configuring Sample.otherServer
    exact ⟨⟨_, _⟩, result_perform_connect_eq_ok_iff.mpr ⟨_, answered, rfl, read⟩, rfl, rfl⟩

end Catalog

end TableCatalog
