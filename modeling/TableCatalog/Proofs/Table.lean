import TableCatalog.Catalog
import TableCatalog.Proofs.Catalog.Operation
import TableCatalog.Proofs.Options.Audit
import TableCatalog.Service

/-!
# What a loaded table is

A table is loaded if the metadata service describes it and the path that it reports is a location.
Five sources then fill its options: the branch of the identifier, the well-known audit fields, the
free-form audit pairs, the reported path and the declared options. A name has the value of the first
of them that says something of it, in this order. Loading a description whose declared options are
the resolved ones resolves the same options again.
-/

namespace TableCatalog.Catalog

variable {σ : Type} {service : Service σ} {now : Instant} {state : σ}
variable {c : Catalog} {i : Identifier} {d : TableDescription} {path : Location} {t : Table}

/-- A table is loaded exactly if it is described at a location. -/
theorem result_perform_loadTable_eq_ok_iff :
    ((c.loadTable i).perform service now state).result = .ok t ↔
      ∃ d path, (service.answer now state (.getTable i)).1 = .ok d ∧
        Location.parse d.path = .ok path ∧ t = c.tableOf i path d := by
  rw [loadTable, Operation.result_perform_within, Operation.result_perform_request_eq_ok_iff]
  refine exists_congr fun d => ?_
  cases Location.parse d.path <;> simp [eq_comm]

theorem result_perform_loadTable_of_answered (c : Catalog)
    (answered : (service.answer now state (.getTable i)).1 = .ok d)
    (valid : Location.parse d.path = .ok path) :
    ((c.loadTable i).perform service now state).result = .ok (c.tableOf i path d) :=
  result_perform_loadTable_eq_ok_iff.mpr ⟨d, path, answered, valid, rfl⟩

/-- A table that is loaded is that of its description. -/
theorem eq_tableOf_of_loaded (answered : (service.answer now state (.getTable i)).1 = .ok d)
    (loaded : ((c.loadTable i).perform service now state).result = .ok t) :
    ∃ path : Location, path.text = d.path ∧ t = c.tableOf i path d := by
  obtain ⟨d', path, same, valid, rfl⟩ := result_perform_loadTable_eq_ok_iff.mp loaded
  obtain rfl : d = d' := Except.ok.inj (answered.symm.trans same)
  exact ⟨path, Location.text_of_parse_eq_ok valid, rfl⟩

/-! ## The five sources of its options -/

theorem get?_tableOptions (i : Identifier) (path : Location) (d : TableDescription) (k : String) :
    (tableOptions i path d).get? k =
      (if k = Options.branchKey then i.branch else none).or
        ((d.audit.field? k).or ((d.audit.extra.get? k).or
          ((if k = Options.pathKey then some path.text else none).or
            (d.schema.options.get? k)))) := by
  have below : (d.audit.writeTo (d.schema.options.insert Options.pathKey path.text)).get? k =
      (d.audit.field? k).or ((d.audit.extra.get? k).or
        ((if k = Options.pathKey then some path.text else none).or
          (d.schema.options.get? k))) := by
    rw [Audit.get?_writeTo, NameMap.get?_insert]
    split <;> rfl
  unfold tableOptions
  cases i.branch with
  | none => simp [below]
  | some branch =>
    rw [NameMap.get?_insert, below]
    split <;> rfl

/-- What the sources above the declared options say does not depend on these, so that they may say
it twice. -/
theorem tableOptions_withOptions (i : Identifier) (path : Location) (d : TableDescription) :
    tableOptions i path { d with schema := d.schema.withOptions (tableOptions i path d) } =
      tableOptions i path d := by
  apply NameMap.ext_get?
  intro k
  rw [get?_tableOptions]
  show Option.or _ (Option.or _ (Option.or _ (Option.or _ ((tableOptions i path d).get? k)))) = _
  rw [get?_tableOptions]
  cases (if k = Options.branchKey then i.branch else none) <;> cases d.audit.field? k <;>
    cases d.audit.extra.get? k <;> cases (if k = Options.pathKey then some path.text else none) <;>
    rfl

/-- **The options of a loaded table are an exact overlay.** If the service describes a table at a
location, it is loaded. Each name has the value of the first source that says something of it, and
no other names are there. All else is as the description says, and the resolved options resolve to
themselves. -/
theorem loaded_options_are_exact_overlay
    (answered : (service.answer now state (.getTable i)).1 = .ok d)
    (valid : Location.parse d.path = .ok path) :
    ∃ t, ((c.loadTable i).perform service now state).result = .ok t ∧
      (∀ k, t.metadata.options.get? k =
        (if k = "branch" then i.branch else none).or
          ((d.audit.field? k).or ((d.audit.extra.get? k).or
            ((if k = "path" then some d.path else none).or (d.schema.options.get? k))))) ∧
      (t.metadata.schema.fields = d.schema.fields ∧
        t.metadata.schema.partitionKeys = d.schema.partitionKeys ∧
        t.metadata.schema.primaryKeys = d.schema.primaryKeys ∧
        t.metadata.schema.comment = d.schema.comment ∧
        t.metadata.uuid = d.id ∧ t.metadata.isExternal = d.isExternal) ∧
      ∀ {τ : Type} (service' : Service τ) (now' : Instant) (state' : τ) (c' : Catalog),
        (service'.answer now' state' (.getTable i)).1 =
          .ok { d with schema := d.schema.withOptions t.metadata.options } →
        ∃ t', ((c'.loadTable i).perform service' now' state').result = .ok t' ∧
          t'.metadata.options = t.metadata.options := by
  refine ⟨c.tableOf i path d, result_perform_loadTable_of_answered c answered valid, ?_,
    ⟨rfl, rfl, rfl, rfl, rfl, rfl⟩, ?_⟩
  · intro k
    rw [← Location.text_of_parse_eq_ok valid]
    exact get?_tableOptions i path d k
  · intro τ service' now' state' c' answered'
    exact ⟨_, result_perform_loadTable_of_answered c' answered' valid,
      tableOptions_withOptions i path d⟩

/-! ## A table to try things on -/

namespace Sample

/-- A catalog that reads files with data tokens. -/
def catalog : Catalog where
  config := { dataTokenEnabled := true }
  options := .ofList [("endpoint", "memory://local")]

/-- A table, addressed through a branch or not. -/
def invoices (branch : Option String) (sound : ∀ b ∈ branch, IsSegment b) : Identifier :=
  ⟨"shop", "invoices", branch, by decide, by decide, sound⟩

def location : Location := ⟨"/warehouse/shop/invoices", by decide⟩

/-- The description of the table, with declared options and audit fields. -/
def description (declared : List (String × String)) (audit : Audit) : TableDescription where
  id := "7c3e"
  name := "invoices"
  path := location.text
  schema := { options := .ofList declared }
  audit := audit

/-- A service that describes the table whenever it is asked. -/
def describing (d : TableDescription) : Script := { getTable := [.ok d] }

theorem answer_describing (i : Identifier) (d : TableDescription) :
    (scriptedService.answer Instant.epoch (describing d) (.getTable i)).1 = .ok d :=
  rfl

theorem loads_description (i : Identifier) (declared : List (String × String)) (audit : Audit) :
    ((catalog.loadTable i).perform scriptedService Instant.epoch
        (describing (description declared audit))).result =
      .ok (catalog.tableOf i location (description declared audit)) :=
  result_perform_loadTable_of_answered catalog (answer_describing i _)
    (Location.parse_text location)

/-- A description in which an audit field, a free-form pair and a declared option contend for
`owner`, and in which both reserved names are declared. -/
def contested : TableDescription :=
  description [("bucket", "4"), ("owner", "declared"), ("path", "/elsewhere"), ("branch", "dev")]
    { owner := some "alice", createdAt := some 1700000000000,
      extra := .ofList [("owner", "mallory"), ("createdAt", "never"), ("job", "nightly")] }

end Sample

theorem exact_overlay_of_contested :
    ∃ t, ((Sample.catalog.loadTable (Sample.invoices (some "daily") (by decide))).perform
        scriptedService Instant.epoch (Sample.describing Sample.contested)).result = .ok t ∧
      t.metadata.options.get? "branch" = some "daily" ∧
      t.metadata.options.get? "owner" = some "alice" ∧
      t.metadata.options.get? "createdAt" = some "1700000000000" ∧
      t.metadata.options.get? "job" = some "nightly" ∧
      t.metadata.options.get? "path" = some "/warehouse/shop/invoices" ∧
      t.metadata.options.get? "bucket" = some "4" ∧
      t.metadata.options.get? "updatedBy" = none := by
  have answered := Sample.answer_describing (Sample.invoices (some "daily") (by decide))
    Sample.contested
  have valid : Location.parse Sample.contested.path = .ok Sample.location :=
    Location.parse_text Sample.location
  obtain ⟨t, loaded, options, -, -⟩ :=
    loaded_options_are_exact_overlay (c := Sample.catalog) answered valid
  refine ⟨t, loaded, ?_, ?_, ?_, ?_, ?_, ?_, ?_⟩ <;> rw [options] <;> decide

/-! ## What a table tells of its branch and its path

A table knows its branch from its identifier and its location from the path that was reported, and
data tokens are bound to that location. Readers and writers are told a branch and a path once more,
as options, and the two need not agree. A declared option or a free-form audit pair of the name
`branch` is told of a table that was not addressed through a branch, and a free-form audit pair of
the name `path` is told in the stead of the reported path. These are the only ways to disagree.
-/

/-! ### The branch -/

theorem branch_tableOf (c : Catalog) (i : Identifier) (path : Location) (d : TableDescription) :
    (c.tableOf i path d).metadata.branch =
      i.branch.or ((d.audit.extra.get? Options.branchKey).or
        (d.schema.options.get? Options.branchKey)) := by
  show (tableOptions i path d).get? Options.branchKey = _
  rw [get?_tableOptions, if_pos rfl, Audit.field?_branchKey,
    if_neg (by decide : Options.branchKey ≠ Options.pathKey), Option.none_or, Option.none_or]

/-- **Which branch is told.** A table keeps the branch of its identifier. The branch that readers
and writers are told is that one, or else what a free-form audit pair or a declared option calls a
branch; so both agree unless there is such a pair or option and the identifier has no branch. -/
theorem told_branch_is_addressed_branch_iff
    (answered : (service.answer now state (.getTable i)).1 = .ok d)
    (loaded : ((c.loadTable i).perform service now state).result = .ok t) :
    t.branch = i.branch ∧
      t.metadata.branch =
        i.branch.or ((d.audit.extra.get? "branch").or (d.schema.options.get? "branch")) ∧
      (t.metadata.branch = t.branch ↔
        i.branch ≠ none ∨
          d.audit.extra.get? "branch" = none ∧ d.schema.options.get? "branch" = none) := by
  obtain ⟨path, -, rfl⟩ := eq_tableOf_of_loaded answered loaded
  have told := branch_tableOf c i path d
  refine ⟨rfl, told, ?_⟩
  rw [told]
  show i.branch.or _ = i.branch ↔ _
  cases i.branch with
  | none => simp [Options.branchKey]
  | some branch => simp

namespace Sample

/-- A description that declares an option of the name `branch`. -/
def branchDeclared : TableDescription := description [("branch", "dev")] {}

end Sample

theorem told_branch_of_branchDeclared :
    ∃ t, ((Sample.catalog.loadTable (Sample.invoices (some "daily") (by decide))).perform
        scriptedService Instant.epoch (Sample.describing Sample.branchDeclared)).result = .ok t ∧
      t.metadata.branch = t.branch := by
  have answered := Sample.answer_describing (Sample.invoices (some "daily") (by decide))
    Sample.branchDeclared
  have loaded := Sample.loads_description (Sample.invoices (some "daily") (by decide))
    [("branch", "dev")] {}
  obtain ⟨-, -, agree⟩ := told_branch_is_addressed_branch_iff answered loaded
  exact ⟨_, loaded, agree.mpr (.inl (by decide))⟩

/-- The table itself is addressed, and readers and writers are told a branch of it. -/
theorem declared_branch_is_told_without_branch :
    ∃ t, ((Sample.catalog.loadTable (Sample.invoices none (by decide))).perform
        scriptedService Instant.epoch (Sample.describing Sample.branchDeclared)).result = .ok t ∧
      t.branch = none ∧ t.metadata.branch = some "dev" ∧
      t.metadata.options.contains "branch" = true := by
  have loaded := Sample.loads_description (Sample.invoices none (by decide)) [("branch", "dev")] {}
  exact ⟨_, loaded, rfl, by decide, by decide⟩

/-! ### The path -/

theorem path_tableOf (c : Catalog) (i : Identifier) (path : Location) (d : TableDescription) :
    (c.tableOf i path d).metadata.path =
      some ((d.audit.extra.get? Options.pathKey).getD path.text) := by
  show (tableOptions i path d).get? Options.pathKey = _
  rw [get?_tableOptions, if_neg (by decide : Options.pathKey ≠ Options.branchKey),
    Audit.field?_pathKey, if_pos rfl]
  cases d.audit.extra.get? Options.pathKey <;> rfl

/-- Data tokens are bound to the location of the table, and used exactly if they are enabled. -/
theorem tokenAccess?_tableOf (c : Catalog) (i : Identifier) (path : Location)
    (d : TableDescription) :
    (c.tableOf i path d).fileAccess.tokenAccess? =
      if c.config.dataTokenEnabled then
        some ⟨i, path, c.options, c.config.tokenRefreshMargin⟩ else none :=
  apply_ite FileAccess.tokenAccess? (c.config.dataTokenEnabled = true) (.token _) .static

/-- **Which path is told.** The location of a table is the reported path, and data tokens, where
they are enabled, are bound to it. The path that readers and writers are told is that one too,
unless a free-form audit pair says another one; declared options play no part in it. -/
theorem told_path_is_location_iff
    (answered : (service.answer now state (.getTable i)).1 = .ok d)
    (loaded : ((c.loadTable i).perform service now state).result = .ok t) :
    t.location.text = d.path ∧
      (c.config.dataTokenEnabled = true →
        ∃ access, t.fileAccess.tokenAccess? = some access ∧ access.identifier = i ∧
          access.path = t.location) ∧
      t.metadata.path = some ((d.audit.extra.get? "path").getD d.path) ∧
      (t.metadata.path = some t.location.text ↔
        ∀ p, d.audit.extra.get? "path" = some p → p = d.path) := by
  obtain ⟨path, same, rfl⟩ := eq_tableOf_of_loaded answered loaded
  have told := path_tableOf c i path d
  refine ⟨same, ?_, same ▸ told, ?_⟩
  · intro enabled
    exact ⟨_, (tokenAccess?_tableOf c i path d).trans (if_pos enabled), rfl, rfl⟩
  · rw [told, ← same]
    show some (Option.getD (d.audit.extra.get? "path") path.text) = some path.text ↔ _
    cases d.audit.extra.get? "path" <;> simp

namespace Sample

/-- A description that declares an option of the name `path`, and reports another path. -/
def pathDeclared : TableDescription := description [("path", "/elsewhere")] {}

/-- A description with a free-form audit pair of the name `path`, which is not the path that is
reported. -/
def pathAudited : TableDescription := description [] { extra := .ofList [("path", "/elsewhere")] }

end Sample

theorem told_path_of_pathDeclared :
    ∃ t access, ((Sample.catalog.loadTable (Sample.invoices none (by decide))).perform
        scriptedService Instant.epoch (Sample.describing Sample.pathDeclared)).result = .ok t ∧
      t.fileAccess.tokenAccess? = some access ∧
      t.metadata.path = some t.location.text ∧ access.path = t.location := by
  have answered := Sample.answer_describing (Sample.invoices none (by decide)) Sample.pathDeclared
  have loaded := Sample.loads_description (Sample.invoices none (by decide))
    [("path", "/elsewhere")] {}
  obtain ⟨-, tokens, -, agree⟩ := told_path_is_location_iff answered loaded
  obtain ⟨access, used, -, bound⟩ := tokens rfl
  refine ⟨_, access, loaded, used, agree.mpr ?_, bound⟩
  intro p found
  cases found

/-- Readers and writers are told one path, and get data tokens for another one. -/
theorem audited_path_is_told_beside_location :
    ∃ t access, ((Sample.catalog.loadTable (Sample.invoices none (by decide))).perform
        scriptedService Instant.epoch (Sample.describing Sample.pathAudited)).result = .ok t ∧
      t.fileAccess.tokenAccess? = some access ∧ t.metadata.path = some "/elsewhere" ∧
      t.location.text = "/warehouse/shop/invoices" ∧
      access.path.text = "/warehouse/shop/invoices" := by
  have loaded := Sample.loads_description (Sample.invoices none (by decide)) []
    { extra := .ofList [("path", "/elsewhere")] }
  exact ⟨_, _, loaded, rfl, by decide, rfl, rfl⟩

end TableCatalog.Catalog
