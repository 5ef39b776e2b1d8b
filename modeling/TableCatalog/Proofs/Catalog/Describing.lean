import TableCatalog.Catalog
import TableCatalog.Proofs.Catalog.Operation
import TableCatalog.Proofs.Options.Audit
import TableCatalog.Proofs.Options.Changes
import TableCatalog.Proofs.Store.Action
import TableCatalog.Service

/-!
# What a described and altered database is

A database is known as soon as the metadata service describes it. Four sources fill its options: the
well-known audit fields, the free-form audit pairs, the declared options and the reported location.
A name has the value of the first of them that says something of it. So a database always has a
location, and it is the reported one only if nothing else is said of it.
-/

namespace TableCatalog.Catalog

section

variable {σ : Type} {service : Service σ} {now : Instant} {state : σ}
variable {c : Catalog} {name : String} {d : DatabaseDescription} {shown : Database}

/-- A database is shown exactly if it is described. -/
theorem result_perform_getDatabase_eq_ok_iff :
    ((c.getDatabase name).perform service now state).result = .ok shown ↔
      ∃ d, (service.answer now state (.getDatabase name)).1 = .ok d ∧
        { name := d.name, options := databaseOptions d } = shown := by
  rw [getDatabase, Operation.result_perform_within, Operation.result_perform_fetch_eq_ok_iff]

theorem get?_databaseOptions (d : DatabaseDescription) (k : String) :
    (databaseOptions d).get? k =
      (d.audit.field? k).or ((d.audit.extra.get? k).or
        ((d.options.get? k).or (if k = Options.locationKey then some d.location else none))) := by
  rw [databaseOptions, Audit.get?_writeTo]
  by_cases reserved : k = Options.locationKey
  · subst reserved
    rw [NameMap.get?_insertIfNew_self, if_pos rfl, ← Option.or_some]
  · rw [NameMap.get?_insertIfNew_of_ne _ _ reserved, if_neg reserved, Option.or_none]

/-- No well-known field stands for a location, so that one is always told. -/
theorem get?_databaseOptions_locationKey (d : DatabaseDescription) :
    (databaseOptions d).get? Options.locationKey =
      some ((d.audit.extra.get? Options.locationKey).getD
        ((d.options.get? Options.locationKey).getD d.location)) := by
  rw [get?_databaseOptions, Audit.field?_locationKey, Option.none_or, if_pos rfl, Option.or_some,
    Option.or_some]

/-- **The options of a described database are an exact overlay.** If the service describes a
database, it is shown under the name in the description. Each name has the value of the first source
that says something of it, and no other names are there. The location is thus always told: a
free-form pair comes before a declared option, and that before the reported one. -/
theorem described_options_are_exact_overlay
    (answered : (service.answer now state (.getDatabase name)).1 = .ok d) :
    ∃ shown, ((c.getDatabase name).perform service now state).result = .ok shown ∧
      shown.name = d.name ∧
      (∀ k, shown.options.get? k =
        (d.audit.field? k).or ((d.audit.extra.get? k).or
          ((d.options.get? k).or (if k = "location" then some d.location else none)))) ∧
      shown.location = some ((d.audit.extra.get? "location").getD
        ((d.options.get? "location").getD d.location)) := by
  refine ⟨_, result_perform_getDatabase_eq_ok_iff.mpr ⟨d, answered, rfl⟩, rfl, ?_, ?_⟩
  · exact get?_databaseOptions d
  · exact get?_databaseOptions_locationKey d

namespace Sample

/-- A description in which an audit field, a free-form pair and a declared option contend for
`owner`, and the reported location, a declared one and a free-form pair for `location`. -/
def depot : DatabaseDescription where
  id := "1"
  name := "depot"
  location := "s3://bucket/depot.db"
  options := .ofList [("location", "/declared"), ("owner", "declared"), ("note", "east")]
  audit :=
    { owner := some "alice", updatedAt := some 42,
      extra := .ofList [("location", "/moved"), ("owner", "mallory"), ("job", "nightly")] }

end Sample

theorem exact_overlay_of_depot :
    ∃ shown, ((getDatabase ⟨{}, {}⟩ "depot").perform scriptedService Instant.epoch
        { getDatabase := [.ok Sample.depot] }).result = .ok shown ∧
      shown.name = "depot" ∧ shown.options.get? "owner" = some "alice" ∧
      shown.options.get? "updatedAt" = some "42" ∧ shown.options.get? "job" = some "nightly" ∧
      shown.options.get? "note" = some "east" ∧ shown.options.get? "createdBy" = none ∧
      shown.location = some "/moved" := by
  have answered : (scriptedService.answer Instant.epoch { getDatabase := [.ok Sample.depot] }
      (.getDatabase "depot")).1 = .ok Sample.depot := rfl
  obtain ⟨shown, found, named, options, location⟩ :=
    described_options_are_exact_overlay (c := ⟨{}, {}⟩) answered
  refine ⟨shown, found, named, ?_, ?_, ?_, ?_, ?_, location.trans (by decide)⟩ <;>
    rw [options] <;> decide

end

/-! ## Altering

A catalog sends a batch of changes in its reduced form. What it shows of the database afterwards are
the properties that the changes leave if they are made one after the other, so it does not matter
into how many batches they are divided. The location is shown as a property too, and only its value
may come from elsewhere.
-/

section

open PropertyChange (applyAll applyAll_append get?_applyAll_congr)

variable {s : Store} {name : String} {d : Store.Database}

/-- A catalog makes changes to a database, and this takes the store to another one. -/
def Alters (c : Catalog) (now : Instant) (name : String) (changes : List PropertyChange)
    (s s' : Store) : Prop :=
  let outcome := (c.alterDatabase name changes).perform storeService now s
  outcome.result = .ok () ∧ outcome.service = s'

/-- What a catalog shows of a database. -/
def Shows (c : Catalog) (now : Instant) (s : Store) (name : String) (shown : Database) : Prop :=
  ((c.getDatabase name).perform storeService now s).result = .ok shown

theorem alters_of_found (c : Catalog) (now : Instant) (found : s.databases.get? name = some d)
    (changes : List PropertyChange) :
    c.Alters now name changes s
      (s.setDatabase name { d with options := applyAll d.options changes }) := by
  rw [← PropertyChanges.applyTo_reduce]
  simp only [Alters, alterDatabase, Operation.within, Operation.perform, storeService, Store.answer,
    Store.alterDatabase_of_some found, true_and]
  rfl

theorem shows_databaseOptions (c : Catalog) (now : Instant)
    (found : s.databases.get? name = some d) :
    c.Shows now s name ⟨name, databaseOptions (Store.describeDatabase name d)⟩ := by
  refine result_perform_getDatabase_eq_ok_iff.mpr ⟨Store.describeDatabase name d, ?_, rfl⟩
  simp only [storeService, Store.answer, Store.database_of_some found, Except.map]

theorem shows_of_found (c : Catalog) (now : Instant) (found : s.databases.get? name = some d)
    (plain : d.audit.isEmpty = true) :
    c.Shows now s name ⟨name, d.options.insertIfNew Options.locationKey d.location⟩ := by
  have same : databaseOptions (Store.describeDatabase name d) =
      d.options.insertIfNew Options.locationKey d.location :=
    Audit.writeTo_of_isEmpty plain _
  exact same ▸ c.shows_databaseOptions now found

/-- **A batch of changes acts like its changes one by one.** Without audit fields, every property
but the location is shown as the changes leave it if they are made in turn. A batch that is divided
leads to the same store, and nothing but the properties of the one database is changed. -/
theorem batch_acts_like_single_changes (c : Catalog) (found : s.databases.get? name = some d)
    (plain : d.audit.isEmpty = true) (changes : List PropertyChange) :
    ∃ s', (∀ now, c.Alters now name changes s s') ∧
      (∃ was is, (∀ now, c.Shows now s name was) ∧ (∀ now, c.Shows now s' name is) ∧
        was.name = name ∧ is.name = name ∧
        ∀ k, k ≠ Options.locationKey →
          is.options.get? k = (applyAll was.options changes).get? k) ∧
      (∀ first second, changes = first ++ second → ∃ between,
        (∀ now, c.Alters now name first s between) ∧
        ∀ now, c.Alters now name second between s') ∧
      (∃ options, s'.databases.get? name = some { d with options }) ∧
      ∀ other, other ≠ name → s'.databases.get? other = s.databases.get? other := by
  have foundLater (d' : Store.Database) : (s.setDatabase name d').databases.get? name = some d' :=
    Store.get?_setDatabase_self s name d'
  refine ⟨_, fun now => alters_of_found c now found changes, ?_, ?_, ⟨_, foundLater _⟩, ?_⟩
  · refine ⟨_, _, fun now => shows_of_found c now found plain,
      fun now => shows_of_found c now (foundLater _) plain, rfl, rfl, ?_⟩
    intro k other
    -- the location that is shown besides the properties has another name
    rw [NameMap.get?_insertIfNew_of_ne _ _ other]
    apply get?_applyAll_congr
    rw [NameMap.get?_insertIfNew_of_ne _ _ other]
  · rintro first second rfl
    refine ⟨_, fun now => alters_of_found c now found first, ?_⟩
    intro now
    have between := foundLater { d with options := applyAll d.options first }
    have altered := alters_of_found c now between second
    rwa [Store.setDatabase_setDatabase, ← applyAll_append] at altered
  · intro other differs
    rw [Store.get?_setDatabase, if_neg differs]

namespace Sample

def clerk : Catalog := { config := {}, options := {} }

/-- A store with a database of two properties, and another database. -/
def market : Store :=
  Store.after {}
    [.request Instant.epoch
      (.createDatabase "market" (NameMap.ofList [("note", "a"), ("tier", "gold")])),
      .request Instant.epoch (.createDatabase "bazaar" {})]

/-- Changes that go back and forth on the same properties. -/
def backAndForth : List PropertyChange :=
  [.remove "tier", .set "note" "b", .set "tier" "iron", .remove "note"]

end Sample

theorem batch_acts_on_market :
    ∃ s' is, Sample.clerk.Alters Instant.epoch "market" Sample.backAndForth Sample.market s' ∧
      Sample.clerk.Shows Instant.epoch s' "market" is ∧
      is.options.get? "tier" = some "iron" ∧ is.options.get? "note" = none := by
  have found : Sample.market.databases.get? "market" = some _ := rfl
  obtain ⟨s', alters, ⟨was, is, before, after, -, -, inTurn⟩, -, -⟩ :=
    batch_acts_like_single_changes Sample.clerk found rfl Sample.backAndForth
  obtain rfl : _ = was := Except.ok.inj (before Instant.epoch)
  refine ⟨s', is, alters _, after _, ?_, ?_⟩
  · exact (inTurn "tier" (by decide)).trans (by decide)
  · exact (inTurn "note" (by decide)).trans (by decide)

end

end TableCatalog.Catalog
