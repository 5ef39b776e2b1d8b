import TableCatalog.Proofs.Catalog.Describing
import TableCatalog.Proofs.Store.Lookup

/-!
# Where a database is shown, and where its tables are

A store keeps the location of a database beside the properties, and the paths of the tables lie
below it. When a database is made, a location among the properties goes there. An alteration leaves
it among the properties, where a catalog shows it in the stead of the location that the store keeps.
So the tables lie below the shown location exactly if alterations left no other one.
-/

namespace TableCatalog

namespace Store

variable {s s' : Store} {h since : List Deed} {x : Deed} {name : String} {properties : Options}
variable {d : Database}

/-! ## Alterations of the location -/

/-- The location among the properties of a database, after one more deed. -/
def Deed.move (name : String) (moved : Option String) : Deed → Option String
  | .altered database remove set =>
    if database = name then
      (set.get? Options.locationKey).or (if Options.locationKey ∈ remove then none else moved)
    else moved
  | _ => moved

/-- The location that alterations left among the properties of a database. -/
def relocation? (name : String) (since : List Deed) : Option String :=
  since.foldl (Deed.move name) none

theorem relocation?_append (name : String) (since : List Deed) (x : Deed) :
    relocation? name (since ++ [x]) = x.move name (relocation? name since) := by
  rw [relocation?, List.foldl_append]
  rfl

theorem Deed.move_of_ne (other : x.database ≠ name) (moved : Option String) :
    x.move name moved = moved := by
  cases x with
  | altered database remove set => exact if_neg other
  | created | dropped | audited | put | branched => rfl

/-- Audit fields without a free-form pair of the name `location`. -/
def Deed.IsPlain : Deed → Prop
  | .audited _ audit => audit.extra.get? Options.locationKey = none
  | _ => True

/-- Audit fields that a database has got were given to it. -/
theorem Action.eq_setAudit_of_deed? {a : Action} {result : a.Result} {audit : Audit}
    (done : a.deed? result = some (.audited name audit)) : a = .setAudit name audit := by
  unfold deed? at done
  split at done <;> cases done
  rfl

/-- What is found under the name `location` in a database of a store. -/
structure Holds (d : Database) (moved : Option String) : Prop where
  property : d.options.get? Options.locationKey = moved
  audit : d.audit.extra.get? Options.locationKey = none

/-- A database holds the location that alterations left since it was made. -/
def Follows (s : Store) (h : List Deed) (name : String) : Prop :=
  ∀ properties since d, IsMade h name properties since → s.databases.get? name = some d →
    Holds d (relocation? name since)

theorem holds_newDatabase (s : Store) (name : String) (properties : Options) :
    Holds (s.newDatabase name properties) none where
  property := by rw [newDatabase, NameMap.get?_erase, if_pos rfl]
  audit := rfl

theorem Holds.altered {moved : Option String} (holds : Holds d moved) (name : String)
    (remove : List String) (set : Options) :
    Holds { d with options := (d.options.eraseMany remove).overlay set }
      ((Deed.altered name remove set).move name moved) where
  property := by
    rw [NameMap.get?_overlay, NameMap.get?_eraseMany, holds.property]
    exact (if_pos rfl).symm
  audit := holds.audit

namespace Follows

theorem of_ne (follows : Follows s h name) (other : x.database ≠ name)
    (same : s'.databases.get? name = s.databases.get? name) : Follows s' (h ++ [x]) name := by
  intro properties since d made found
  rw [same] at found
  rcases isMade_append_iff.mp made with ⟨rfl, -⟩ | ⟨-, earlier, rfl, before⟩
  · exact absurd rfl other
  · rw [relocation?_append, Deed.move_of_ne other]
    exact follows properties earlier d before found

/-- A deed that leaves a database there leaves it as its history says. -/
theorem grows {d' : Database} (follows : Follows s h name)
    (there : s.databases.get? name = some d) (later : s'.databases.get? name = some d')
    (quiet : ¬ x.MakesOrDrops name)
    (keeps : ∀ moved, Holds d moved → Holds d' (x.move name moved)) :
    Follows s' (h ++ [x]) name := by
  intro properties since d'' made found
  rw [later] at found
  obtain rfl := Option.some.inj found
  rcases isMade_append_iff.mp made with ⟨rfl, -⟩ | ⟨-, earlier, rfl, before⟩
  · exact absurd rfl quiet
  · rw [relocation?_append]
    exact keeps _ (follows properties earlier d before there)

/-- One more deed keeps every database as its history says. -/
theorem step {deed : Option Deed} (follows : Follows s h name) (effect : Effect s deed s')
    (plain : ∀ x ∈ deed, x.IsPlain) : Follows s' (h ++ deed.toList) name := by
  cases deed with
  | none =>
    cases effect
    rw [Option.toList_none, List.append_nil]
    exact follows
  | some x =>
    by_cases own : x.database = name
    · subst own
      have later (d' : Database) := get?_setDatabase_self s x.database d'
      cases effect with
      | created absent =>
        intro properties since d made found
        obtain rfl := Option.some.inj ((later _).symm.trans found)
        rcases isMade_append_iff.mp made with ⟨-, rfl⟩ | ⟨quiet, -⟩
        · exact holds_newDatabase s _ _
        · exact absurd rfl quiet
      | dropped =>
        intro properties since d made found
        simp only [Deed.database, NameMap.get?_erase, if_true] at found
        cases found
      | altered there =>
        refine follows.grows there (later _) not_false fun moved holds => ?_
        exact holds.altered _ _ _
      | audited there =>
        refine follows.grows there (later _) not_false fun moved holds => ?_
        exact ⟨holds.property, plain _ rfl⟩
      | replaced there | put there | branched there =>
        refine follows.grows there (later _) not_false fun moved holds => ?_
        exact ⟨holds.property, holds.audit⟩
    · exact follows.of_ne own (effect.get?_of_ne own)

theorem run (actions : List Action)
    (plain : ∀ database audit, Action.setAudit database audit ∈ actions →
      audit.extra.get? Options.locationKey = none)
    (follows : Follows s h name) : Follows (s.after actions) (h ++ s.deeds actions) name := by
  induction actions generalizing s h with
  | nil => simpa [deeds, after] using follows
  | cons a rest ih =>
    have plainDeed : ∀ x ∈ a.deed? (s.perform a).1, x.IsPlain := by
      intro x done
      cases x with
      | audited database audit =>
        exact plain database audit (Action.eq_setAudit_of_deed? done ▸ List.mem_cons_self)
      | created | dropped | altered | put | branched => exact trivial
    have later := ih (fun database audit mem => plain database audit (.tail a mem))
      (follows.step (effect_perform s a) plainDeed)
    rwa [List.append_assoc] at later

end Follows

theorem follows_after (fresh : Store) {actions : List Action}
    (plain : ∀ database audit, Action.setAudit database audit ∈ actions →
      audit.extra.get? Options.locationKey = none) (name : String) :
    Follows (fresh.after actions) (fresh.deeds actions) name := by
  have start : Follows fresh [] name := fun _ _ _ made => absurd made not_isMade_nil
  exact start.run actions plain

end Store

namespace Catalog

open Store (Action IsMade Known locationOf relocation?)

variable {name : String} {d : Store.Database} {i : Identifier}

/-- The location that is shown is the one among the properties, or the one of the store. -/
theorem location_databaseOptions {moved : Option String} (holds : Store.Holds d moved) :
    (databaseOptions (Store.describeDatabase name d)).get? Options.locationKey =
      some (moved.getD d.location) := by
  rw [get?_databaseOptions_locationKey, Store.describeDatabase, holds.audit, holds.property]
  rfl

/-- **Tables lie below the shown location unless that was altered.** After a run that starts without
databases and gives no database a free-form audit pair `location`, every table that is found lies
below the place at which its database was made. A catalog shows this place, or the location that
alterations left among the properties since; so it shows where the table lies exactly if they left
none, or the same one. -/
theorem tables_lie_below_shown_location_iff (c : Catalog) {fresh : Store}
    (empty : fresh.databases = NameMap.empty) {actions : List Action}
    (plain : ∀ database audit, Action.setAudit database audit ∈ actions →
      audit.extra.get? Options.locationKey = none)
    (known : Known (fresh.deeds actions) i) :
    ∃ properties since reply shown location,
      IsMade (fresh.deeds actions) i.database properties since ∧
      (∀ now, (storeService.answer now (fresh.after actions) (.getTable i)).1 = .ok reply) ∧
      (∀ now, c.Shows now (fresh.after actions) i.database shown) ∧
      shown.name = i.database ∧ shown.location = some location ∧
      let place := locationOf fresh.root i.database properties
      let moved := relocation? i.database since
      reply.path = place ++ "/" ++ i.table ∧ location = moved.getD place ∧
        (reply.path = location ++ "/" ++ i.table ↔ ∀ l ∈ moved, l = place) := by
  have records := Store.records_after empty actions i.database
  obtain ⟨d, t, found⟩ := (Store.known_iff records).mp known
  have there := (Store.table_eq_ok_iff.mp found).1
  have follows := Store.follows_after fresh plain i.database
  rw [there] at records
  obtain _ | @⟨properties, since, _, made, place, -⟩ := records
  have holds := follows properties since d made there
  refine ⟨properties, since, Store.describeTable i d t, _, _, made, ?_,
    fun now => shows_databaseOptions c now there, rfl, location_databaseOptions holds, ?_⟩
  · intro now
    simp only [storeService, Store.answer, found, Except.map]
  · have below : (Store.describeTable i d t).path = d.location ++ "/" ++ i.table := rfl
    rw [place] at below ⊢
    refine ⟨below, rfl, ?_⟩
    rw [below, String.append_left_inj, String.append_left_inj]
    cases relocation? i.database since with
    | none => simp
    | some l => simp [eq_comm]

namespace Sample

/-- A database with a table and a branch gets another location. -/
def removal : List Action :=
  [.request Instant.epoch (.createDatabase "attic" {}), .putTable "attic" "boxes" {} {},
    .putBranch "attic" "boxes" "winter",
    .request Instant.epoch
      (.alterDatabase "attic" [] (NameMap.ofList [("location", "s3://bucket/cellar")]))]

def boxes : Identifier where
  database := "attic"
  table := "boxes"
  branch := some "winter"
  database_ok := by decide
  table_ok := by decide
  branch_ok := by
    intro b inWinter
    cases inWinter
    decide

theorem removal_isPlain : ∀ database audit, Action.setAudit database audit ∈ removal →
    audit.extra.get? Options.locationKey = none := by
  intro database audit given
  simp [removal] at given

end Sample

theorem shown_location_of_removal :
    (∀ database audit, Action.setAudit database audit ∈ Sample.removal →
      audit.extra.get? Options.locationKey = none) ∧
    Known (Store.deeds {} Sample.removal) Sample.boxes ∧
    ∃ reply shown,
      (storeService.answer Instant.epoch (Store.after {} Sample.removal)
        (.getTable Sample.boxes)).1 = .ok reply ∧
      Sample.clerk.Shows Instant.epoch (Store.after {} Sample.removal) "attic" shown ∧
      shown.location = some "s3://bucket/cellar" ∧
      reply.path = "memory://warehouse/attic.db/boxes" := by
  have empty : ({} : Store).databases = NameMap.empty := rfl
  have made : IsMade (Store.deeds {} Sample.removal) "attic" {}
      ((Store.deeds {} Sample.removal).drop 1) := ⟨[], by decide, by decide⟩
  have known : Known (Store.deeds {} Sample.removal) Sample.boxes := by
    refine ⟨_, _, made, by decide, ?_⟩
    intro branch inWinter
    cases inWinter
    decide
  obtain ⟨properties, since, reply, shown, location, made', answered, shows, -, is, path, left,
    -⟩ := tables_lie_below_shown_location_iff Sample.clerk empty Sample.removal_isPlain known
  obtain ⟨rfl, rfl⟩ := made.unique made'
  refine ⟨Sample.removal_isPlain, known, reply, shown, answered _, shows _, ?_, ?_⟩
  · rw [is, left]
    decide
  · rw [path]
    decide

/-- It is not so that every table lies below the location that is shown of its database. -/
theorem table_lies_outside_shown_location :
    ¬ ∀ actions : List Action,
      (∀ database audit, Action.setAudit database audit ∈ actions →
        audit.extra.get? Options.locationKey = none) →
      ∀ i reply shown location,
        (storeService.answer Instant.epoch (Store.after {} actions) (.getTable i)).1 = .ok reply →
        Sample.clerk.Shows Instant.epoch (Store.after {} actions) i.database shown →
        shown.location = some location → reply.path = location ++ "/" ++ i.table := by
  intro agree
  have below := agree Sample.removal Sample.removal_isPlain Sample.boxes _ _ "s3://bucket/cellar"
    rfl rfl rfl
  exact absurd below (by decide)

end Catalog

end TableCatalog
