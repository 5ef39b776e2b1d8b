import TableCatalog.Proofs.Catalog.History
import TableCatalog.Proofs.Text.Blank
import TableCatalog.Proofs.Url.Location

/-!
# Tables of a warehouse

A store puts a database that is made without a location below the root of its warehouse, and tables
below their database. A catalog reads the path of a table as a location again when it loads it.
-/

namespace TableCatalog

/-! ## Words -/

/-- A text of letters, digits and low lines. -/
def IsWord (s : String) : Prop := ∀ c ∈ s.toList, c.isAlphanum = true ∨ c = '_'

instance (s : String) : Decidable (IsWord s) :=
  List.decidableBAll (fun c : Char => c.isAlphanum = true ∨ c = '_') s.toList

section

variable {c : Char} (word : c.isAlphanum = true ∨ c = '_')
include word

theorem ne_of_wordChar : c ≠ ':' ∧ c ≠ '/' := by
  constructor
  · rintro rfl
    exact absurd word (by decide)
  · rintro rfl
    exact absurd word (by decide)

end

namespace Location

variable {database table : String}

/-- The way from the root of a warehouse to a table is a name of locations. -/
theorem isName_of_words (words : IsWord database ∧ IsWord table) (databaseOk : database ≠ "")
    (tableOk : table ≠ "") :
    IsName (database.toList ++ ['.', 'd', 'b', '/'] ++ table.toList) := by
  obtain ⟨databaseWord, tableWord⟩ := words
  refine ⟨?_, ?_, ?_, ?_⟩
  · cases start : database.toList with
    | nil => exact absurd (String.toList_eq_nil_iff.mp start) databaseOk
    | cons c cs =>
      have plain := (ne_of_wordChar (databaseWord c (start ▸ List.mem_cons_self))).2
      simpa using plain
  · intro c last
    have some : table.toList ≠ [] := by rwa [ne_eq, String.toList_eq_nil_iff]
    rw [List.getLast?_append_of_ne_nil _ some] at last
    exact not_isBlank_of_wordChar (tableWord c (List.mem_of_getLast? last))
  · intro mem
    rcases List.mem_append.mp mem with mem | inTable
    · rcases List.mem_append.mp mem with inDatabase | between
      · exact (ne_of_wordChar (databaseWord _ inDatabase)).1 rfl
      · exact absurd between (by decide)
    · exact (ne_of_wordChar (tableWord _ inTable)).1 rfl
  · intro c mem
    rcases List.mem_append.mp mem with mem | inTable
    · rcases List.mem_append.mp mem with inDatabase | between
      · have range := range_of_wordChar (databaseWord c inDatabase)
        omega
      · simp only [List.mem_cons, List.not_mem_nil, or_false] at between
        rcases between with rfl | rfl | rfl | rfl <;> decide
    · have range := range_of_wordChar (tableWord c inTable)
      omega

end Location

namespace Catalog

open Store (Action IsMade Known)
open Location (Defect base)

variable {i : Identifier}

/-- The root of a warehouse is kept without the slashes at its end. -/
theorem toList_root_withRoot (s : Store) (root : String) :
    (s.withRoot root).root.toList = base root :=
  String.toList_ofList

theorem exists_loaded_eq_ok_iff (c : Catalog) (i : Identifier) (reply : TableDescription) :
    (∃ t, c.loaded i reply = .ok t) ↔ Location.defect? reply.path = none := by
  rw [← Location.exists_parse_eq_ok_iff, loaded]
  cases Location.parse reply.path with
  | ok path => exact ⟨fun _ => ⟨path, rfl⟩, fun _ => ⟨_, rfl⟩⟩
  | error d => simp

theorem loaded_of_defect (c : Catalog) (i : Identifier) {reply : TableDescription} {d : Defect}
    (defect : Location.defect? reply.path = some d) :
    c.loaded i reply = .error (.ofFault (d.toFault reply.path)) := by
  rw [loaded, Location.parse_of_defect defect]

/-- **Tables load below every root that keeps its mark.** A table of a database that was made
without a location, both of them words, lies below the root of the warehouse. It loads exactly if
there are locations below the root at all. That is so below a path, and below a URL that is still
marked as one without the slashes at its end, unless it ends in a control character or an at sign.
Below a URL whose mark is lost with these slashes no table loads. -/
theorem tables_load_iff_root_keeps_mark (c : Catalog) {fresh : Store}
    (empty : fresh.databases = NameMap.empty) {root : String}
    (accepted : Location.defect? root = none) {actions : List Action} {properties : Options}
    {since : List Store.Deed}
    (made : IsMade ((fresh.withRoot root).deeds actions) i.database properties since)
    (unplaced : properties.get? Options.locationKey = none)
    (known : Known ((fresh.withRoot root).deeds actions) i)
    (words : IsWord i.database ∧ IsWord i.table) {text : String}
    (parsed : Identifier.parse text = .ok i) (now : Instant) :
    let warehouse := fresh.withRoot root
    let s := warehouse.after actions
    let result := ((c.getTable text).perform storeService now s).result
    ∃ reply, (storeService.answer now s (.getTable i)).1 = .ok reply ∧
      reply.path = warehouse.root ++ "/" ++ i.database ++ ".db/" ++ i.table ∧
      result = c.loaded i reply ∧
      ((∃ t, result = .ok t) ↔ Location.defect? (warehouse.root ++ "/") = none) ∧
      ((∀ d ∈ root.toList.getLast?, 0x20 < d.toNat ∧ d ≠ '@') →
        ((∃ t, result = .ok t) ↔
          root.toList.head? = some '/' ∨ Location.holdsAuthorityMark warehouse.root.toList)) ∧
      (Location.holdsAuthorityMark root.toList →
        ¬ Location.holdsAuthorityMark warehouse.root.toList →
        result = .error (.ofFault (Defect.notAbsolute.toFault reply.path))) := by
  intro warehouse s result
  have noDatabases : warehouse.databases = NameMap.empty := empty
  have records := Store.records_after noDatabases actions i.database
  obtain ⟨reply, -, told, answered, -⟩ := Store.answers_of_known records known now
  obtain ⟨properties', since', first, last, made', -, -, is⟩ := told
  obtain ⟨rfl, rfl⟩ := made.unique made'
  have path : reply.path = warehouse.root ++ "/" ++ i.database ++ ".db/" ++ i.table := by
    simp only [is, Store.locationOf, unplaced, Option.getD_none, String.append_assoc]
    rfl
  have rootText : warehouse.root.toList = base root := toList_root_withRoot fresh root
  have below : reply.path.toList = base root ++ '/' ::
      (i.database.toList ++ ['.', 'd', 'b', '/'] ++ i.table.toList) := by
    rw [path]
    simp [rootText]
  have slash : (warehouse.root ++ "/").toList = base root ++ ['/'] := by
    simp [rootText]
  have same : result = c.loaded i reply := result_perform_getTable_of_reply c parsed answered
  have proper := Location.isName_of_words words i.database_ok.1 i.table_ok.1
  refine ⟨reply, answered, path, same, ?_, ?_, ?_⟩
  · rw [same, exists_loaded_eq_ok_iff]
    exact Location.defect?_below_congr accepted proper below Location.isName_nil slash
  · intro plain
    rw [same, exists_loaded_eq_ok_iff, rootText, Location.holdsAuthorityMark_iff]
    exact Location.defect?_below_eq_none_iff_of_plain accepted proper below plain
  · intro marked unmarked
    rw [rootText, Location.holdsAuthorityMark_iff] at unmarked
    rw [same]
    exact loaded_of_defect c i (Location.defect?_below_of_unmarked accepted proper below
      (Location.holdsAuthorityMark_iff.mp marked) unmarked)

namespace Sample

/-- A database is made without a location, and gets a table with a branch. -/
def arrival : List Action :=
  [.request Instant.epoch (.createDatabase "harbor" {}), putShips "first",
    .putBranch "harbor" "ships" "draft"]

theorem isMade_harbor (root : String) :
    IsMade ((({} : Store).withRoot root).deeds arrival) "harbor" {}
      [.put "harbor" "ships" { schema := { comment := some "first" }, audit := {}, id := 1 },
        .branched "harbor" "ships" "draft"] :=
  ⟨[], rfl, by decide⟩

theorem known_shipsOnDraft (root : String) :
    Known ((({} : Store).withRoot root).deeds arrival) shipsOnDraft := by
  refine ⟨_, _, isMade_harbor root, by decide, ?_⟩
  intro b drafted
  cases drafted
  decide

end Sample

theorem tables_load_below_bucket :
    Location.defect? "s3://bucket/" = none ∧
    ∃ reply t, reply.path = "s3://bucket/harbor.db/ships" ∧
      (storeService.answer Instant.epoch
        ((({} : Store).withRoot "s3://bucket/").after Sample.arrival)
        (.getTable Sample.shipsOnDraft)).1 = .ok reply ∧
      ((Sample.pilot.getTable "harbor.ships.draft").perform storeService Instant.epoch
        ((({} : Store).withRoot "s3://bucket/").after Sample.arrival)).result = .ok t := by
  have empty : ({} : Store).databases = NameMap.empty := rfl
  have accepted : Location.defect? "s3://bucket/" = none := by decide +kernel
  have parsed : Identifier.parse "harbor.ships.draft" = .ok Sample.shipsOnDraft := rfl
  have plain : ∀ d ∈ "s3://bucket/".toList.getLast?, 0x20 < d.toNat ∧ d ≠ '@' := by
    intro d last
    obtain rfl : '/' = d := Option.some.inj last
    decide
  obtain ⟨reply, answered, path, -, -, loads, -⟩ := tables_load_iff_root_keeps_mark Sample.pilot
    empty accepted (Sample.isMade_harbor _) rfl (Sample.known_shipsOnDraft _) (by decide) parsed
    Instant.epoch
  obtain ⟨t, loaded⟩ := (loads plain).mpr (.inr (by decide))
  exact ⟨accepted, reply, t, path.trans (by decide), answered, loaded⟩

/-- It is not so that tables load below every root that is a location. -/
theorem tables_do_not_load_below_file_root :
    ¬ ∀ root : String, Location.defect? root = none →
      ∀ (actions : List Action) (i : Identifier) (properties : Options) (since : List Store.Deed),
        IsMade ((({} : Store).withRoot root).deeds actions) i.database properties since →
        properties.get? Options.locationKey = none →
        Known ((({} : Store).withRoot root).deeds actions) i →
        IsWord i.database ∧ IsWord i.table →
        ∃ t, ((Sample.pilot.getTable i.text).perform storeService Instant.epoch
          ((({} : Store).withRoot root).after actions)).result = .ok t := by
  intro load
  obtain ⟨t, loaded⟩ := load "file:///" (by decide +kernel) Sample.arrival Sample.shipsOnDraft {} _
    (Sample.isMade_harbor _) rfl (Sample.known_shipsOnDraft _) (by decide)
  have failed : ((Sample.pilot.getTable Sample.shipsOnDraft.text).perform storeService Instant.epoch
      ((({} : Store).withRoot "file:///").after Sample.arrival)).result.toOption = none := by
    decide +kernel
  rw [loaded] at failed
  cases failed

end Catalog

end TableCatalog
