import TableCatalog.Catalog
import TableCatalog.Proofs.Catalog.Operation
import TableCatalog.Proofs.Store.Paging

/-!
# Listings of a catalog, page by page

A catalog asks for pages of the size that it is given, or else of the size that its configuration
says. Whichever sizes these are: while nothing is done to the store, to follow the tokens comes to
an end, and what was delivered until then is what the catalog lists in one piece, as far as the
pattern matches it.
-/

namespace TableCatalog.Catalog

open Store (Listing Round Server Serves Pages Ended follow listed matchesPattern)

variable {s : Store} {now : Instant} {l : Listing} {names : List String}

/-- A listing in one piece. -/
def listNames (c : Catalog) : Listing → Operation (List String)
  | .databases => c.listDatabases
  | .tables database => c.listTables database

/-- One page of a listing. -/
def listPage (c : Catalog) (query : PageQuery) : Listing → Operation (Page String)
  | .databases => c.listDatabasesPaged query
  | .tables database => c.listTablesPaged database query

/-- Pages are asked for through a catalog. -/
def servePage (c : Catalog) (l : Listing) : Server CatalogError := fun now s query =>
  let outcome := (c.listPage query l).perform storeService now s
  (outcome.result, outcome.service)

/-- A listing in one piece is what there is to list. -/
theorem result_listNames_eq_ok_iff (c : Catalog) :
    ((c.listNames l).perform storeService now s).result = .ok names ↔ l.names? s = some names := by
  cases l with
  | databases =>
    simp only [listNames, listDatabases]
    rw [Operation.result_perform_within, Operation.result_perform_fetch_eq_ok_iff]
    simp [storeService, Store.answer, Listing.names?]
  | tables database =>
    simp only [listNames, listTables]
    rw [Operation.result_perform_within, Operation.result_perform_fetch_eq_ok_iff]
    simp [storeService, Store.answer, Listing.names?, Store.map_database_eq_ok_iff]

/-- What a catalog makes of a page is what the store answers to a query of the size that is asked
for. -/
theorem serves_servePage (c : Catalog) (l : Listing) : Serves (c.servePage l) l c.pageSize := by
  intro now s query
  obtain ⟨idle, answers⟩ := Store.serves_ask l now s (c.sized query)
  cases l with
  | databases =>
    refine ⟨idle, fun p => Iff.trans ?_ (answers p)⟩
    show ((c.listDatabasesPaged query).perform storeService now s).result = .ok p ↔ _
    rw [listDatabasesPaged, Operation.result_perform_within,
      Operation.result_perform_fetch_eq_ok_iff]
    simp [Listing.ask]
  | tables database =>
    refine ⟨idle, fun p => Iff.trans ?_ (answers p)⟩
    show ((c.listTablesPaged database query).perform storeService now s).result = .ok p ↔ _
    rw [listTablesPaged, Operation.result_perform_within,
      Operation.result_perform_fetch_eq_ok_iff]
    simp [Listing.ask]

/-- What cannot be listed in one piece cannot be listed in pages, for the same reason. -/
theorem result_listPage_of_error (c : Catalog) (query : PageQuery) {e : CatalogError}
    (failed : ((c.listNames l).perform storeService now s).result = .error e) :
    ((c.listPage query l).perform storeService now s).result = .error e := by
  cases there : l.names? s with
  | some names =>
    rw [(result_listNames_eq_ok_iff c).mpr there] at failed
    cases failed
  | none =>
    cases l with
    | databases => cases there
    | tables database =>
      have missing := Store.database_of_none (Option.map_eq_none_iff.mp there)
      have whole : (storeService.answer now s (.listTables database)).1 =
          .error (Store.noDatabase database) := by
        simp [storeService, Store.answer, missing, Except.map]
      have paged : (storeService.answer now s (.listTablesPaged database (c.sized query))).1 =
          .error (Store.noDatabase database) := by
        simp [storeService, Store.answer, missing, Except.map]
      simp only [listNames, listTables] at failed
      simp only [listPage, listTablesPaged]
      rw [Operation.result_perform_within, Operation.result_perform_fetch_of_error whole] at failed
      rw [Operation.result_perform_within, Operation.result_perform_fetch_of_error paged]
      exact congrArg Except.error (Except.error.inj failed)

/-- The first pages of a listing are asked for, each at some time and with some size. -/
def rounds (clock : Nat → Instant) (sizes : Nat → Option UInt32) (n : Nat) : List Round :=
  (List.range n).map fun i => { now := clock i, limit := sizes i }

theorem size_of_getElem?_rounds {clock : Nat → Instant} {sizes : Nat → Option UInt32} {n i : Nat}
    {size : Option UInt32 → Option UInt32} {limit : Option UInt32}
    (asked : ((rounds clock sizes n).map fun r => size r.limit)[i]? = some limit) :
    size (sizes i) = limit := by
  simp only [rounds, List.map_map, List.getElem?_map, Option.map_eq_some_iff] at asked
  obtain ⟨j, inRange, sized⟩ := asked
  obtain ⟨inside, rfl⟩ := List.getElem?_eq_some_iff.mp inRange
  rw [List.getElem_range] at sized
  exact sized

/-- **To follow the tokens is exhaustive.** While nothing is done to the store, and whatever sizes
are asked for, a listing of a catalog comes to its end after at most one page more than names match.
What was delivered then is, in order and each name once, what the catalog lists in one piece and the
pattern matches. A page with a token is exactly as large as the size in force says, its token is its
last name, and the page behind it is not empty. Where nothing can be listed, no page can. -/
theorem following_tokens_is_exhaustive (c : Catalog) (l : Listing) (pattern : Option String)
    (s : Store) (now : Instant) (clock : Nat → Instant) (sizes : Nat → Option UInt32) :
    (∀ names, ((c.listNames l).perform storeService now s).result = .ok names →
      ∃ n served, n ≤ (names.filter fun name => pattern.all (matchesPattern name)).length + 1 ∧
        served = follow (c.servePage l) pattern s none (rounds clock sizes n) ∧
        Ended served ∧
        listed served = names.filter (fun name => pattern.all (matchesPattern name)) ∧
        ∀ i v t, served[i]? = some v → v.2.next = some t →
          (∃ limit, c.pageSize (sizes i) = some limit ∧ limit ≠ 0 ∧
            v.2.elements.length = limit.toNat) ∧
          v.2.elements.getLast? = some t ∧
          ∃ w, served[i + 1]? = some w ∧ w.2.elements ≠ []) ∧
    (∀ e, ((c.listNames l).perform storeService now s).result = .error e →
      ∀ query, ((c.listPage query l).perform storeService now s).result = .error e) := by
  refine ⟨?_, fun e failed query => result_listPage_of_error c query failed⟩
  intro names whole
  have there := (result_listNames_eq_ok_iff c).mp whole
  have matching : Store.ahead names pattern none =
      names.filter fun name => pattern.all (matchesPattern name) := by
    apply List.filter_congr
    intro name _
    simp [Store.selects]
  rw [← matching]
  let n := (Store.ahead names pattern none).length + 1
  have idle : ∀ r ∈ rounds clock sizes n, r.before = [] := by simp [rounds]
  have serves := c.serves_servePage l
  have ended : Ended (follow (c.servePage l) pattern s none (rounds clock sizes n)) :=
    Store.ended_follow serves there idle (by simp [rounds, n])
  have pages : Pages l pattern none _ (follow (c.servePage l) pattern s none _) :=
    Store.pages_follow serves s (rounds clock sizes n)
  have rests : ∀ v ∈ follow (c.servePage l) pattern s none (rounds clock sizes n),
      l.names? v.1 = some names := by
    intro v mem
    rw [Store.eq_of_mem_follow serves idle v mem, there]
  refine ⟨n, _, Nat.le_refl n, rfl, ended, pages.exact ended rests, ?_⟩
  intro i v t here next
  obtain ⟨limit, limited, positive, size, last⟩ := pages.size_of_next here next
  have asked := size_of_getElem?_rounds limited
  exact ⟨⟨limit, asked, positive, size⟩, last, pages.exists_next ended rests here next⟩

namespace Sample

/-- A catalog that asks for two names at a time unless it is told otherwise. -/
def twoAPage : Catalog := { config := { pageSizeDefault := some 2 }, options := {} }

/-- A database with five tables, put in another order than that of their names. -/
def fiveTables : Store :=
  Store.after {} [.request Instant.epoch (.createDatabase "depot" {}),
    .putTable "depot" "t5" {} {}, .putTable "depot" "t3" {} {}, .putTable "depot" "t1" {} {},
    .putTable "depot" "t4" {} {}, .putTable "depot" "t2" {} {}]

end Sample

theorem exhaustive_of_fiveTables :
    ∃ n served, served = follow (Sample.twoAPage.servePage (.tables "depot")) (some "t%")
        Sample.fiveTables none (rounds (fun _ => Instant.epoch) (fun _ => none) n) ∧
      Ended served ∧ listed served = ["t1", "t2", "t3", "t4", "t5"] ∧
      ∀ v ∈ served, v.2.next ≠ none → v.2.elements.length = 2 := by
  have whole : ((Sample.twoAPage.listNames (.tables "depot")).perform storeService Instant.epoch
      Sample.fiveTables).result = .ok ["t1", "t2", "t3", "t4", "t5"] :=
    (result_listNames_eq_ok_iff Sample.twoAPage).mpr (by decide)
  obtain ⟨n, served, -, followed, ended, all, full⟩ :=
    (following_tokens_is_exhaustive Sample.twoAPage (.tables "depot") (some "t%")
      Sample.fiveTables Instant.epoch (fun _ => Instant.epoch) (fun _ => none)).1 _ whole
  refine ⟨n, served, followed, ended, all.trans (by decide), ?_⟩
  intro v mem more
  obtain ⟨i, here⟩ := List.mem_iff_getElem?.mp mem
  obtain ⟨t, next⟩ := Option.ne_none_iff_exists'.mp more
  obtain ⟨⟨limit, asked, -, size⟩, -⟩ := full i v t here next
  cases asked
  exact size

end TableCatalog.Catalog
