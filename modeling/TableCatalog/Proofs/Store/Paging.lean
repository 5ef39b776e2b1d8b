import TableCatalog.Proofs.Store.Action
import TableCatalog.Store

/-!
# Listings that are followed from page to page

Whoever follows a listing asks for a first page without a token and then goes on behind the token of
each page, until a page has none. Between two pages anything may be done to the store. As tokens are
names and not positions, the pages stay in order whatever happens: no name comes twice, each was
there when its page was served, and no name that was there all the time is missed. If nothing is
done to the store, the listing comes to its end and is exact.
-/

namespace TableCatalog.Store

/-! ## One page

What lies ahead of a listing are the names that are wanted and lie behind its token. A page without
a token holds them all. A page with a token is full: it holds the first of them, as many as its
limit says, its token is the last of these, and what it leaves out is what lies ahead of that token,
which is not nothing.
-/

variable {ε : Type} {names front back : List String} {query : PageQuery} {name t : String}
variable {pattern token : Option String}

/-- The pattern of a listing, if there is one, matches a name. -/
def Wanted (pattern : Option String) (name : String) : Prop :=
  ∀ p ∈ pattern, matchesPattern name p = true

/-- A name lies behind a token, if there is one. -/
def IsBehind (token : Option String) (name : String) : Prop := ∀ t ∈ token, t < name

/-- The names that a listing has still to deliver. -/
def ahead (names : List String) (pattern token : Option String) : List String :=
  names.filter (selects { token, pattern })

theorem mem_ahead_iff :
    name ∈ ahead names pattern token ↔
      name ∈ names ∧ Wanted pattern name ∧ IsBehind token name := by
  rw [ahead, List.mem_filter]
  simp only [selects, Bool.and_eq_true, Option.all_eq_true, decide_eq_true_iff]
  rfl

theorem pairwise_ahead (pattern token : Option String) (ascending : names.Pairwise (· < ·)) :
    (ahead names pattern token).Pairwise (· < ·) :=
  ascending.filter _

/-- What stands behind the last name of the front is what is greater than that name. -/
theorem filter_lt_of_getLast? (ascending : (front ++ back).Pairwise (· < ·))
    (last : front.getLast? = some t) : (front ++ back).filter (t < ·) = back := by
  obtain ⟨init, rfl⟩ := List.getLast?_eq_some_iff.mp last
  obtain ⟨inFront, -, apart⟩ := List.pairwise_append.mp ascending
  have before : (init ++ [t]).filter (t < ·) = [] := by
    apply List.filter_eq_nil_iff.mpr
    intro x mem later
    have later : t < x := of_decide_eq_true later
    rcases List.mem_append.mp mem with mem | mem
    · have earlier := (List.pairwise_append.mp inFront).2.2 x mem t (by simp)
      exact String.lt_irrefl x (String.lt_trans earlier later)
    · obtain rfl := List.mem_singleton.mp mem
      exact String.lt_irrefl x later
  have behind : back.filter (t < ·) = back := by
    apply List.filter_eq_self.mpr
    intro y mem
    exact decide_eq_true (apart t (by simp) y mem)
  rw [List.filter_append, before, behind, List.nil_append]

/-- To go on behind a name that lies ahead is to leave out all names up to it. -/
theorem ahead_of_mem (mem : t ∈ ahead names pattern token) :
    ahead names pattern (some t) = (ahead names pattern token).filter (t < ·) := by
  have reached := (mem_ahead_iff.mp mem).2.2
  rw [ahead, ahead, List.filter_filter]
  apply List.filter_congr
  intro x _
  have behind : t < x → token.all (· < x) = true := by
    intro later
    rw [Option.all_eq_true]
    intro u hu
    exact decide_eq_true (String.lt_trans (reached u hu) later)
  by_cases later : t < x
  · simp only [selects, Option.all_some, later, behind later, decide_true, Bool.and_true,
      Bool.true_and]
  · simp only [selects, Option.all_some, later, decide_false, Bool.and_false, Bool.false_and]

theorem elements_of_last (last : (page names query).next = none) :
    (page names query).elements = ahead names query.pattern query.token := by
  unfold page at last ⊢
  cases limited : query.limit with
  | none => rfl
  | some limit =>
    rw [limited] at last
    dsimp only at last ⊢
    split at last
    · next all =>
      rw [if_pos all]
      rfl
    · next cut =>
      -- a page that is cut holds a name, so it has a token
      exfalso
      have nothing := List.getLast?_eq_none_iff.mp last
      rw [List.take_eq_nil_iff] at nothing
      rcases nothing with zero | empty
      · exact cut (.inl (UInt32.toNat_inj.mp zero))
      · exact cut (.inr (by rw [empty]; exact Nat.zero_le _))

/-- A page that another one follows. -/
structure IsFull (names : List String) (query : PageQuery) (t : String) : Prop where
  size : ∃ limit, query.limit = some limit ∧ limit ≠ 0 ∧
    (page names query).elements.length = limit.toNat
  last : (page names query).elements.getLast? = some t
  /-- What the page leaves out is what lies ahead of its token. -/
  split : ahead names query.pattern query.token =
    (page names query).elements ++ ahead names query.pattern (some t)
  more : ahead names query.pattern (some t) ≠ []

theorem isFull_of_next (ascending : names.Pairwise (· < ·))
    (next : (page names query).next = some t) : IsFull names query t := by
  cases limited : query.limit with
  | none => simp [page, limited] at next
  | some limit =>
    by_cases all : limit = 0 ∨ (names.filter (selects query)).length ≤ limit.toNat
    · simp [page, limited, all] at next
    · have cut : (page names query).elements =
          (ahead names query.pattern query.token).take limit.toNat := by
        simp only [page, limited, if_neg all]
        rfl
      have last : (page names query).elements.getLast? = some t := by
        rw [← next]
        simp only [page, limited, if_neg all]
      have short : limit.toNat < (ahead names query.pattern query.token).length :=
        Nat.lt_of_not_le (not_or.mp all).2
      have whole := List.take_append_drop limit.toNat (ahead names query.pattern query.token)
      rw [← cut] at whole
      have behind : ahead names query.pattern (some t) =
          (ahead names query.pattern query.token).drop limit.toNat := by
        have mem : t ∈ ahead names query.pattern query.token := by
          rw [← whole]
          exact List.mem_append_left _ (List.mem_of_getLast? last)
        have inOrder := pairwise_ahead query.pattern query.token ascending
        rw [← whole] at inOrder
        have greater := filter_lt_of_getLast? inOrder last
        rw [whole] at greater
        exact (ahead_of_mem mem).trans greater
      refine ⟨⟨limit, limited, (not_or.mp all).1, ?_⟩, last, ?_, ?_⟩
      · rw [cut, List.length_take, Nat.min_eq_left (Nat.le_of_lt short)]
      · rw [behind, whole]
      · rw [behind]
        intro nothing
        exact Nat.not_le_of_lt short (List.drop_eq_nil_iff.mp nothing)

theorem IsFull.lt_of_behind {x y : String} (full : IsFull names query t)
    (ascending : names.Pairwise (· < ·)) (mem : x ∈ (page names query).elements)
    (behind : t < y) : x < y := by
  obtain ⟨init, cut⟩ := List.getLast?_eq_some_iff.mp full.last
  have inOrder := pairwise_ahead query.pattern query.token ascending
  rw [full.split, cut] at inOrder
  rw [cut, List.mem_append, List.mem_singleton] at mem
  rcases mem with mem | rfl
  · have before := (List.pairwise_append.mp (List.pairwise_append.mp inOrder).1).2.2
    exact String.lt_trans (before x mem t (by simp)) behind
  · exact behind

theorem mem_ahead_of_mem_elements (ascending : names.Pairwise (· < ·))
    (mem : name ∈ (page names query).elements) : name ∈ ahead names query.pattern query.token := by
  cases next : (page names query).next with
  | none => rwa [elements_of_last next] at mem
  | some t =>
    rw [(isFull_of_next ascending next).split]
    exact List.mem_append_left _ mem

theorem pairwise_elements (ascending : names.Pairwise (· < ·)) :
    (page names query).elements.Pairwise (· < ·) := by
  have inOrder := pairwise_ahead query.pattern query.token ascending
  cases next : (page names query).next with
  | none => rwa [elements_of_last next]
  | some t =>
    rw [(isFull_of_next ascending next).split] at inOrder
    exact (List.pairwise_append.mp inOrder).1

theorem elements_ne_nil (ascending : names.Pairwise (· < ·))
    (more : ahead names query.pattern query.token ≠ []) : (page names query).elements ≠ [] := by
  cases next : (page names query).next with
  | none => rwa [elements_of_last next]
  | some t =>
    intro empty
    have last := (isFull_of_next ascending next).last
    rw [empty] at last
    cases last

/-! ## Pages after one another -/

/-! ### What is listed -/

/-- What a listing is of. -/
inductive Listing where
  | databases
  | tables (database : String)
  deriving DecidableEq

namespace Listing

variable {l : Listing} {s : Store} {limit : Option UInt32}

/-- The names of a listing, unless the database is missing whose tables are listed. -/
def names? (s : Store) : Listing → Option (List String)
  | .databases => some s.databases.keys
  | .tables database => (s.databases.get? database).map (·.tables.keys)

/-- What is called so is in the store. -/
def Holds (s : Store) (name : String) : Listing → Prop
  | .databases => ∃ d, s.databases.get? name = some d
  | .tables database => ∃ d t, s.databases.get? database = some d ∧ d.tables.get? name = some t

/-- A page of a listing is asked for. -/
def ask (l : Listing) (now : Instant) (s : Store) (query : PageQuery) :
    Except Failure (Page String) × Store :=
  match l with
  | .databases => storeService.answer now s (.listDatabasesPaged query)
  | .tables database => storeService.answer now s (.listTablesPaged database query)

theorem pairwise_names (there : l.names? s = some names) : names.Pairwise (· < ·) := by
  cases l with
  | databases =>
    cases there
    exact s.databases.pairwise_keys
  | tables database =>
    obtain ⟨d, -, rfl⟩ := Option.map_eq_some_iff.mp there
    exact d.tables.pairwise_keys

theorem mem_names_iff (there : l.names? s = some names) : name ∈ names ↔ l.Holds s name := by
  cases l with
  | databases =>
    cases there
    exact NameMap.mem_keys_iff
  | tables database =>
    obtain ⟨d, found, rfl⟩ := Option.map_eq_some_iff.mp there
    simp [Holds, NameMap.mem_keys_iff, found]

/-- Who stands in a page of the listing is there, is wanted and lies behind the token. -/
theorem of_mem_elements (there : l.names? s = some names)
    (mem : name ∈ (page names ⟨limit, token, pattern⟩).elements) :
    l.Holds s name ∧ Wanted pattern name ∧ IsBehind token name := by
  have mem := mem_ahead_of_mem_elements (pairwise_names there) mem
  obtain ⟨held, wanted, behind⟩ := mem_ahead_iff.mp mem
  exact ⟨(mem_names_iff there).mp held, wanted, behind⟩

end Listing

/-! ### Following the tokens -/

/-- Something that is asked for pages. -/
abbrev Server (ε : Type) := Instant → Store → PageQuery → Except ε (Page String) × Store

/-- One page is asked for, after something was done to the store. -/
structure Round where
  before : List Action := []
  now : Instant
  limit : Option UInt32

/-- The pages that are served, each with the store that it was served from. A failure ends the
listing, and so does a page without a token. -/
def follow (serve : Server ε) (pattern : Option String) :
    Store → Option String → List Round → List (Store × Page String)
  | _, _, [] => []
  | s, token, r :: rest =>
    let s := s.after r.before
    match serve r.now s { limit := r.limit, token, pattern } with
    | (.error _, _) => []
    | (.ok p, s') =>
      (s, p) :: match p.next with
        | none => []
        | some t => follow serve pattern s' (some t) rest

/-- The listing has come to its end. -/
def Ended (served : List (Store × Page String)) : Prop :=
  ∃ v, served.getLast? = some v ∧ v.2.next = none

/-- The names of all pages. -/
def listed (served : List (Store × Page String)) : List String :=
  served.flatMap fun v => v.2.elements

@[simp] theorem listed_nil : listed [] = [] := rfl

@[simp] theorem listed_cons (v : Store × Page String) (rest : List (Store × Page String)) :
    listed (v :: rest) = v.2.elements ++ listed rest :=
  List.flatMap_cons

theorem not_ended_nil : ¬ Ended [] := by
  rintro ⟨v, noPage, -⟩
  cases noPage

/-- After a page with a token there is more to come. -/
theorem Ended.of_cons {v : Store × Page String} {rest : List (Store × Page String)} {t : String}
    (ended : Ended (v :: rest)) (next : v.2.next = some t) : Ended rest := by
  obtain ⟨w, last, noToken⟩ := ended
  cases rest with
  | nil =>
    obtain rfl : v = w := Option.some.inj last
    rw [next] at noToken
    cases noToken
  | cons u rest =>
    rw [List.getLast?_cons_cons] at last
    exact ⟨w, last, noToken⟩

theorem Ended.cons {rest : List (Store × Page String)} (ended : Ended rest)
    (v : Store × Page String) : Ended (v :: rest) := by
  obtain ⟨w, last, noToken⟩ := ended
  refine ⟨w, ?_, noToken⟩
  rw [List.getLast?_cons, last]
  rfl

/-- Pages of a listing are served, with limits that are made of those that are asked for, and the
store stays as it is. -/
def Serves (serve : Server ε) (l : Listing) (size : Option UInt32 → Option UInt32) : Prop :=
  ∀ now s query, (serve now s query).2 = s ∧
    ∀ p, (serve now s query).1 = .ok p ↔
      ∃ names, l.names? s = some names ∧ p = page names { query with limit := size query.limit }

theorem serves_ask (l : Listing) : Serves l.ask l id := by
  intro now s query
  cases l with
  | databases =>
    refine ⟨rfl, fun p => ?_⟩
    simp [Listing.ask, storeService, answer, Listing.names?, eq_comm]
  | tables database =>
    refine ⟨rfl, fun p => ?_⟩
    simp only [Listing.ask, storeService, answer, map_database_eq_ok_iff, Listing.names?,
      Option.map_eq_some_iff]
    constructor
    · rintro ⟨d, found, rfl⟩
      exact ⟨_, ⟨d, found, rfl⟩, rfl⟩
    · rintro ⟨_, ⟨d, found, rfl⟩, rfl⟩
      exact ⟨d, found, rfl⟩

section Serving

variable {serve : Server ε} {l : Listing} {size : Option UInt32 → Option UInt32} {s : Store}

theorem follow_of_missing (serves : Serves serve l size) (r : Round) (rest : List Round)
    (missing : l.names? (s.after r.before) = none) :
    follow serve pattern s token (r :: rest) = [] := by
  obtain ⟨-, answers⟩ := serves r.now (s.after r.before) { limit := r.limit, token, pattern }
  rw [follow]
  generalize serve r.now (s.after r.before) { limit := r.limit, token, pattern } = outcome at *
  obtain ⟨result, s'⟩ := outcome
  cases result with
  | error e => rfl
  | ok p =>
    obtain ⟨names, there, -⟩ := (answers p).mp rfl
    rw [missing] at there
    cases there

theorem follow_of_there (serves : Serves serve l size) (r : Round) (rest : List Round)
    (there : l.names? (s.after r.before) = some names) :
    follow serve pattern s token (r :: rest) =
      (s.after r.before, page names ⟨size r.limit, token, pattern⟩) ::
        match (page names ⟨size r.limit, token, pattern⟩).next with
        | none => []
        | some t => follow serve pattern (s.after r.before) (some t) rest := by
  obtain ⟨idle, answers⟩ := serves r.now (s.after r.before) { limit := r.limit, token, pattern }
  have answered := (answers _).mpr ⟨names, there, rfl⟩
  rw [follow]
  generalize serve r.now (s.after r.before) { limit := r.limit, token, pattern } = outcome at *
  obtain ⟨result, s'⟩ := outcome
  obtain rfl : result = _ := answered
  obtain rfl : s' = _ := idle
  rfl

/-- Pages of a listing that goes on behind a token, with the limits of the pages asked for. -/
inductive Pages (l : Listing) (pattern : Option String) :
    Option String → List (Option UInt32) → List (Store × Page String) → Prop
  | stopped {token : Option String} {limits : List (Option UInt32)} :
      Pages l pattern token limits []
  | last {token limit limits s names} :
      l.names? s = some names → (page names ⟨limit, token, pattern⟩).next = none →
      Pages l pattern token (limit :: limits) [(s, page names ⟨limit, token, pattern⟩)]
  | more {token limit limits s names t rest} :
      l.names? s = some names → (page names ⟨limit, token, pattern⟩).next = some t →
      Pages l pattern (some t) limits rest →
      Pages l pattern token (limit :: limits) ((s, page names ⟨limit, token, pattern⟩) :: rest)

theorem pages_follow (serves : Serves serve l size) (s : Store) (rounds : List Round) :
    Pages l pattern token (rounds.map fun r => size r.limit)
      (follow serve pattern s token rounds) := by
  induction rounds generalizing s token with
  | nil => exact .stopped
  | cons r rest ih =>
    cases there : l.names? (s.after r.before) with
    | none =>
      rw [follow_of_missing serves r rest there]
      exact .stopped
    | some names =>
      rw [follow_of_there serves r rest there, List.map_cons]
      split
      · next last => exact .last there last
      · next t next => exact .more there next (ih _)

end Serving

/-! ### A store that changes -/

namespace Pages

variable {l : Listing} {limits : List (Option UInt32)} {served : List (Store × Page String)}

/-- All that is listed lies behind the token. -/
theorem behind (h : Pages l pattern token limits served) :
    ∀ name ∈ listed served, IsBehind token name := by
  induction h with
  | stopped => simp
  | last there _ =>
    intro name mem
    rw [listed_cons, listed_nil, List.append_nil] at mem
    exact (Listing.of_mem_elements there mem).2.2
  | more there next _ ih =>
    intro name mem
    rw [listed_cons, List.mem_append] at mem
    rcases mem with mem | mem
    · exact (Listing.of_mem_elements there mem).2.2
    · -- what is listed later lies behind the last name of this page
      have full := isFull_of_next (Listing.pairwise_names there) next
      have reached := Listing.of_mem_elements there (List.mem_of_getLast? full.last)
      intro t ht
      exact String.lt_trans (reached.2.2 t ht) (ih name mem _ rfl)

theorem pairwise (h : Pages l pattern token limits served) :
    (listed served).Pairwise (· < ·) := by
  induction h with
  | stopped => exact List.Pairwise.nil
  | last there _ =>
    rw [listed_cons, listed_nil, List.append_nil]
    exact pairwise_elements (Listing.pairwise_names there)
  | more there next rest ih =>
    have ascending := Listing.pairwise_names there
    have full := isFull_of_next ascending next
    rw [listed_cons, List.pairwise_append]
    refine ⟨pairwise_elements ascending, ih, ?_⟩
    intro x inPage y later
    exact full.lt_of_behind ascending inPage (rest.behind y later _ rfl)

theorem sound (h : Pages l pattern token limits served) :
    ∀ v ∈ served, ∀ name ∈ v.2.elements, l.Holds v.1 name ∧ Wanted pattern name := by
  induction h with
  | stopped => simp
  | last there _ =>
    intro v mem name inPage
    obtain rfl := List.mem_singleton.mp mem
    obtain ⟨held, wanted, -⟩ := Listing.of_mem_elements there inPage
    exact ⟨held, wanted⟩
  | more there _ _ ih =>
    intro v mem name inPage
    rcases List.mem_cons.mp mem with rfl | mem
    · obtain ⟨held, wanted, -⟩ := Listing.of_mem_elements there inPage
      exact ⟨held, wanted⟩
    · exact ih v mem name inPage

/-- A listing that has come to its end has not missed a name that was there all the time. -/
theorem complete (h : Pages l pattern token limits served) (ended : Ended served)
    (wanted : Wanted pattern name) (behind : IsBehind token name)
    (held : ∀ v ∈ served, l.Holds v.1 name) : name ∈ listed served := by
  induction h with
  | stopped => exact absurd ended not_ended_nil
  | last there last =>
    have mem := (Listing.mem_names_iff there).mpr (held _ List.mem_cons_self)
    rw [listed_cons, listed_nil, List.append_nil, elements_of_last last]
    exact mem_ahead_iff.mpr ⟨mem, wanted, behind⟩
  | @more token limit limits s names t rest there next _ ih =>
    have mem := (Listing.mem_names_iff there).mpr (held _ List.mem_cons_self)
    have coming : name ∈ ahead names pattern token := mem_ahead_iff.mpr ⟨mem, wanted, behind⟩
    -- the name stands in this page, or it is left for the next ones
    rw [(isFull_of_next (Listing.pairwise_names there) next).split, List.mem_append] at coming
    rw [listed_cons, List.mem_append]
    rcases coming with inPage | left
    · exact .inl inPage
    · have behind := (mem_ahead_iff.mp left).2.2
      exact .inr (ih (ended.of_cons next) behind fun v mem => held v (List.mem_cons_of_mem _ mem))

end Pages

/-- **Pages of a store that changes.** Whatever is done between the pages of a listing, and however
large they are: all that is listed stands in strictly increasing order. Each name was there, and
wanted, when its page was served. If the listing comes to its end, every wanted name is listed that
was there whenever a page was served. -/
theorem paged_listing_survives_changes (l : Listing) (pattern : Option String) (s : Store)
    (rounds : List Round) :
    (listed (follow l.ask pattern s none rounds)).Pairwise (· < ·) ∧
    (∀ v ∈ follow l.ask pattern s none rounds, ∀ name ∈ v.2.elements,
      l.Holds v.1 name ∧ Wanted pattern name) ∧
    (Ended (follow l.ask pattern s none rounds) → ∀ name, Wanted pattern name →
      (∀ v ∈ follow l.ask pattern s none rounds, l.Holds v.1 name) →
      name ∈ listed (follow l.ask pattern s none rounds)) := by
  have pages : Pages l pattern none _ (follow l.ask pattern s none rounds) :=
    pages_follow (serves_ask l) s rounds
  refine ⟨pages.pairwise, pages.sound, ?_⟩
  intro ended name wanted held
  exact pages.complete ended wanted (fun t ht => by cases ht) held

namespace Sample

def make (name : String) : Action := .request Instant.epoch (.createDatabase name {})

def drop (name : String) : Action := .request Instant.epoch (.dropDatabase name)

/-- Three databases. -/
def three : Store := Store.after {} [make "bravo", make "delta", make "golf"]

/-- The database of the token is dropped, and others are made before and behind it. -/
def busy : List Round :=
  [{ now := Instant.epoch, limit := some 1 },
    { before := [drop "bravo", make "alfa", make "charlie"], now := Instant.epoch,
      limit := some 1 },
    { before := [make "echo", drop "charlie"], now := Instant.epoch, limit := some 7 }]

/-- The pages of the databases while this is done. -/
def served : List (Store × Page String) := follow Listing.databases.ask none three none busy

def put (table : String) : Action := .putTable "bravo" table {} {}

/-- Tables are put before and behind the token, and one of another database is put as well. -/
def growing : List Round :=
  [{ before := [put "pear", put "apple", put "plum"], now := Instant.epoch, limit := some 1 },
    { before := [put "peach", put "prune"], now := Instant.epoch, limit := some 1 },
    { before := [.putTable "golf" "pumpkin" {} {}, put "pomelo"], now := Instant.epoch,
      limit := some 9 }]

/-- The pages of the tables that begin with a p, while this is done. -/
def servedTables : List (Store × Page String) :=
  follow (Listing.tables "bravo").ask (some "p%") three none growing

end Sample

theorem survives_changes_of_busy :
    (listed Sample.served).Pairwise (· < ·) ∧ Ended Sample.served ∧ "delta" ∈ listed Sample.served ∧
      listed Sample.served = ["bravo", "charlie", "delta", "echo", "golf"] ∧
      (listed Sample.servedTables).Pairwise (· < ·) ∧ Ended Sample.servedTables ∧
      "plum" ∈ listed Sample.servedTables ∧
      Sample.servedTables.map (·.2.elements) = [["pear"], ["plum"], ["pomelo", "prune"]] := by
  obtain ⟨ascending, -, complete⟩ :=
    paged_listing_survives_changes .databases none Sample.three Sample.busy
  obtain ⟨ascendingTables, -, completeTables⟩ :=
    paged_listing_survives_changes (.tables "bravo") (some "p%") Sample.three Sample.growing
  have ended : Ended Sample.served := ⟨_, rfl, by decide⟩
  have endedTables : Ended Sample.servedTables := ⟨_, rfl, by decide⟩
  have held : ∀ v ∈ Sample.served, v.1.databases.contains "delta" = true := by decide
  have heldTables : ∀ v ∈ Sample.servedTables,
      (v.1.databases.get? "bravo").any (·.tables.contains "plum") = true := by decide
  refine ⟨ascending, ended, ?_, by decide, ascendingTables, endedTables, ?_, by decide⟩
  · apply complete ended "delta" (fun p hp => by cases hp)
    intro v mem
    exact Option.isSome_iff_exists.mp (held v mem)
  · apply completeTables endedTables "plum" (fun p hp => by cases hp; decide)
    intro v mem
    obtain ⟨d, found, contained⟩ := (Option.any_eq_true _ _).mp (heldTables v mem)
    obtain ⟨t, there⟩ := Option.isSome_iff_exists.mp contained
    exact ⟨d, t, found, there⟩

/-! ### A store that rests -/

section Resting

variable {serve : Server ε} {l : Listing} {size : Option UInt32 → Option UInt32} {s : Store}

theorem eq_of_mem_follow (serves : Serves serve l size) {rounds : List Round}
    (idle : ∀ r ∈ rounds, r.before = []) : ∀ v ∈ follow serve pattern s token rounds, v.1 = s := by
  induction rounds generalizing token with
  | nil => simp [follow]
  | cons r rest ih =>
    have still : s.after r.before = s := by
      rw [idle r List.mem_cons_self]
      rfl
    cases there : l.names? (s.after r.before) with
    | none => simp [follow_of_missing serves r rest there]
    | some names =>
      rw [follow_of_there serves r rest there, still]
      intro v mem
      rcases List.mem_cons.mp mem with rfl | mem
      · rfl
      · split at mem
        · cases mem
        · exact ih (fun r' mem => idle r' (List.mem_cons_of_mem r mem)) v mem

/-- A listing comes to its end if more pages are asked for than names are ahead. -/
theorem ended_follow (serves : Serves serve l size) (there : l.names? s = some names)
    {rounds : List Round} (idle : ∀ r ∈ rounds, r.before = [])
    (enough : (ahead names pattern token).length < rounds.length) :
    Ended (follow serve pattern s token rounds) := by
  -- by induction on the pages that are asked for: each full page leaves fewer names
  induction rounds generalizing token with
  | nil => exact absurd enough (Nat.not_lt_zero _)
  | cons r rest ih =>
    have still : s.after r.before = s := by
      rw [idle r List.mem_cons_self]
      rfl
    rw [follow_of_there serves r rest (still.symm ▸ there), still]
    split
    · next last => exact ⟨_, rfl, last⟩
    · next t next =>
      have full := isFull_of_next (Listing.pairwise_names there) next
      have taken := List.length_pos_of_mem (List.mem_of_getLast? full.last)
      have whole := congrArg List.length full.split
      dsimp only at whole
      rw [List.length_append] at whole
      rw [List.length_cons] at enough
      have fewer : (ahead names pattern (some t)).length < rest.length := by omega
      exact (ih (fun r' mem => idle r' (List.mem_cons_of_mem r mem)) fewer).cons _

end Resting

namespace Pages

variable {l : Listing} {limits : List (Option UInt32)} {served : List (Store × Page String)}
variable {i : Nat} {v : Store × Page String} {t : String}

theorem next_of_singleton {u : Store × Page String} (here : [u][i]? = some v)
    (next : v.2.next = some t) : u.2.next = some t := by
  cases i with
  | zero =>
    obtain rfl := Option.some.inj here
    exact next
  | succ i => cases here

theorem size_of_next (h : Pages l pattern token limits served) (here : served[i]? = some v)
    (next : v.2.next = some t) :
    ∃ limit, limits[i]? = some (some limit) ∧ limit ≠ 0 ∧
      v.2.elements.length = limit.toNat ∧ v.2.elements.getLast? = some t := by
  induction h generalizing i with
  | stopped => cases here
  | last there last =>
    have next := next_of_singleton here next
    rw [last] at next
    cases next
  | more there more _ ih =>
    cases i with
    | zero =>
      obtain rfl := Option.some.inj here
      have full := isFull_of_next (Listing.pairwise_names there) next
      obtain ⟨limit, limited, positive, size⟩ := full.size
      exact ⟨limit, congrArg some limited, positive, size, full.last⟩
    | succ i => exact ih here

/-- If nothing is done to the store, a listing that has come to its end is exact. -/
theorem exact (h : Pages l pattern token limits served) (ended : Ended served)
    (rests : ∀ v ∈ served, l.names? v.1 = some names) :
    listed served = ahead names pattern token := by
  induction h with
  | stopped => exact absurd ended not_ended_nil
  | last there last =>
    obtain rfl := Option.some.inj (there.symm.trans (rests _ List.mem_cons_self))
    rw [listed_cons, listed_nil, List.append_nil, elements_of_last last]
  | more there next _ ih =>
    obtain rfl := Option.some.inj (there.symm.trans (rests _ List.mem_cons_self))
    have whole := (isFull_of_next (Listing.pairwise_names there) next).split
    rw [listed_cons, ih (ended.of_cons next) fun v mem => rests v (List.mem_cons_of_mem _ mem)]
    exact whole.symm

/-- If nothing is done to the store, the page behind a token is not empty. -/
theorem exists_next (h : Pages l pattern token limits served) (ended : Ended served)
    (rests : ∀ v ∈ served, l.names? v.1 = some names) (here : served[i]? = some v)
    (next : v.2.next = some t) : ∃ w, served[i + 1]? = some w ∧ w.2.elements ≠ [] := by
  induction h generalizing i with
  | stopped => cases here
  | last there last =>
    have next := next_of_singleton here next
    rw [last] at next
    cases next
  | more there more rest ih =>
    have restsLater := fun v mem => rests v (List.mem_cons_of_mem _ mem)
    cases i with
    | succ i => exact ih (ended.of_cons more) restsLater here
    | zero =>
      have left := (isFull_of_next (Listing.pairwise_names there) more).more
      obtain rfl := Option.some.inj (there.symm.trans (rests _ List.mem_cons_self))
      cases rest with
      | stopped => exact absurd (ended.of_cons more) not_ended_nil
      | last there' _ | more there' _ _ =>
        obtain rfl := Option.some.inj (there'.symm.trans (restsLater _ List.mem_cons_self))
        exact ⟨_, rfl, elements_ne_nil (Listing.pairwise_names there) left⟩

end Pages

end TableCatalog.Store
