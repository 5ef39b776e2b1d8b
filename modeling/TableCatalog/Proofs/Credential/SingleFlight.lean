import TableCatalog.Proofs.Credential.Chronicle

/-!
# One request at a time

However the moves of any number of callers are mixed, and whoever gives up, at most one request for
a token is in flight. Only the caller of the latest request can change the token that is held, and
it puts the token of that very request there. The token that is held is therefore never replaced by
one that was asked for earlier.
-/

namespace TableCatalog.Credential

variable {a : TokenAccess} {s s' : State} {m : Move} {fs : List Fetch}

theorem Fate.isInFlight_of_isSettled {fate : Fate} (h : fate.isSettled = true) :
    fate.isInFlight = false := by
  cases fate <;> first | rfl | cases h

namespace Underway

theorem countP_isInFlight_of_settled (settled : ∀ f ∈ fs, f.fate.isSettled = true) :
    fs.countP (·.fate.isInFlight) = 0 := by
  rw [List.countP_eq_zero]
  intro f hf
  simp [Fate.isInFlight_of_isSettled (settled f hf)]

theorem countP_isInFlight_le (hu : Underway s fs) : fs.countP (·.fate.isInFlight) ≤ 1 := by
  cases hu with
  | idle _ settled => simp [countP_isInFlight_of_settled settled]
  | fetching _ settled =>
    rw [List.countP_cons, countP_isInFlight_of_settled settled]
    split <;> omega
  | storing _ settled =>
    rw [List.countP_cons, countP_isInFlight_of_settled settled]
    split <;> omega

theorem isSettled_of_mem_tail (hu : Underway s fs) : ∀ f ∈ fs.tail, f.fate.isSettled = true := by
  cases hu with
  | idle _ settled => exact fun f hf => settled f (List.mem_of_mem_tail hf)
  | fetching _ settled => exact settled
  | storing _ settled => exact settled

/-- A request is in flight exactly while its caller waits for the answer. -/
theorem isInFlight_iff (hs : s.Orderly) (hu : Underway s fs) (c : Caller) (asked : Identifier) :
    ⟨c, asked, .inFlight⟩ ∈ fs ↔ s.standing c = .fetching asked := by
  constructor
  · intro mem
    cases hu with
    | idle _ settled => exact absurd (settled _ mem) Bool.false_ne_true
    | fetching fetching settled =>
      rcases List.mem_cons.mp mem with same | mem
      · cases same
        exact fetching
      · exact absurd (settled _ mem) Bool.false_ne_true
    | storing _ settled =>
      rcases List.mem_cons.mp mem with same | mem
      · cases same
      · exact absurd (settled _ mem) Bool.false_ne_true
  · intro fetching
    obtain ⟨rest, rfl, -⟩ := hu.of_fetching hs fetching
    exact List.mem_cons_self

end Underway

/-- The token that is held stays, or the caller of the latest request replaces it by the token of
that request. -/
theorem Chronicle.Coherent.held_eq_or_latest {χ χ' : Chronicle} (hχ : χ.Coherent a)
    (h : χ.move? a m = some χ') :
    χ'.state.held = χ.state.held ∨
      ∃ c g t earlier, m = .store c ∧ g.Yields t ∧
        χ.fetches = ⟨c, a.identifier, .accepted g t⟩ :: earlier ∧
        χ'.fetches = ⟨c, a.identifier, .stored g t⟩ :: earlier ∧ χ'.state.held = some t := by
  obtain ⟨s', step, rfl⟩ := move?_eq_some_iff.mp h
  rcases step.held_eq with same | ⟨c, t, rfl, storing, held, -⟩
  · exact .inl same
  · obtain ⟨asked, g, earlier, latest, -⟩ := hχ.underway.of_storing hχ.orderly storing
    have genuine := hχ.genuine _ (by rw [latest]; exact List.mem_cons_self)
    -- whoever stores has made the latest request
    obtain rfl : asked = a.identifier := genuine.asked
    refine .inr ⟨c, g, t, earlier, rfl, genuine.grant g t (.inl rfl), latest, ?_, held⟩
    simp [Chronicle.after, Fetch.after, latest, Fate.kept]

theorem Chronicle.held_ne_none_of_run {χ χ' : Chronicle} {ms : List Move}
    (held : χ.state.held ≠ none) (h : χ.run? a ms = some χ') : χ'.state.held ≠ none := by
  refine run_induction (P := fun χ => χ.state.held ≠ none) held ?_ h
  intro χ₁ χ₂ m _ held made
  obtain ⟨s', step, rfl⟩ := move?_eq_some_iff.mp made
  rcases step.held_eq with same | ⟨c, t, -, -, now, -⟩
  · rw [Chronicle.after, same]
    exact held
  · rw [Chronicle.after, now]
    exact Option.some_ne_none t

/-- **Single flight, and no stale token.** In every run of an accessor:
at most one caller waits for the metadata service, and its request is the latest one;
the token that is held is the one of the latest request whose token was stored;
a move that changes the token that is held ends the call of the latest request, whose answer was
accepted, and puts its token there; and once a token is held, some token always is. -/
theorem single_flight_and_no_stale_token {ms : List Move} {χ : Chronicle}
    (h : Chronicle.blank.run? a ms = some χ) :
    (χ.fetches.countP (·.fate.isInFlight) ≤ 1 ∧
      (∀ c asked, ⟨c, asked, .inFlight⟩ ∈ χ.fetches ↔ χ.state.standing c = .fetching asked) ∧
      ∀ f ∈ χ.fetches.tail, f.fate.isSettled = true) ∧
    χ.state.held = Fetch.latestStored χ.fetches ∧
    (∀ m χ', χ.move? a m = some χ' → χ'.state.held ≠ χ.state.held →
      ∃ c g t earlier, m = .store c ∧ g.Yields t ∧
        χ.fetches = ⟨c, a.identifier, .accepted g t⟩ :: earlier ∧
        χ'.fetches = ⟨c, a.identifier, .stored g t⟩ :: earlier ∧ χ'.state.held = some t) ∧
    ∀ ms' χ', χ.run? a ms' = some χ' → χ.state.held ≠ none → χ'.state.held ≠ none := by
  have hχ := (Chronicle.coherent_blank a).run h
  refine ⟨⟨hχ.underway.countP_isInFlight_le, hχ.underway.isInFlight_iff hχ.orderly,
    hχ.underway.isSettled_of_mem_tail⟩, hχ.held, ?_, ?_⟩
  · intro m χ' made changed
    exact (hχ.held_eq_or_latest made).resolve_left changed
  · intro ms' χ' run held
    exact Chronicle.held_ne_none_of_run held run

/-- Two callers find no token and wait for their turn, and the first one asks for a token. -/
def firstRefresh : List Move :=
  [.begin 0 (Sample.second 0), .begin 1 (Sample.second 0), .enter 1, .enter 0,
    .lookAgain 1 (Sample.second 1), .inquire 2]

/-- The token that it gets ends within the margin when the second caller looks again, which
therefore asks once more. -/
def twoRefreshes : List Move :=
  firstRefresh ++
    [.receive 1 (.ok (Sample.grant "first" 90000)) (Sample.second 2) (Sample.second 2), .store 1,
      .lookAgain 0 (Sample.second 40),
      .receive 0 (.ok (Sample.grant "second" 900000)) (Sample.second 41) (Sample.second 41)]

theorem single_flight_of_twoRefreshes :
    ∃ χ₁ χ₂ χ₃ first second, Chronicle.blank.run? Sample.access firstRefresh = some χ₁ ∧
      χ₁.fetches.countP (·.fate.isInFlight) = 1 ∧
      χ₁.state.standing 1 = .fetching Sample.access.identifier ∧
      Chronicle.blank.run? Sample.access twoRefreshes = some χ₂ ∧ χ₂.state.held = some first ∧
      Fetch.latestStored χ₂.fetches = some first ∧
      χ₂.move? Sample.access (.store 0) = some χ₃ ∧ χ₃.state.held = some second ∧
      χ₃.fetches.map (·.fate) = [.stored (Sample.grant "second" 900000) second,
        .stored (Sample.grant "first" 90000) first] := by
  obtain ⟨χ₁, run₁⟩ : ∃ χ, Chronicle.blank.run? Sample.access firstRefresh = some χ := ⟨_, rfl⟩
  obtain ⟨χ₂, run₂⟩ : ∃ χ, Chronicle.blank.run? Sample.access twoRefreshes = some χ := ⟨_, rfl⟩
  obtain ⟨χ₃, stores⟩ : ∃ χ, χ₂.move? Sample.access (.store 0) = some χ := by
    cases run₂
    exact ⟨_, rfl⟩
  obtain ⟨⟨one, asks, -⟩, -⟩ := single_flight_and_no_stale_token run₁
  obtain ⟨-, latest, replaces, -⟩ := single_flight_and_no_stale_token run₂
  have flies : ⟨1, Sample.access.identifier, .inFlight⟩ ∈ χ₁.fetches := by
    cases run₁
    exact List.mem_cons_self
  have flying : 0 < χ₁.fetches.countP (·.fate.isInFlight) := List.countP_pos_iff.mpr ⟨_, flies, rfl⟩
  obtain ⟨first, held⟩ : ∃ t, χ₂.state.held = some t := by
    cases run₂
    exact ⟨_, rfl⟩
  have changed : χ₃.state.held ≠ χ₂.state.held := by
    cases run₂
    cases stores
    decide
  obtain ⟨c, g, second, earlier, is, -, before, after, now⟩ := replaces _ χ₃ stores changed
  refine ⟨χ₁, χ₂, χ₃, first, second, run₁, Nat.le_antisymm one flying, (asks 1 _).mp flies, run₂,
    held, latest.symm.trans held, stores, now, ?_⟩
  cases run₂
  cases stores
  cases held
  cases now
  rfl

end TableCatalog.Credential
