import TableCatalog.Proofs.Credential.Chronicle
import TableCatalog.Proofs.Credential.Sharing

/-!
# Calls that end without a token

A request can fail, its answer can have expired on arrival, and its caller can give up. In each case
the call ends as if it had never been, except that its caller has the failure: none of its moves
has changed the token that is held, it has no place in the line any more, and the next one in the
line looks for itself.
-/

namespace TableCatalog.Credential

variable {a : TokenAccess} {s s' : State} {m : Move} {c : Caller} {st : Standing} {t : DataToken}
variable {cs : List Caller}

/-- With a move, the call of a caller ends without a token and with a new standing. -/
inductive Fruitless (a : TokenAccess) (s : State) (c : Caller) : Move → Standing → Prop
  | failed {asked : Identifier} {e : Failure} {now later : Instant} :
      s.standing c = .fetching asked →
      Fruitless a s c (.receive c (.error e) now later) (.returned (.error ⟨a.identifier, e⟩))
  | expired {asked : Identifier} {g : TokenGrant} {now later : Instant} :
      s.standing c = .fetching asked →
      (∀ i, Instant.ofMillis? g.expiresAtMillis.toInt = some i → ¬ now < i) →
      Fruitless a s c (.receive c (.ok g) now later)
        (.returned (.error ⟨a.identifier, DataToken.expiredOnArrival g⟩))
  | dropped : (s.standing c).isLined = true → Fruitless a s c (.drop c) .absent

namespace Fruitless

theorem caller_eq (h : Fruitless a s c m st) : m.caller = c := by
  cases h <;> rfl

theorem isLined (h : Fruitless a s c m st) : (s.standing c).isLined = true := by
  cases h with
  | failed fetching | expired fetching => rw [fetching]; rfl
  | dropped lined => exact lined

/-- All that such a move does is to take the caller out of the line. -/
theorem step (h : Fruitless a s c m st) : Step a s m (s.leave c st) := by
  cases h with
  | failed fetching => exact .fail fetching rfl
  | expired fetching behind =>
    apply Step.fail fetching
    exact DataToken.ofGrant_eq_error_iff.mpr ⟨rfl, behind⟩
  | dropped => exact .drop

theorem isLined_eq_false (h : Fruitless a s c m st) : st.isLined = false := by
  cases h <;> rfl

end Fruitless

/-- A state is as it was before, but that a caller has left the line with a new standing. If that
caller had the turn, the turn has passed on. -/
structure State.Released (s : State) (c : Caller) (st : Standing) (s' : State) : Prop where
  held : s'.held = s.held
  outside : c ∉ s'.line
  line : s'.line = s.line.erase c
  turn : (s.standing c).hasAsked = true →
    s.line = c :: s'.line ∧ ∀ d, s'.line.head? = some d → s'.standing d = .inLine
  result : s'.standing c = st
  others : ∀ d, d ≠ c → s'.standing d = s.standing d

/-- A call that ends without a token leaves the rest of the accessor as it was. -/
theorem Fruitless.released (hs : s.Orderly) (h : Fruitless a s c m st) :
    s.Released c st (s.leave c st) where
  held := rfl
  outside := hs.nodup.not_mem_erase
  line := rfl
  turn := by
    intro asked
    obtain ⟨rest, line⟩ := List.head?_eq_some_iff.mp (hs.first c asked)
    refine ⟨by rw [State.leave_line, line, List.erase_cons_head], fun d first => ?_⟩
    apply (hs.step h.step).inLine_of_mem (List.mem_of_head? first)
    apply hs.idle_after h.step
    · rw [h.caller_eq]
      exact asked
    · rw [h.caller_eq, State.leave_standing, State.withStanding_self]
      exact Standing.hasAsked_eq_false_of_isLined_eq_false h.isLined_eq_false
  result := State.withStanding_self _ _ _
  others _ other := State.withStanding_of_ne _ _ other

/-! ## The token that is held -/

/-- A caller who has a result keeps it until it takes it away. -/
theorem Step.returned {r : Result} (h : Step a s m s') (stays : m ≠ .drop c)
    (returned : s.standing c = .returned r) : s'.standing c = .returned r := by
  by_cases own : c = m.caller
  · subst own
    -- only a drop can be made by a caller who has a result
    cases h with
    | drop => exact absurd rfl stays
    | takeAtOnce before | refuse before | enter before | takeInTurn before | ask before
    | fail before | accept before | store before | inquire before | report before =>
      cases before.symm.trans returned
  · rw [h.standing_of_ne own, returned]

namespace Chronicle

variable {χ₀ χ χ' : Chronicle} {ms : List Move}

theorem returned_of_run {r : Result} (stays : .drop c ∉ ms)
    (returned : χ.state.standing c = .returned r) (h : χ.run? a ms = some χ') :
    χ'.state.standing c = .returned r := by
  apply run_induction (P := fun χ₁ => χ₁.state.standing c = .returned r) returned _ h
  intro χ₁ χ₂ m mem before made
  obtain ⟨s', step, rfl⟩ := move?_eq_some_iff.mp made
  apply step.returned _ before
  rintro rfl
  exact stays mem

/-- None of the moves of a caller with a place in the line has changed the token that is held, since
the caller began: who stores a token leaves the line for good. -/
theorem held_eq_of_isLined (stays : .drop c ∉ ms) (h : χ₀.run? a ms = some χ)
    (lined : (χ.state.standing c).isLined = true) {us vs : List Move} {u : Move}
    {χ₁ χ₂ : Chronicle} (split : ms = us ++ u :: vs) (before : χ₀.run? a us = some χ₁)
    (made : χ₁.move? a u = some χ₂) (own : u.caller = c) : χ₂.state.held = χ₁.state.held := by
  subst split
  have rest : χ₂.run? a vs = some χ := by
    rw [run?_append, before, Option.bind_some, run?, made] at h
    exact h
  obtain ⟨s', step, rfl⟩ := move?_eq_some_iff.mp made
  rcases step.held_eq with same | ⟨d, t, rfl, -, -, returned⟩
  · exact same
  · obtain rfl : d = c := own
    -- storing ends the call, which has a place in the line all the same
    have ended := returned_of_run (fun mem => stays (by simp [mem])) returned rest
    rw [ended] at lined
    cases lined

/-- A caller who has the turn looks at the token that is held, and asks for one if it finds none
that does. -/
def LooksForItself (a : TokenAccess) (χ : Chronicle) (d : Caller) (now : Instant) : Prop :=
  ∃ χ', χ.move? a (.lookAgain d now) = some χ' ∧
    ((∃ t, χ.state.held = some t ∧ t.Outlasts now a.refreshMargin ∧
        χ'.state.standing d = .returned (.ok t) ∧ χ'.fetches = χ.fetches) ∨
      χ.state.Lacking now a.refreshMargin ∧ χ'.fetches = ⟨d, a.identifier, .inFlight⟩ :: χ.fetches)

theorem looksForItself {d : Caller} (now : Instant) (first : χ.state.line.head? = some d)
    (inLine : χ.state.standing d = .inLine) : χ.LooksForItself a d now := by
  cases valid : χ.state.validToken? a.refreshMargin now with
  | none =>
    have step := Step.ask inLine first valid
    refine ⟨_, move?_eq_some_iff.mpr ⟨_, step, rfl⟩, .inr ⟨?_, ?_⟩⟩
    · exact State.lacking_of_validToken?_eq_none valid
    · simp [after, Fetch.after]
  | some t =>
    have step := Step.takeInTurn inLine first valid
    obtain ⟨held, lasts⟩ := State.validToken?_eq_some_iff.mp valid
    refine ⟨_, move?_eq_some_iff.mpr ⟨_, step, rfl⟩, .inl ⟨t, held, ?_, ?_, ?_⟩⟩
    · exact DataToken.outlasts_iff.mpr lasts
    · simp [after]
    · simp [after, Fetch.after]

end Chronicle

/-! ## A failure is not shared

A failure concerns only the caller who has asked; whoever has the turn next looks for itself. When
several callers begin while no token is held and the first answers are refused, as many calls fail
as answers were refused, one more request is made, and all the calls that are left return its token.
-/

/-! ### Runs with failures at first -/

/-- The first answers are refused, as many as the number says. The next one is accepted, and from
then on its token lasts beyond the margin at every reading of the clock. -/
def GrantsAfter (a : TokenAccess) (t : DataToken) : Nat → List Move → Prop
  | _, [] => True
  | j, m :: ms =>
    match m.outcome? with
    | none => GrantsAfter a t j ms
    | some outcome =>
      match j with
      | 0 => outcome = .ok t ∧ ∀ m ∈ ms, ∀ now ∈ m.readings, t.Outlasts now a.refreshMargin
      | j + 1 => (∃ e, outcome = .error e) ∧ GrantsAfter a t j ms

/-- Several callers begin to call while no token is held, and none of them gives up. Nobody else
wants a token. -/
structure Crowd (cs : List Caller) (χ : Chronicle) (ms : List Move) : Prop where
  nodup : cs.Nodup
  empty : χ.state.held = none
  absent : ∀ c ∈ cs, χ.state.standing c = .absent
  others : ∀ d, d ∉ cs → (χ.state.standing d).isCalling = false
  moves : ∀ m ∈ ms, m.caller ∈ cs ↔ m.isInquiry = false

/-- No caller can go on with its call. -/
def Chronicle.Finished (a : TokenAccess) (cs : List Caller) (χ : Chronicle) : Prop :=
  ∀ m, m.caller ∈ cs → m.isInquiry = false → χ.move? a m = none

theorem Chronicle.Finished.not_step {χ : Chronicle} (h : χ.Finished a cs)
    (step : Step a χ.state m s') (mem : m.caller ∈ cs) (wants : m.isInquiry = false) : False := by
  have made := Chronicle.move?_eq_some_iff.mpr ⟨s', step, rfl⟩
  rw [h m mem wants] at made
  cases made

def Standing.hasReturned (t : DataToken) : Standing → Bool
  | .returned (.ok t') => t' = t
  | _ => false

namespace Course

variable {before k : Nat} {got? : Option DataToken} {χ χ' : Chronicle} {ms : List Move}

theorem run_granted (h : Course a cs before (some t) k χ) (nodup : cs.Nodup)
    (inside : ∀ m ∈ ms, m.caller ∈ cs ↔ m.isInquiry = false)
    (lasts : ∀ m ∈ ms, ∀ now ∈ m.readings, t.Outlasts now a.refreshMargin)
    (run : χ.run? a ms = some χ') : Course a cs before (some t) k χ' := by
  apply Chronicle.run_induction (P := Course a cs before (some t) k) h _ run
  intro χ₁ χ₂ m mem h made
  obtain ⟨s', step, rfl⟩ := Chronicle.move?_eq_some_iff.mp made
  apply h.goes_on (inside m mem) _ (h.outcome?_eq_none nodup step) step
  intro t' same
  cases same
  exact lasts m mem

/-- **A run with failures at first** ends with at most that many failures and no token, or with
exactly that many and the token that was accepted. -/
theorem run {j : Nat} (h : Course a cs before none k χ) (nodup : cs.Nodup)
    (inside : ∀ m ∈ ms, m.caller ∈ cs ↔ m.isInquiry = false) (script : GrantsAfter a t j ms)
    (run : χ.run? a ms = some χ') :
    (∃ i ≤ j, Course a cs before none (k + i) χ') ∨ Course a cs before (some t) (k + j) χ' := by
  -- by induction on the moves, each answer using up one of the failures that are expected
  induction ms generalizing χ k j with
  | nil =>
    cases run
    exact .inl ⟨0, Nat.zero_le j, h⟩
  | cons m ms ih =>
    obtain ⟨χ₁, first, rest⟩ := Option.bind_eq_some_iff.mp run
    obtain ⟨s', step, rfl⟩ := Chronicle.move?_eq_some_iff.mp first
    have insideNow := inside m List.mem_cons_self
    have insideLater := fun m' mem => inside m' (List.mem_cons_of_mem m mem)
    rw [GrantsAfter] at script
    cases outcome : m.outcome? with
    | none =>
      rw [outcome] at script
      have h₁ := h.goes_on insideNow (fun _ got => by cases got) outcome step
      exact ih h₁ insideLater script rest
    | some answer =>
      rw [outcome] at script
      cases j with
      | zero =>
        obtain ⟨rfl, lasts⟩ := script
        obtain ⟨-, h₁⟩ := h.accepted step outcome
        exact .inr (h₁.run_granted nodup insideLater lasts rest)
      | succ j =>
        obtain ⟨⟨e, rfl⟩, script⟩ := script
        obtain ⟨-, h₁⟩ := h.refused nodup step outcome
        rcases ih h₁ insideLater script rest with ⟨i, le, h'⟩ | h'
        · refine .inl ⟨i + 1, Nat.succ_le_succ le, ?_⟩
          rw [show k + (i + 1) = k + 1 + i by omega]
          exact h'
        · rw [show k + (j + 1) = k + 1 + j by omega]
          exact .inr h'

/-- When no caller can go on, nobody stands in the line: whoever stands first could go on. -/
theorem line_eq_nil_of_finished (h : Course a cs before got? k χ) (finished : χ.Finished a cs) :
    χ.state.line = [] := by
  rw [List.eq_nil_iff_forall_not_mem]
  intro e waits
  have someone := List.isSome_head?.mpr (List.ne_nil_of_mem waits)
  obtain ⟨d, first⟩ := Option.isSome_iff_exists.mp someone
  have lined := (h.coherent.orderly.mem_line_iff d).mp (List.mem_of_head? first)
  have mem : d ∈ cs := h.mem_of_isCalling (Standing.isCalling_of_isLined lined)
  cases standing : χ.state.standing d with
  | inLine =>
    obtain ⟨χ', made, -⟩ := Chronicle.looksForItself (a := a) (Sample.second 0) first standing
    obtain ⟨s', step, -⟩ := Chronicle.move?_eq_some_iff.mp made
    exact finished.not_step step mem rfl
  | fetching asked =>
    -- any answer would do
    let answer : Except Failure TokenGrant :=
      .error (DataToken.expiredOnArrival (Sample.grant "secret" 0))
    have step : Step a χ.state (.receive d answer (Sample.second 0) (Sample.second 0)) _ :=
      .fail standing rfl
    exact finished.not_step step mem rfl
  | storing t => exact finished.not_step (.store standing) mem rfl
  | _ => simp [standing, Standing.isLined] at lined

theorem returned_of_finished (h : Course a cs before got? k χ) (finished : χ.Finished a cs) :
    ∀ c ∈ cs, ∃ r, χ.state.standing c = .returned r := by
  intro c mem
  have outside : (χ.state.standing c).isLined = false := by
    rw [← Bool.not_eq_true, ← h.coherent.orderly.mem_line_iff, h.line_eq_nil_of_finished finished]
    exact List.not_mem_nil
  have course := h.callers c mem
  cases standing : χ.state.standing c with
  | absent =>
    cases valid : χ.state.validToken? a.refreshMargin (Sample.second 0) with
    | none => exact (finished.not_step (.refuse standing valid) mem rfl).elim
    | some t => exact (finished.not_step (.takeAtOnce standing valid) mem rfl).elim
  | refused => exact (finished.not_step (.enter standing) mem rfl).elim
  | inLine | fetching | storing => simp [standing, Standing.isLined] at outside
  | returned r => exact ⟨r, rfl⟩
  | inquiring | told => simp [standing, Standing.onCourse] at course

/-- When no caller can go on and not all have failed, the others have the token that was accepted,
and one more request was made than have failed. -/
theorem results_of_finished (h : Course a cs before got? k χ) (finished : χ.Finished a cs)
    (fewer : k < cs.length) :
    ∃ t, got? = some t ∧ χ.fetches.length = before + (k + 1) ∧
      cs.countP (fun c => (χ.state.standing c).hasReturned t) = cs.length - k := by
  have returned := h.returned_of_finished finished
  cases got? with
  | none =>
    -- without a token all calls would have failed, but only so many have
    have all : cs.countP (fun c => (χ.state.standing c).hasFailed) = cs.length := by
      rw [List.countP_eq_length]
      intro c mem
      obtain ⟨r, result⟩ := returned c mem
      have course := h.callers c mem
      rw [result] at course ⊢
      cases r with
      | error => rfl
      | ok => cases course
    rw [h.failures] at all
    omega
  | some t =>
    obtain ⟨n, requests, stage⟩ := h.stage
    have number : n = k + 1 := by cases stage <;> rfl
    refine ⟨t, rfl, by rw [requests, number], ?_⟩
    -- whoever has not failed has returned the one token there is
    have rest : cs.countP (fun c => (χ.state.standing c).hasReturned t) =
        cs.countP (fun c => ¬ (χ.state.standing c).hasFailed = true) := by
      apply List.countP_congr
      intro c mem
      obtain ⟨r, result⟩ := returned c mem
      have course := h.callers c mem
      rw [result] at course ⊢
      cases r with
      | error => simp [Standing.hasReturned, Standing.hasFailed]
      | ok t' =>
        cases course
        simp [Standing.hasReturned, Standing.hasFailed]
    have total := List.length_eq_countP_add_countP (l := cs)
      (fun c => (χ.state.standing c).hasFailed)
    rw [h.failures] at total
    omega

end Course

theorem Crowd.course {χ : Chronicle} {ms : List Move} (crowd : Crowd cs χ ms) (hχ : χ.Coherent a) :
    Course a cs χ.fetches.length none 0 χ where
  coherent := hχ
  callers c mem := by rw [crowd.absent c mem]; trivial
  others := crowd.others
  failures := by
    rw [List.countP_eq_zero]
    intro c mem
    simp [crowd.absent c mem, Standing.hasFailed]
  stage := by
    refine ⟨0, rfl, .trying crowd.empty fun d => ?_⟩
    by_cases mem : d ∈ cs
    · rw [crowd.absent d mem]
      rfl
    · exact Standing.hasAsked_eq_false_of_isCalling_eq_false (crowd.others d mem)

/-! ### No call goes on for ever -/

/-- How many moves a call has made at most. -/
def Standing.rank : Standing → Nat
  | .absent => 0
  | .refused => 1
  | .inLine => 2
  | .fetching _ => 3
  | .storing _ => 4
  | .returned _ | .inquiring | .told _ => 5

theorem Standing.rank_le (st : Standing) : st.rank ≤ 5 := by
  cases st <;> simp [rank]

/-- Every move of a caller who wants a token brings its call forward. -/
theorem Step.rank_lt (h : Step a s m s') (wants : m.isInquiry = false) :
    (s.standing m.caller).rank < (s'.standing m.caller).rank := by
  cases h with
  | takeAtOnce before | refuse before | enter before | takeInTurn before | ask before | fail before
  | accept before | store before => simp [Move.caller, before, Standing.rank]
  | drop | inquire | report => cases wants

theorem Chronicle.finished_of_returned {χ : Chronicle}
    (returned : ∀ c ∈ cs, ∃ r, χ.state.standing c = .returned r) : χ.Finished a cs := by
  intro m mem wants
  rw [Option.eq_none_iff_forall_ne_some]
  intro χ' made
  obtain ⟨s', step, rfl⟩ := move?_eq_some_iff.mp made
  obtain ⟨r, result⟩ := returned m.caller mem
  have forward := step.rank_lt wants
  have bound := Standing.rank_le (s'.standing m.caller)
  rw [result, Standing.rank] at forward
  omega

/-- A call makes no more moves than its standing allows. -/
theorem Chronicle.countP_caller_le {χ χ' : Chronicle} {ms : List Move} {c : Caller}
    (wants : ∀ m ∈ ms, m.caller = c → m.isInquiry = false) (h : χ.run? a ms = some χ') :
    ms.countP (fun m => m.caller = c) + (χ.state.standing c).rank ≤
      (χ'.state.standing c).rank := by
  induction ms generalizing χ with
  | nil =>
    cases h
    simp
  | cons m ms ih =>
    obtain ⟨χ₁, first, rest⟩ := Option.bind_eq_some_iff.mp h
    obtain ⟨s', step, rfl⟩ := move?_eq_some_iff.mp first
    have later := ih (fun m' mem => wants m' (List.mem_cons_of_mem m mem)) rest
    rw [after_state] at later
    rw [List.countP_cons]
    by_cases own : m.caller = c
    · subst own
      have forward := step.rank_lt (wants m List.mem_cons_self rfl)
      simp only [decide_true, if_true]
      omega
    · rw [step.standing_of_ne (Ne.symm own)] at later
      simp only [own, decide_false, Bool.false_eq_true, if_false]
      omega

/-! ### Failures are not shared -/

/-- **A refresh that fails or is given up leaves the accessor as it was, and its failure is not
shared.** From every state that an accessor reaches: a call that ends without a token has not
changed the token that is held, has left the line, and has the failure as it was; whoever has the
turn then looks for itself. And when several callers begin without a token, the first `j` answers
are refused, and the next one is accepted and lasts, then no caller makes more than five moves, and
when none can go on, exactly `j` of them have failed, `j + 1` requests were made, and all others
have the token. -/
theorem failure_leaves_accessor_and_is_not_shared {ls : List Move} {χ₀ : Chronicle}
    (h : Chronicle.blank.run? a ls = some χ₀) :
    (∀ c ms χ m st, .drop c ∉ ms → χ₀.run? a ms = some χ → Fruitless a χ.state c m st →
      ∃ χ', χ.move? a m = some χ' ∧ χ.state.Released c st χ'.state ∧
        (∀ us u vs χ₁ χ₂, ms = us ++ u :: vs → χ₀.run? a us = some χ₁ →
          χ₁.move? a u = some χ₂ → u.caller = c → χ₂.state.held = χ₁.state.held) ∧
        ∀ d now, χ'.state.line.head? = some d → χ'.state.standing d = .inLine →
          χ'.LooksForItself a d now) ∧
    ∀ cs j t ms χ, Crowd cs χ₀ ms → GrantsAfter a t j ms → j < cs.length →
      χ₀.run? a ms = some χ →
      (∀ c ∈ cs, ms.countP (fun m => m.caller = c) ≤ 5) ∧
      (χ.Finished a cs →
        cs.countP (fun c => (χ.state.standing c).hasFailed) = j ∧
        χ.fetches.length = χ₀.fetches.length + (j + 1) ∧
        cs.countP (fun c => (χ.state.standing c).hasReturned t) = cs.length - j) := by
  have hχ₀ := (Chronicle.coherent_blank a).run h
  constructor
  · intro c ms χ m st stays run ends
    have hχ := hχ₀.run run
    have made := Chronicle.move?_eq_some_iff.mpr ⟨_, ends.step, rfl⟩
    refine ⟨_, made, ends.released hχ.orderly, ?_, ?_⟩
    · intro us u vs χ₁ χ₂ split before made own
      exact Chronicle.held_eq_of_isLined stays run ends.isLined split before made own
    · intro d now first inLine
      exact Chronicle.looksForItself now first inLine
  · intro cs j t ms χ crowd script fewer run
    constructor
    · intro c mem
      have wants : ∀ m ∈ ms, m.caller = c → m.isInquiry = false := by
        rintro m made rfl
        exact (crowd.moves m made).mp mem
      have forward := Chronicle.countP_caller_le wants run
      have bound := Standing.rank_le (χ.state.standing c)
      omega
    · intro finished
      rcases (crowd.course hχ₀).run crowd.nodup crowd.moves script run with ⟨i, le, course⟩ | course
      · obtain ⟨_, got, -⟩ := course.results_of_finished finished (by omega)
        cases got
      · obtain ⟨t', got, requests, results⟩ := course.results_of_finished finished (by omega)
        cases got
        rw [Nat.zero_add] at requests results
        exact ⟨course.failures.trans (Nat.zero_add j), requests, results⟩

/-- Three callers begin together, and the first one of the line asks. -/
def threeBegin : List Move :=
  [.begin 0 (Sample.second 0), .begin 1 (Sample.second 0), .begin 2 (Sample.second 1), .enter 1,
    .enter 2, .enter 0, .lookAgain 1 (Sample.second 1)]

/-- The first one gets a failure, the second one a token, and the third one takes it. -/
def oneFails : List Move :=
  [.receive 1 (.error (DataToken.expiredOnArrival (Sample.grant "old" 0))) (Sample.second 2)
      (Sample.second 2),
    .lookAgain 2 (Sample.second 3),
    .receive 2 (.ok (Sample.grant "new" 900000)) (Sample.second 4) (Sample.second 4), .store 2,
    .lookAgain 0 (Sample.second 5)]

theorem failure_is_not_shared_of_oneFails :
    (∃ χ χ' e, Chronicle.blank.run? Sample.access threeBegin = some χ ∧
      χ.move? Sample.access (.receive 1 (.error e) (Sample.second 2) (Sample.second 2)) = some χ' ∧
      χ'.state.standing 1 = .returned (.error ⟨Sample.access.identifier, e⟩) ∧
      χ'.state.held = χ.state.held ∧ χ'.LooksForItself Sample.access 2 (Sample.second 3)) ∧
    ∃ χ t, Chronicle.blank.run? Sample.access (threeBegin ++ oneFails) = some χ ∧
      Crowd [0, 1, 2] Chronicle.blank (threeBegin ++ oneFails) ∧
      GrantsAfter Sample.access t 1 (threeBegin ++ oneFails) ∧ χ.Finished Sample.access [0, 1, 2] ∧
      [0, 1, 2].countP (fun c => (χ.state.standing c).hasFailed) = 1 ∧ χ.fetches.length = 2 ∧
      [0, 1, 2].countP (fun c => (χ.state.standing c).hasReturned t) = 2 := by
  have reached : Chronicle.blank.run? Sample.access [] = some Chronicle.blank := rfl
  obtain ⟨ends, crowds⟩ := failure_leaves_accessor_and_is_not_shared reached
  constructor
  · obtain ⟨χ, run⟩ : ∃ χ, Chronicle.blank.run? Sample.access threeBegin = some χ := ⟨_, rfl⟩
    have fetching : χ.state.standing 1 = .fetching Sample.access.identifier := by cases run; rfl
    have e := DataToken.expiredOnArrival (Sample.grant "old" 0)
    obtain ⟨χ', made, released, -, next⟩ := ends 1 threeBegin χ
      (.receive 1 (.error e) (Sample.second 2) (Sample.second 2)) _ (by simp [threeBegin]) run
      (.failed fetching)
    have line : χ.state.line = [1, 2, 0] := by cases run; rfl
    have rest : χ'.state.line = [2, 0] := by rw [released.line, line]; rfl
    obtain ⟨-, inLine⟩ := released.turn (by rw [fetching]; rfl)
    have first : χ'.state.line.head? = some 2 := by rw [rest]; rfl
    exact ⟨χ, χ', e, run, made, released.result, released.held, next 2 _ first (inLine 2 first)⟩
  · obtain ⟨χ, run⟩ : ∃ χ, Chronicle.blank.run? Sample.access (threeBegin ++ oneFails) = some χ :=
      ⟨_, rfl⟩
    let t : DataToken := ⟨(Sample.grant "new" 900000).token, Sample.second 900⟩
    have crowd : Crowd [0, 1, 2] Chronicle.blank (threeBegin ++ oneFails) :=
      { nodup := by decide
        empty := rfl
        absent := fun _ _ => rfl
        others := fun _ _ => rfl
        moves := by simp [threeBegin, oneFails, Move.caller, Move.isInquiry] }
    have script : GrantsAfter Sample.access t 1 (threeBegin ++ oneFails) := by
      refine ⟨⟨_, rfl⟩, rfl, ?_⟩
      simp only [Move.readings, DataToken.Outlasts]
      decide
    have finished : χ.Finished Sample.access [0, 1, 2] := by
      apply Chronicle.finished_of_returned
      cases run
      simp only [List.forall_mem_cons]
      exact ⟨⟨_, rfl⟩, ⟨_, rfl⟩, ⟨_, rfl⟩, fun _ mem => (List.not_mem_nil mem).elim⟩
    obtain ⟨-, results⟩ := crowds [0, 1, 2] 1 t _ χ crowd script (by decide) run
    obtain ⟨failures, requests, tokens⟩ := results finished
    exact ⟨χ, t, run, crowd, script, finished, failures, requests, tokens⟩

end TableCatalog.Credential
