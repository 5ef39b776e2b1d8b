import TableCatalog.Proofs.Credential.Chronicle

/-!
# A fresh token is shared

A request is only made by a caller who has the turn and has found, in that turn, no token that does.
So once a token is held that lasts beyond the margin, nobody asks any more: whoever looks at the
token takes it, those who were already waiting for their turn included. What carries the argument
through a run is `Served`: the token is held, and nobody has asked.
-/

namespace TableCatalog.Credential

variable {a : TokenAccess} {s s' : State} {m : Move} {fs : List Fetch} {t : DataToken}
variable {cs : List Caller}

/-! ## When a request is made -/

/-- A request is made only by the one who has the turn and finds no token that does. -/
theorem Fetch.asks_of_length_lt (h : Step a s m s') (more : fs.length < (after fs s' m).length) :
    ∃ c now, m = .lookAgain c now ∧ s.line.head? = some c ∧ s.Lacking now a.refreshMargin ∧
      after fs s' m = ⟨c, a.identifier, .inFlight⟩ :: fs := by
  cases h with
  | takeAtOnce | refuse | enter | inquire | report => exact absurd more (Nat.lt_irrefl _)
  | takeInTurn => simp [after] at more
  | @ask c now inLine first none =>
    refine ⟨c, now, rfl, first, State.lacking_of_validToken?_eq_none none, ?_⟩
    simp [after]
  | fail | accept | store | drop => simp [after] at more

/-! ## When a token does for everybody -/

/-- A token is held, and nobody has asked for another one. -/
structure Served (t : DataToken) (s : State) : Prop where
  held : s.held = some t
  idle : ∀ d, (s.standing d).hasAsked = false

namespace Served

theorem of_store (hs : s.Orderly) {c : Caller} (h : Step a s (.store c) s') :
    ∃ t, s.standing c = .storing t ∧ Served t s' := by
  have made := h
  cases h with
  | @store _ t storing =>
    refine ⟨t, storing, rfl, ?_⟩
    apply hs.idle_after made
    · exact congrArg Standing.hasAsked storing
    · simp [Move.caller, Standing.hasAsked]

/-- A caller who neither asks nor gets anything but the token leaves everybody served. -/
theorem of_step (hs : Served t s) (h : Step a s m s') (held : s'.held = s.held)
    (idle : (s'.standing m.caller).hasAsked = false)
    (result : ∀ r, s'.standing m.caller = .returned r → r = .ok t) :
    Served t s' ∧
      ∀ d r, s'.standing d = .returned r → s.standing d = .returned r ∨ r = .ok t := by
  refine ⟨⟨held.trans hs.held, h.idle hs.idle idle⟩, fun d r returned => ?_⟩
  by_cases same : d = m.caller
  · exact .inr (result r (same ▸ returned))
  · exact .inl ((h.standing_of_ne same).symm.trans returned)

/-- **Whoever looks at a token that lasts takes it**, and all others go on as before. -/
theorem step (hs : Served t s) (h : Step a s m s')
    (lasts : ∀ now ∈ m.readings, t.Outlasts now a.refreshMargin) :
    Served t s' ∧
      ∀ d r, s'.standing d = .returned r → s.standing d = .returned r ∨ r = .ok t := by
  have made := h
  have valid : ∀ now ∈ m.readings, s.validToken? a.refreshMargin now = some t :=
    fun now reading => State.validToken?_of_outlasts hs.held (lasts now reading)
  cases h with
  | @takeAtOnce c now t' absent found =>
    obtain rfl : t = t' := Option.some.inj ((valid now List.mem_cons_self).symm.trans found)
    apply hs.of_step made rfl <;> simp [Move.caller, Standing.hasAsked, eq_comm]
  | @takeInTurn c now t' inLine first found =>
    obtain rfl : t = t' := Option.some.inj ((valid now List.mem_cons_self).symm.trans found)
    apply hs.of_step made rfl <;> simp [Move.caller, Standing.hasAsked, eq_comm]
  -- there is no reason to wait or to ask
  | refuse _ none | ask _ _ none =>
    exact absurd (valid _ List.mem_cons_self) (by simp [none])
  -- nobody has asked, so nobody gets an answer
  | @fail c _ _ _ _ _ asks | @accept c _ _ _ _ _ asks | @store c _ asks =>
    exact absurd (hs.idle c) (by simp [asks, Standing.hasAsked])
  | enter | drop | report =>
    apply hs.of_step made rfl <;> simp [Move.caller, Standing.hasAsked]
  | inquire =>
    apply hs.of_step made rfl <;> split <;> simp [Move.caller, Standing.hasAsked]

/-- No request is made, and nothing becomes of those that were made. -/
theorem fetches_after (hs : Served t s) (hu : Underway s fs) (h : Step a s m s')
    (hs' : Served t s') : Fetch.after fs s' m = fs := by
  cases h with
  | takeAtOnce | refuse | enter | inquire | report => rfl
  | takeInTurn => simp [Fetch.after]
  | @ask c => exact absurd (hs'.idle c) (by simp [Standing.hasAsked])
  | @fail c _ _ _ _ _ asks | @accept c _ _ _ _ _ asks | @store c _ asks =>
    exact absurd (hs.idle c) (by simp [asks, Standing.hasAsked])
  | @drop c => exact hu.amend_givenUp_eq (hs.idle c)

theorem takes_it (hs : Served t s) {c : Caller} {now : Instant}
    (lasts : t.Outlasts now a.refreshMargin) (looks : m = .begin c now ∨ m = .lookAgain c now)
    (h : Step a s m s') : s'.standing c = .returned (.ok t) := by
  have valid := State.validToken?_of_outlasts hs.held lasts
  rcases looks with rfl | rfl
  · cases h with
    | takeAtOnce _ found => simp [Option.some.inj (valid.symm.trans found)]
    | refuse _ none => exact absurd valid (by simp [none])
  · cases h with
    | takeInTurn _ _ found => simp [Option.some.inj (valid.symm.trans found)]
    | ask _ _ none => exact absurd valid (by simp [none])

/-- A caller who has the turn while the token lasts can take it and pass the turn on. -/
theorem takes_in_turn (hs : Served t s) (orderly : s.Orderly) {c : Caller} {now : Instant}
    (lasts : t.Outlasts now a.refreshMargin) (first : s.line.head? = some c) :
    Step a s (.lookAgain c now) (s.leave c (.returned (.ok t))) := by
  apply Step.takeInTurn _ first
  · exact State.validToken?_of_outlasts hs.held lasts
  · exact orderly.inLine_of_mem (List.mem_of_head? first) (hs.idle c)

/-- Through a whole run in which the token lasts, it stays the one that is held, no request is
made, and whoever gets a result gets the token. -/
theorem run {χ χ' : Chronicle} {ms : List Move} (hχ : χ.Coherent a) (hs : Served t χ.state)
    (lasts : ∀ m ∈ ms, ∀ now ∈ m.readings, t.Outlasts now a.refreshMargin)
    (h : χ.run? a ms = some χ') :
    Served t χ'.state ∧ χ'.fetches = χ.fetches ∧
      ∀ d r, χ'.state.standing d = .returned r → χ.state.standing d = .returned r ∨ r = .ok t := by
  suffices all : χ'.Coherent a ∧ Served t χ'.state ∧ χ'.fetches = χ.fetches ∧
      ∀ d r, χ'.state.standing d = .returned r → χ.state.standing d = .returned r ∨ r = .ok t from
    all.2
  refine Chronicle.run_induction (P := fun χ₁ => χ₁.Coherent a ∧ Served t χ₁.state ∧
    χ₁.fetches = χ.fetches ∧ ∀ d r, χ₁.state.standing d = .returned r →
      χ.state.standing d = .returned r ∨ r = .ok t) ⟨hχ, hs, rfl, fun d r => .inl⟩ ?_ h
  rintro χ₁ χ₂ m mem ⟨hχ₁, served, fetches, results⟩ made
  obtain ⟨s', step, rfl⟩ := Chronicle.move?_eq_some_iff.mp made
  obtain ⟨served', results'⟩ := served.step step (lasts m mem)
  refine ⟨hχ₁.move made, served', ?_, fun d r returned => ?_⟩
  · exact (served.fetches_after hχ₁.underway step served').trans fetches
  · rcases results' d r returned with before | same
    · exact results d r before
    · exact .inr same

/-- **Those who wait have their turns one after the other**, and all of them get the token. -/
theorem drain {χ : Chronicle} (hχ : χ.Coherent a) (hs : Served t χ.state) {now : Instant}
    (lasts : t.Outlasts now a.refreshMargin) :
    ∃ χ', χ.run? a (χ.state.line.map fun d => .lookAgain d now) = some χ' ∧
      χ'.state.line = [] ∧ ∀ d ∈ χ.state.line, χ'.state.standing d = .returned (.ok t) := by
  -- by induction on those who wait: the first one takes the token and passes the turn on
  generalize line : χ.state.line = ds
  induction ds generalizing χ with
  | nil => exact ⟨χ, rfl, line, fun d mem => (List.not_mem_nil mem).elim⟩
  | cons c ds ih =>
    have taken := hs.takes_in_turn hχ.orderly (a := a) lasts (by rw [line]; rfl)
    have made := Chronicle.move?_eq_some_iff.mpr ⟨_, taken, rfl⟩
    have outside : c ∉ ds := (List.nodup_cons.mp (line ▸ hχ.orderly.nodup)).1
    have rest : (χ.state.leave c (.returned (.ok t))).line = ds := by
      rw [State.leave_line, line, List.erase_cons_head]
    have lastsNow : ∀ n ∈ (Move.lookAgain c now).readings, t.Outlasts n a.refreshMargin := by
      intro n reading
      rw [List.mem_singleton.mp reading]
      exact lasts
    obtain ⟨χ', run, empty, results⟩ := ih (hχ.move made) (hs.step taken lastsNow).1 rest
    refine ⟨χ', ?_, empty, fun d mem => ?_⟩
    · show (χ.move? a (.lookAgain c now)).bind _ = _
      rw [made]
      exact run
    · rcases List.mem_cons.mp mem with rfl | mem
      · rw [Chronicle.standing_eq_of_run ?_ run]
        · exact State.withStanding_self _ _ _
        · intro m turn own
          obtain ⟨e, present, rfl⟩ := List.mem_map.mp turn
          cases own
          exact outside present
      · exact results d mem

end Served

/-! ## No needless request -/

/-- **No needless request, and a fresh token is shared.** In every run of an accessor, a request is
made only by a caller who has the turn and then finds no token that lasts beyond the margin. Once a
token is stored that lasts beyond it at every later reading of the clock, no further request is
made, whoever looks at the token returns it, and all who wait can have their turn. -/
theorem no_needless_fetch_and_fresh_token_shared {ms : List Move} {χ : Chronicle}
    (h : Chronicle.blank.run? a ms = some χ) :
    (∀ m χ₁, χ.move? a m = some χ₁ → χ.fetches.length < χ₁.fetches.length →
      ∃ c now, m = .lookAgain c now ∧ χ.state.line.head? = some c ∧
        χ.state.Lacking now a.refreshMargin ∧
        χ₁.fetches = ⟨c, a.identifier, .inFlight⟩ :: χ.fetches) ∧
    ∀ c χ₁ t, χ.move? a (.store c) = some χ₁ → χ₁.state.held = some t →
      ∀ ms' χ₂, χ₁.run? a ms' = some χ₂ →
        (∀ m ∈ ms', ∀ now ∈ m.readings, t.Outlasts now a.refreshMargin) →
        χ₂.fetches = χ₁.fetches ∧ χ₂.state.held = some t ∧
        (∀ d r, χ₂.state.standing d = .returned r →
          χ₁.state.standing d = .returned r ∨ r = .ok t) ∧
        ∀ now, t.Outlasts now a.refreshMargin →
          (∀ d m χ₃, m = .begin d now ∨ m = .lookAgain d now → χ₂.move? a m = some χ₃ →
            χ₃.state.standing d = .returned (.ok t)) ∧
          ∃ χ₃, χ₂.run? a (χ₂.state.line.map fun d => .lookAgain d now) = some χ₃ ∧
            χ₃.state.line = [] ∧ ∀ d ∈ χ₂.state.line, χ₃.state.standing d = .returned (.ok t) := by
  have hχ := (Chronicle.coherent_blank a).run h
  constructor
  · intro m χ₁ made more
    obtain ⟨s', step, rfl⟩ := Chronicle.move?_eq_some_iff.mp made
    exact Fetch.asks_of_length_lt step more
  · intro c χ₁ t made held ms' χ₂ run lasts
    have hχ₁ := hχ.move made
    obtain ⟨s', step, rfl⟩ := Chronicle.move?_eq_some_iff.mp made
    obtain ⟨t', -, served⟩ := Served.of_store hχ.orderly step
    obtain rfl : t' = t := Option.some.inj (served.held.symm.trans held)
    obtain ⟨served, fetches, results⟩ := Served.run hχ₁ served lasts run
    have hχ₂ := hχ₁.run run
    refine ⟨fetches, served.held, results, fun now lasts => ⟨?_, served.drain hχ₂ lasts⟩⟩
    intro d m χ₃ looks made
    obtain ⟨s', step, rfl⟩ := Chronicle.move?_eq_some_iff.mp made
    exact served.takes_it lasts looks step

/-- Three callers find no token. While the first one fetches, the others wait in the line. -/
def twoWaiting : List Move :=
  [.begin 0 (Sample.second 0), .begin 1 (Sample.second 0), .begin 2 (Sample.second 1), .enter 1,
    .enter 2, .enter 0, .lookAgain 1 (Sample.second 1),
    .receive 1 (.ok (Sample.grant "first" 90000)) (Sample.second 2) (Sample.second 2)]

/-- The second caller looks again, a new one begins, and the third one gives up. -/
def takenWhileFresh : List Move :=
  [.begin 3 (Sample.second 3), .lookAgain 2 (Sample.second 20), .drop 0]

theorem no_needless_fetch_of_twoWaiting :
    ∃ χ χ₁ χ₂ t, Chronicle.blank.run? Sample.access twoWaiting = some χ ∧
      χ.move? Sample.access (.store 1) = some χ₁ ∧ χ₁.state.line = [2, 0] ∧
      χ₁.run? Sample.access takenWhileFresh = some χ₂ ∧
      (∀ m ∈ takenWhileFresh, ∀ now ∈ m.readings, t.Outlasts now Sample.access.refreshMargin) ∧
      χ₂.fetches = χ₁.fetches ∧ χ₂.state.held = some t := by
  obtain ⟨χ, run⟩ : ∃ χ, Chronicle.blank.run? Sample.access twoWaiting = some χ := ⟨_, rfl⟩
  obtain ⟨-, shared⟩ := no_needless_fetch_and_fresh_token_shared run
  cases run
  have lasts : ∀ m ∈ takenWhileFresh, ∀ now ∈ m.readings,
      DataToken.Outlasts ⟨(Sample.grant "first" 90000).token, Sample.second 90⟩ now
        Sample.access.refreshMargin := by
    simp only [takenWhileFresh, Move.readings, DataToken.Outlasts]
    decide
  have := shared 1 _ _ rfl rfl takenWhileFresh _ rfl lasts
  exact ⟨_, _, _, _, rfl, rfl, rfl, rfl, lasts, this.1, this.2.1⟩

/-! ## The course of several calls

Several callers begin while no token is held. A refused answer ends one call, and the first answer
that is accepted serves all the calls that are left. `Course` says how far the callers have come:
how many have failed, which token was accepted, and how many requests were made. Every move keeps
it, one way while there are failures and another way once there is a token.
-/

namespace Standing

/-- The call wants a token and has no result yet. -/
def isCalling : Standing → Bool
  | .refused | .inLine | .fetching _ | .storing _ => true
  | .absent | .returned _ | .inquiring | .told _ => false

def hasFailed : Standing → Bool
  | .returned (.error _) => true
  | _ => false

/-- Where a caller can stand while the token that was accepted, if there is one, is the only one. -/
def onCourse (got? : Option DataToken) : Standing → Prop
  | .absent | .refused | .inLine | .returned (.error _) => True
  | .fetching _ => got? = none
  | .storing t | .returned (.ok t) => got? = some t
  | .inquiring | .told _ => False

/-- Nobody but the one who has asked is concerned by the first token that is accepted. -/
theorem onCourse_of_none {st : Standing} (h : st.onCourse none) (idle : st.hasAsked = false)
    (got? : Option DataToken) : st.onCourse got? := by
  cases st with
  | absent | refused | inLine => trivial
  | fetching | storing => cases idle
  | returned r =>
    cases r with
    | error => trivial
    | ok => cases h
  | inquiring | told => exact h

theorem hasAsked_eq_false_of_isCalling_eq_false {st : Standing} (h : st.isCalling = false) :
    st.hasAsked = false := by
  cases st <;> first | rfl | cases h

theorem isCalling_of_isLined {st : Standing} (h : st.isLined = true) : st.isCalling = true := by
  cases st <;> first | rfl | cases h

end Standing

/-! ### Answers and inquiries -/

/-- What the metadata service has answered, once the answer was compared with the clock. -/
def Move.outcome? : Move → Option (Except Failure DataToken)
  | .receive _ answer now _ => some (answer.bind fun g => DataToken.ofGrant g now)
  | _ => none

/-- A move of a caller who wants no token: it wants to know the condition, or gives up. -/
def Move.isInquiry : Move → Bool
  | .inquire _ | .report _ _ | .drop _ => true
  | _ => false

/-! ### Counting callers -/

section Count

variable {p : Standing → Bool}

theorem Step.countP_eq (h : Step a s m s')
    (same : m.caller ∈ cs → p (s'.standing m.caller) = p (s.standing m.caller)) :
    cs.countP (fun c => p (s'.standing c)) = cs.countP (fun c => p (s.standing c)) := by
  apply List.countP_congr
  intro c mem
  by_cases own : c = m.caller
  · subst own
    rw [same mem]
  · rw [h.standing_of_ne own]

theorem Step.countP_eq_succ (h : Step a s m s') (nodup : cs.Nodup) (mem : m.caller ∈ cs)
    (before : p (s.standing m.caller) = false) (after : p (s'.standing m.caller) = true) :
    cs.countP (fun c => p (s'.standing c)) = cs.countP (fun c => p (s.standing c)) + 1 := by
  induction cs with
  | nil => cases mem
  | cons d ds ih =>
    obtain ⟨outside, nodup⟩ := List.nodup_cons.mp nodup
    rw [List.countP_cons, List.countP_cons]
    by_cases own : d = m.caller
    · subst own
      have rest : ds.countP (fun c => p (s'.standing c)) = ds.countP (fun c => p (s.standing c)) :=
        h.countP_eq fun mem => absurd mem outside
      rw [rest, before, after]
      rfl
    · have mem : m.caller ∈ ds := (List.mem_cons.mp mem).resolve_left (Ne.symm own)
      rw [ih nodup mem, h.standing_of_ne own]
      omega

end Count

/-! ### The course of a crowd -/

/-- How far the callers have come after so many failures, by the token that was accepted, if one
was, and the number of requests that were made. -/
inductive Stage (k : Nat) (s : State) : Option DataToken → Nat → Prop
  | trying : s.held = none → (∀ d, (s.standing d).hasAsked = false) → Stage k s none k
  | asking {c : Caller} {asked : Identifier} :
      s.held = none → s.standing c = .fetching asked → Stage k s none (k + 1)
  | granted {c : Caller} {t : DataToken} :
      s.held = none → s.standing c = .storing t → Stage k s (some t) (k + 1)
  | served {t : DataToken} : Served t s → Stage k s (some t) (k + 1)

namespace Stage

variable {k n : Nat} {got? : Option DataToken} {c : Caller}

theorem eq_of_held (h : Stage k s got? n) (held : s.held = some t) : got? = some t := by
  cases h with
  | trying none | asking none | granted none => cases none.symm.trans held
  | served served => exact served.held.symm.trans held

/-- A caller who has not asked, and does not ask with its move, leaves the stage as it is. -/
theorem of_bystander (h : Stage k s got? n) (step : Step a s m s') (held : s'.held = s.held)
    (before : (s.standing m.caller).hasAsked = false)
    (after : (s'.standing m.caller).hasAsked = false) : Stage k s' got? n := by
  have others {d : Caller} (asked : (s.standing d).hasAsked = true) :=
    step.standing_of_hasAsked before asked
  cases h with
  | trying none idle => exact .trying (held.trans none) (step.idle idle after)
  | asking none fetching =>
    apply Stage.asking (held.trans none)
    exact (others (congrArg Standing.hasAsked fetching)).trans fetching
  | granted none storing =>
    apply Stage.granted (held.trans none)
    exact (others (congrArg Standing.hasAsked storing)).trans storing
  | served served => exact .served ⟨held.trans served.held, step.idle served.idle after⟩

/-- While a caller waits for an answer, no token was accepted and one request more was made than
have failed. -/
theorem of_fetching (hs : s.Orderly) (h : Stage k s got? n) {asked : Identifier}
    (fetching : s.standing c = .fetching asked) : got? = none ∧ n = k + 1 ∧ s.held = none := by
  cases h with
  | trying _ idle => simpa [fetching, Standing.hasAsked] using idle c
  | asking empty => exact ⟨rfl, rfl, empty⟩
  | granted _ storing =>
    obtain ⟨-, same⟩ := hs.same_asker storing fetching rfl rfl
    cases same
  | served served => simpa [fetching, Standing.hasAsked] using served.idle c

theorem of_storing (hs : s.Orderly) (h : Stage k s got? n) (storing : s.standing c = .storing t) :
    got? = some t ∧ n = k + 1 := by
  cases h with
  | trying _ idle => simpa [storing, Standing.hasAsked] using idle c
  | asking _ fetching =>
    obtain ⟨-, same⟩ := hs.same_asker fetching storing rfl rfl
    cases same
  | granted _ storing' =>
    obtain ⟨-, same⟩ := hs.same_asker storing' storing rfl rfl
    cases same
    exact ⟨rfl, rfl⟩
  | served served => simpa [storing, Standing.hasAsked] using served.idle c

/-- A caller who has the turn asks only if no token was accepted. -/
theorem of_ask (hs : s.Orderly) (h : Stage k s got? n) {now : Instant}
    (inLine : s.standing c = .inLine) (first : s.line.head? = some c)
    (none : s.validToken? a.refreshMargin now = none)
    (lasts : ∀ t, got? = some t → t.Outlasts now a.refreshMargin) :
    got? = Option.none ∧ n = k ∧ s.held = Option.none := by
  have nobody := hs.not_hasAsked_of_first first inLine
  cases h with
  | trying empty => exact ⟨rfl, rfl, empty⟩
  | @asking d _ _ asks | @granted d _ _ asks =>
    exact absurd (nobody d) (by simp [asks, Standing.hasAsked])
  | served served =>
    have valid := State.validToken?_of_outlasts served.held (lasts _ rfl)
    exact absurd valid (by simp [none])

end Stage

/-- The course of a crowd: so many calls have failed, the others can go on, and the requests that
were made since the number of them was `before` fit the stage. -/
structure Course (a : TokenAccess) (cs : List Caller) (before : Nat) (got? : Option DataToken)
    (k : Nat) (χ : Chronicle) : Prop where
  coherent : χ.Coherent a
  callers : ∀ c ∈ cs, (χ.state.standing c).onCourse got?
  others : ∀ d, d ∉ cs → (χ.state.standing d).isCalling = false
  failures : cs.countP (fun c => (χ.state.standing c).hasFailed) = k
  stage : ∃ n, χ.fetches.length = before + n ∧ Stage k χ.state got? n

namespace Course

variable {before k : Nat} {got? : Option DataToken} {χ χ' : Chronicle} {ms : List Move}

theorem callers_after (h : Course a cs before got? k χ) (step : Step a χ.state m s')
    (own : m.caller ∈ cs → (s'.standing m.caller).onCourse got?) :
    ∀ c ∈ cs, (s'.standing c).onCourse got? := by
  intro c mem
  by_cases same : c = m.caller
  · subst same
    exact own mem
  · rw [step.standing_of_ne same]
    exact h.callers c mem

theorem others_after (h : Course a cs before got? k χ) (step : Step a χ.state m s')
    (own : m.caller ∉ cs → (s'.standing m.caller).isCalling = false) :
    ∀ d, d ∉ cs → (s'.standing d).isCalling = false := by
  intro d outside
  by_cases same : d = m.caller
  · subst same
    exact own outside
  · rw [step.standing_of_ne same]
    exact h.others d outside

theorem mem_of_isCalling (h : Course a cs before got? k χ) {c : Caller}
    (calling : (χ.state.standing c).isCalling = true) : c ∈ cs := by
  by_cases mem : c ∈ cs
  · exact mem
  · exact absurd calling (by simp [h.others c mem])

/-- An answer that is refused ends one call. -/
theorem refused (h : Course a cs before got? k χ) (nodup : cs.Nodup)
    (step : Step a χ.state m s') {e : Failure} (outcome : m.outcome? = some (.error e)) :
    got? = none ∧ Course a cs before none (k + 1) (χ.after m s') := by
  have made := step
  cases step with
  | @fail c asked answer now later e fetching =>
    obtain ⟨n, requests, stage⟩ := h.stage
    obtain ⟨rfl, rfl, none⟩ := stage.of_fetching h.coherent.orderly fetching
    have mem : c ∈ cs := h.mem_of_isCalling (by rw [fetching]; rfl)
    have idle := h.coherent.orderly.idle_after made (congrArg Standing.hasAsked fetching)
      (by simp [Move.caller, Standing.hasAsked])
    refine ⟨rfl, h.coherent.step made, ?_, ?_, ?_, k + 1, ?_, ?_⟩
    · exact h.callers_after made fun _ => by simp [Move.caller, Standing.onCourse]
    · exact h.others_after made fun _ => by simp [Move.caller, Standing.isCalling]
    · rw [← h.failures]
      apply made.countP_eq_succ nodup mem
      · simp [Move.caller, fetching, Standing.hasFailed]
      · simp [Move.caller, Standing.hasFailed]
    · exact (Fetch.length_amend _ _ _).trans requests
    · exact .trying none idle
  | accept _ accepted =>
    rw [Move.outcome?, Except.bind, accepted] at outcome
    cases outcome
  | _ => cases outcome

/-- The first answer that is accepted ends no call, and brings the token for all that are left. -/
theorem accepted (h : Course a cs before got? k χ) (step : Step a χ.state m s')
    (outcome : m.outcome? = some (.ok t)) :
    got? = none ∧ Course a cs before (some t) k (χ.after m s') := by
  have made := step
  cases step with
  | fail _ failed =>
    rw [Move.outcome?, failed] at outcome
    cases outcome
  | @accept c asked g now later t' fetching accepted =>
    obtain rfl : t' = t := by
      rw [Move.outcome?, Except.bind, accepted] at outcome
      cases outcome
      rfl
    obtain ⟨n, requests, stage⟩ := h.stage
    obtain ⟨rfl, rfl, none⟩ := stage.of_fetching h.coherent.orderly fetching
    refine ⟨rfl, h.coherent.step made, ?_, ?_, ?_, k + 1, ?_, ?_⟩
    · -- the token concerns the one who has asked, and nobody else has
      intro d mem
      by_cases own : d = c
      · subst own
        simp [Standing.onCourse]
      · have idle : (χ.state.standing d).hasAsked = false := by
          cases askedToo : (χ.state.standing d).hasAsked with
          | false => rfl
          | true =>
            have asks := congrArg Standing.hasAsked fetching
            exact absurd (h.coherent.orderly.eq_of_hasAsked askedToo asks) own
        show ((χ.state.withStanding c _).standing d).onCourse _
        rw [State.withStanding_of_ne _ _ own]
        exact Standing.onCourse_of_none (h.callers d mem) idle _
    · refine h.others_after made fun outside => absurd ?_ outside
      exact h.mem_of_isCalling (congrArg Standing.isCalling fetching)
    · rw [← h.failures]
      apply made.countP_eq
      simp [Move.caller, fetching, Standing.hasFailed]
    · exact (Fetch.length_amend _ _ _).trans requests
    · exact .granted none (State.withStanding_self _ _ _)
  | _ => cases outcome

/-- A caller who has not asked, and does not ask with its move, leaves the course as it is. -/
theorem of_bystander (h : Course a cs before got? k χ) (step : Step a χ.state m s')
    (held : s'.held = χ.state.held) (fetches : Fetch.after χ.fetches s' m = χ.fetches)
    (asked : (χ.state.standing m.caller).hasAsked = false)
    (asks : (s'.standing m.caller).hasAsked = false)
    (own : m.caller ∈ cs → (s'.standing m.caller).onCourse got? ∧
      (s'.standing m.caller).hasFailed = (χ.state.standing m.caller).hasFailed)
    (other : m.caller ∉ cs → (s'.standing m.caller).isCalling = false) :
    Course a cs before got? k (χ.after m s') := by
  obtain ⟨n, requests, stage⟩ := h.stage
  refine ⟨h.coherent.step step, ?_, h.others_after step other, ?_, n, ?_, ?_⟩
  · exact h.callers_after step fun mem => (own mem).1
  · rw [← h.failures]
    exact step.countP_eq fun mem => (own mem).2
  · show (Fetch.after χ.fetches s' m).length = _
    rw [fetches, requests]
  · exact stage.of_bystander step held asked asks

/-- A caller who has the turn asks, if no token was accepted. -/
theorem asked (h : Course a cs before got? k χ) {c : Caller} {now : Instant} (mem : c ∈ cs)
    (inLine : χ.state.standing c = .inLine) (first : χ.state.line.head? = some c)
    (none : χ.state.validToken? a.refreshMargin now = none)
    (lasts : ∀ t, got? = some t → t.Outlasts now a.refreshMargin) :
    Course a cs before got? k
      (χ.after (.lookAgain c now) (χ.state.withStanding c (.fetching a.identifier))) := by
  have step := Step.ask inLine first none
  obtain ⟨n, requests, stage⟩ := h.stage
  obtain ⟨rfl, rfl, empty⟩ := stage.of_ask h.coherent.orderly inLine first none lasts
  refine ⟨h.coherent.step step, ?_, ?_, ?_, n + 1, ?_, ?_⟩
  · exact h.callers_after step fun _ => by simp [Move.caller, Standing.onCourse]
  · exact h.others_after step fun outside => absurd mem outside
  · rw [← h.failures]
    apply step.countP_eq
    simp [Move.caller, inLine, Standing.hasFailed]
  · simp [Chronicle.after, Fetch.after, requests, Nat.add_assoc]
  · exact .asking empty (State.withStanding_self _ _ _)

theorem stored (h : Course a cs before got? k χ) {c : Caller}
    (step : Step a χ.state (.store c) s') : Course a cs before got? k (χ.after (.store c) s') := by
  obtain ⟨n, requests, stage⟩ := h.stage
  obtain ⟨t, storing, served⟩ := Served.of_store h.coherent.orderly step
  obtain ⟨rfl, rfl⟩ := stage.of_storing h.coherent.orderly storing
  have result : s'.standing c = .returned (.ok t) := by
    cases step with
    | store storing' =>
      cases storing.symm.trans storing'
      simp
  refine ⟨h.coherent.step step, ?_, ?_, ?_, k + 1, ?_, .served served⟩
  · exact h.callers_after step fun _ => by simp [Move.caller, result, Standing.onCourse]
  · exact h.others_after step fun _ => by simp [Move.caller, result, Standing.isCalling]
  · rw [← h.failures]
    apply step.countP_eq
    simp [Move.caller, storing, result, Standing.hasFailed]
  · exact (Fetch.length_amend _ _ _).trans requests

/-- **Every move without an answer keeps the course**: no call fails by it. -/
theorem goes_on (h : Course a cs before got? k χ) (inside : m.caller ∈ cs ↔ m.isInquiry = false)
    (lasts : ∀ t, got? = some t → ∀ now ∈ m.readings, t.Outlasts now a.refreshMargin)
    (outcome : m.outcome? = none) (step : Step a χ.state m s') :
    Course a cs before got? k (χ.after m s') := by
  have made := step
  obtain ⟨n, -, stage⟩ := h.stage
  cases step with
  -- what a caller takes is the token that was accepted
  | takeAtOnce absent found =>
    obtain ⟨held, -⟩ := State.validToken?_eq_some_iff.mp found
    have got := stage.eq_of_held held
    apply h.of_bystander made rfl rfl <;>
      simp [Move.caller, absent, got, Standing.hasAsked, Standing.onCourse, Standing.hasFailed,
        Standing.isCalling]
  | takeInTurn inLine _ found =>
    obtain ⟨held, -⟩ := State.validToken?_eq_some_iff.mp found
    have got := stage.eq_of_held held
    apply h.of_bystander made rfl <;>
      simp [Fetch.after, Move.caller, inLine, got, Standing.hasAsked, Standing.onCourse,
        Standing.hasFailed, Standing.isCalling]
  | @refuse c _ here | @enter c here =>
    have mem : c ∈ cs := inside.mpr rfl
    apply h.of_bystander made rfl rfl <;>
      simp [Move.caller, here, mem, Standing.hasAsked, Standing.onCourse, Standing.hasFailed]
  | ask inLine first none =>
    exact h.asked (inside.mpr rfl) inLine first none fun t got => lasts t got _ List.mem_cons_self
  | fail | accept => cases outcome
  | store => exact h.stored made
  -- the callers do not make the other moves
  | @drop c =>
    have outside : c ∉ cs := fun mem => Bool.noConfusion (inside.mp mem)
    have idle := Standing.hasAsked_eq_false_of_isCalling_eq_false (h.others c outside)
    apply h.of_bystander made rfl (h.coherent.underway.amend_givenUp_eq idle) idle <;>
      simp [Move.caller, outside, Standing.hasAsked, Standing.isCalling]
  | @inquire c absent =>
    have outside : c ∉ cs := fun mem => Bool.noConfusion (inside.mp mem)
    by_cases empty : χ.state.line = [] <;> apply h.of_bystander made rfl rfl <;>
      simp [Move.caller, outside, absent, empty, Standing.hasAsked, Standing.isCalling]
  | @report c _ inquiring =>
    have outside : c ∉ cs := fun mem => Bool.noConfusion (inside.mp mem)
    apply h.of_bystander made rfl rfl <;>
      simp [Move.caller, outside, inquiring, Standing.hasAsked, Standing.isCalling]

theorem outcome?_eq_none (h : Course a cs before (some t) k χ) (nodup : cs.Nodup)
    (step : Step a χ.state m s') : m.outcome? = none := by
  cases outcome : m.outcome? with
  | none => rfl
  | some answer =>
    cases answer with
    | error => cases (h.refused nodup step outcome).1
    | ok => cases (h.accepted step outcome).1

end Course

end TableCatalog.Credential
