import TableCatalog.Credential.Accessor
import TableCatalog.Proofs.Credential.Expiry

/-!
# The turn to fetch

What a move can do to an accessor is said once, as the relation `Step` with a rule for each outcome.
Everything else about moves goes by cases on these rules.

The line is orderly (`State.Orderly`) when nobody stands in it twice, when those who stand in it are
those who wait or have the turn, and when whoever has asked the metadata service stands first.
Every move keeps it so, and therefore no two callers have asked at once.
-/

namespace TableCatalog.Credential

/-- The caller who makes a move. -/
def Move.caller : Move → Caller
  | .begin c _ | .enter c | .lookAgain c _ | .receive c _ _ _ | .store c | .drop c | .inquire c
  | .report c _ => c

namespace Standing

/-- The caller has a place in the line. -/
def isLined : Standing → Bool
  | .inLine | .fetching _ | .storing _ => true
  | .absent | .refused | .returned _ | .inquiring | .told _ => false

/-- The caller has asked for a token and has not let the turn go. -/
def hasAsked : Standing → Bool
  | .fetching _ | .storing _ => true
  | .absent | .refused | .inLine | .returned _ | .inquiring | .told _ => false

theorem hasAsked_eq_false_of_isLined_eq_false {st : Standing} (h : st.isLined = false) :
    st.hasAsked = false := by
  cases st <;> first | rfl | cases h

end Standing

namespace State

@[simp] theorem withStanding_held (s : State) (c : Caller) (st : Standing) :
    (s.withStanding c st).held = s.held := rfl

@[simp] theorem withStanding_line (s : State) (c : Caller) (st : Standing) :
    (s.withStanding c st).line = s.line := rfl

@[simp] theorem withStanding_self (s : State) (c : Caller) (st : Standing) :
    (s.withStanding c st).standing c = st := if_pos rfl

@[simp] theorem withStanding_of_ne (s : State) {c d : Caller} (st : Standing) (h : d ≠ c) :
    (s.withStanding c st).standing d = s.standing d := if_neg h

@[simp] theorem enter_held (s : State) (c : Caller) : (s.enter c).held = s.held := rfl

@[simp] theorem enter_line (s : State) (c : Caller) : (s.enter c).line = s.line ++ [c] := rfl

@[simp] theorem enter_standing (s : State) (c : Caller) :
    (s.enter c).standing = (s.withStanding c .inLine).standing := rfl

@[simp] theorem leave_held (s : State) (c : Caller) (st : Standing) :
    (s.leave c st).held = s.held := rfl

@[simp] theorem leave_line (s : State) (c : Caller) (st : Standing) :
    (s.leave c st).line = s.line.erase c := rfl

@[simp] theorem leave_standing (s : State) (c : Caller) (st : Standing) :
    (s.leave c st).standing = (s.withStanding c st).standing := rfl

@[simp] theorem hold_held (s : State) (t : DataToken) : (s.hold t).held = some t := rfl

@[simp] theorem hold_line (s : State) (t : DataToken) : (s.hold t).line = s.line := rfl

@[simp] theorem hold_standing (s : State) (t : DataToken) :
    (s.hold t).standing = s.standing := rfl

theorem hasTurn_iff {s : State} {c : Caller} : s.hasTurn c = true ↔ s.line.head? = some c := by
  simp [hasTurn]

theorem validToken?_eq_some_iff {s : State} {margin : Duration} {now : Instant} {t : DataToken} :
    s.validToken? margin now = some t ↔
      s.held = some t ∧ t.expiresWithin now margin = false := by
  simp [validToken?, Option.filter_eq_some_iff]

theorem validToken?_of_outlasts {s : State} {margin : Duration} {now : Instant} {t : DataToken}
    (held : s.held = some t) (lasts : t.Outlasts now margin) : s.validToken? margin now = some t :=
  validToken?_eq_some_iff.mpr ⟨held, DataToken.outlasts_iff.mp lasts⟩

/-- No token is held that lasts beyond a margin. -/
def Lacking (s : State) (now : Instant) (margin : Duration) : Prop :=
  ∀ t, s.held = some t → t.expiresAt.nanoseconds ≤ now.nanoseconds + margin.nanoseconds

theorem lacking_of_validToken?_eq_none {s : State} {margin : Duration} {now : Instant}
    (h : s.validToken? margin now = none) : s.Lacking now margin := by
  intro t held
  rw [validToken?, held, Option.filter_eq_none_iff] at h
  apply (DataToken.expiresWithin_iff t now margin).mp
  simpa using h t rfl

end State

/-! ## What a move can do -/

/-- A move leads from one state to another. -/
inductive Step (a : TokenAccess) (s : State) : Move → State → Prop
  | takeAtOnce {c : Caller} {now : Instant} {t : DataToken} :
      s.standing c = .absent → s.validToken? a.refreshMargin now = some t →
      Step a s (.begin c now) (s.withStanding c (.returned (.ok t)))
  | refuse {c : Caller} {now : Instant} :
      s.standing c = .absent → s.validToken? a.refreshMargin now = none →
      Step a s (.begin c now) (s.withStanding c .refused)
  | enter {c : Caller} : s.standing c = .refused → Step a s (.enter c) (s.enter c)
  | takeInTurn {c : Caller} {now : Instant} {t : DataToken} :
      s.standing c = .inLine → s.line.head? = some c →
      s.validToken? a.refreshMargin now = some t →
      Step a s (.lookAgain c now) (s.leave c (.returned (.ok t)))
  | ask {c : Caller} {now : Instant} :
      s.standing c = .inLine → s.line.head? = some c →
      s.validToken? a.refreshMargin now = none →
      Step a s (.lookAgain c now) (s.withStanding c (.fetching a.identifier))
  | fail {c : Caller} {asked : Identifier} {answer : Except Failure TokenGrant}
      {now later : Instant} {e : Failure} :
      s.standing c = .fetching asked →
      (answer.bind fun g => DataToken.ofGrant g now) = .error e →
      Step a s (.receive c answer now later) (s.leave c (.returned (.error ⟨a.identifier, e⟩)))
  | accept {c : Caller} {asked : Identifier} {g : TokenGrant} {now later : Instant}
      {t : DataToken} :
      s.standing c = .fetching asked → DataToken.ofGrant g now = .ok t →
      Step a s (.receive c (.ok g) now later) (s.withStanding c (.storing t))
  | store {c : Caller} {t : DataToken} : s.standing c = .storing t →
      Step a s (.store c) ((s.leave c (.returned (.ok t))).hold t)
  | drop {c : Caller} : Step a s (.drop c) (s.leave c .absent)
  | inquire {c : Caller} : s.standing c = .absent →
      Step a s (.inquire c)
        (s.withStanding c (if s.line = [] then .inquiring else .told .refreshing))
  | report {c : Caller} {now : Instant} : s.standing c = .inquiring →
      Step a s (.report c now)
        (s.withStanding c (.told (s.heldCondition a.refreshMargin now)))

variable {a : TokenAccess} {s s' : State} {m : Move}

/-- The machine makes exactly the moves that the rules describe. -/
theorem step?_iff : (step? a s m).map (·.1) = some s' ↔ Step a s m s' := by
  constructor
  · intro h
    obtain ⟨⟨_, events⟩, made, rfl⟩ := Option.map_eq_some_iff.mp h
    cases m with
    | begin c now =>
      simp only [step?] at made
      split at made
      · next absent =>
        split at made
        · next t valid => cases made; exact .takeAtOnce absent valid
        · next valid => cases made; exact .refuse absent valid
      · cases made
    | enter c =>
      simp only [step?] at made
      split at made
      · next refused => cases made; exact .enter refused
      · cases made
    | lookAgain c now =>
      simp only [step?] at made
      split at made
      · next inLine first =>
        have first := State.hasTurn_iff.mp first
        split at made
        · next t valid => cases made; exact .takeInTurn inLine first valid
        · next valid => cases made; exact .ask inLine first valid
      · cases made
    | receive c answer now later =>
      simp only [step?] at made
      split at made
      · next asked fetching =>
        split at made
        · next e failed => cases made; exact .fail fetching failed
        · next t accepted =>
          cases made
          cases answer with
          | error e => cases accepted
          | ok g => exact .accept fetching accepted
      · cases made
    | store c =>
      simp only [step?] at made
      split at made
      · next t storing => cases made; exact .store storing
      · cases made
    | drop c => cases made; exact .drop
    | inquire c =>
      simp only [step?] at made
      split at made
      · next absent => cases made; exact .inquire absent
      · cases made
    | report c now =>
      simp only [step?] at made
      split at made
      · next inquiring => cases made; exact .report inquiring
      · cases made
  · intro h
    cases h with
    | takeAtOnce absent valid => simp [step?, absent, valid]
    | refuse absent valid => simp [step?, absent, valid]
    | enter refused => simp [step?, refused]
    | takeInTurn inLine first valid =>
      simp [step?, inLine, State.hasTurn_iff.mpr first, valid]
    | ask inLine first valid => simp [step?, inLine, State.hasTurn_iff.mpr first, valid]
    | fail fetching failed => simp [step?, fetching, failed]
    | accept fetching accepted => simp [step?, fetching, Except.bind, accepted]
    | store storing => simp [step?, storing]
    | drop => rfl
    | inquire absent => simp [step?, absent]
    | report inquiring => simp [step?, inquiring]

theorem Step.standing_of_ne (h : Step a s m s') {d : Caller} (ne : d ≠ m.caller) :
    s'.standing d = s.standing d := by
  cases h <;> exact if_neg ne

/-- Whoever has asked stands as before when somebody moves who has not. -/
theorem Step.standing_of_hasAsked (h : Step a s m s')
    (before : (s.standing m.caller).hasAsked = false) {d : Caller}
    (asked : (s.standing d).hasAsked = true) : s'.standing d = s.standing d := by
  apply h.standing_of_ne
  rintro rfl
  exact Bool.false_ne_true (before.symm.trans asked)

theorem Step.idle (h : Step a s m s') (idle : ∀ d, (s.standing d).hasAsked = false)
    (after : (s'.standing m.caller).hasAsked = false) (d : Caller) :
    (s'.standing d).hasAsked = false := by
  by_cases own : d = m.caller
  · rw [own, after]
  · rw [h.standing_of_ne own, idle d]

/-- **Only storing changes the token that is held**, and the caller who stores it returns it. -/
theorem Step.held_eq (h : Step a s m s') :
    s'.held = s.held ∨ ∃ c t, m = .store c ∧ s.standing c = .storing t ∧ s'.held = some t ∧
      s'.standing c = .returned (.ok t) := by
  cases h with
  | @store c t storing => exact .inr ⟨c, t, rfl, storing, rfl, by simp⟩
  | _ => exact .inl rfl

/-! ## The line -/

/-- The line is orderly. -/
structure State.Orderly (s : State) : Prop where
  nodup : s.line.Nodup
  mem_line_iff : ∀ c, c ∈ s.line ↔ (s.standing c).isLined = true
  first : ∀ c, (s.standing c).hasAsked = true → s.line.head? = some c

namespace State.Orderly

theorem atRest (held : Option DataToken) : (State.atRest held).Orderly where
  nodup := List.nodup_nil
  mem_line_iff _ := ⟨fun h => (List.not_mem_nil h).elim, fun h => (by cases h)⟩
  first _ h := by cases h

/-- A caller who keeps its place, or keeps having none, may ask only when it stands first. -/
theorem withStanding (hs : s.Orderly) {c : Caller} {st : Standing}
    (place : st.isLined = (s.standing c).isLined)
    (first : st.hasAsked = true → s.line.head? = some c) : (s.withStanding c st).Orderly where
  nodup := hs.nodup
  mem_line_iff d := by
    by_cases same : d = c
    · subst same
      simp [hs.mem_line_iff, place]
    · simp [hs.mem_line_iff, same]
  first d asked := by
    by_cases same : d = c
    · subst same
      exact first (by simpa using asked)
    · exact hs.first d (by simpa [same] using asked)

theorem enter (hs : s.Orderly) {c : Caller} (outside : (s.standing c).isLined = false) :
    (s.enter c).Orderly where
  nodup := by
    have absent : c ∉ s.line := by simp [hs.mem_line_iff, outside]
    simpa [List.nodup_append, hs.nodup] using fun d hd => ne_of_mem_of_not_mem hd absent
  mem_line_iff d := by
    by_cases same : d = c
    · subst same
      simp [Standing.isLined]
    · simp [hs.mem_line_iff, same]
  first d asked := by
    have ne : d ≠ c := by
      rintro rfl
      simp [Standing.hasAsked] at asked
    have front := hs.first d (by simpa [ne] using asked)
    simp [List.head?_append, front]

/-- A caller leaves the line, and whoever has asked still stands first. -/
theorem leave (hs : s.Orderly) {c : Caller} {st : Standing} (outside : st.isLined = false) :
    (s.leave c st).Orderly where
  nodup := hs.nodup.erase c
  mem_line_iff d := by
    by_cases same : d = c
    · subst same
      simp [hs.nodup.mem_erase_iff, outside]
    · simp [hs.nodup.mem_erase_iff, hs.mem_line_iff, same]
  first d asked := by
    -- the one who leaves is not the one who has asked, who keeps the first place
    have ne : d ≠ c := by
      rintro rfl
      rw [leave_standing, withStanding_self] at asked
      simp [Standing.hasAsked_eq_false_of_isLined_eq_false outside] at asked
    have front := hs.first d (by simpa [ne] using asked)
    obtain ⟨rest, line⟩ := List.head?_eq_some_iff.mp front
    simp [line, ne]

theorem hold (hs : s.Orderly) (t : DataToken) : (s.hold t).Orderly :=
  ⟨hs.nodup, hs.mem_line_iff, hs.first⟩

/-- **Every move keeps the line orderly.** -/
theorem step (hs : s.Orderly) (h : Step a s m s') : s'.Orderly := by
  cases h with
  | takeAtOnce absent => exact hs.withStanding (by rw [absent]; rfl) (fun h => by cases h)
  | refuse absent => exact hs.withStanding (by rw [absent]; rfl) (fun h => by cases h)
  | enter refused => exact hs.enter (by rw [refused]; rfl)
  | takeInTurn => exact hs.leave rfl
  | ask inLine first => exact hs.withStanding (by rw [inLine]; rfl) (fun _ => first)
  | fail => exact hs.leave rfl
  | accept fetching =>
    exact hs.withStanding (by rw [fetching]; rfl) fun _ => hs.first _ (by rw [fetching]; rfl)
  | store => exact (hs.leave rfl).hold _
  | drop => exact hs.leave rfl
  | inquire absent =>
    split
    · exact hs.withStanding (by rw [absent]; rfl) (fun h => by cases h)
    · exact hs.withStanding (by rw [absent]; rfl) (fun h => by cases h)
  | report inquiring => exact hs.withStanding (by rw [inquiring]; rfl) (fun h => by cases h)

theorem eq_of_hasAsked (hs : s.Orderly) {c d : Caller} (hc : (s.standing c).hasAsked = true)
    (hd : (s.standing d).hasAsked = true) : c = d :=
  Option.some.inj ((hs.first c hc).symm.trans (hs.first d hd))

/-- Two standings of callers who have asked are those of one caller. -/
theorem same_asker (hs : s.Orderly) {c d : Caller} {st st' : Standing} (hc : s.standing c = st)
    (hd : s.standing d = st') (asked : st.hasAsked = true) (asked' : st'.hasAsked = true) :
    c = d ∧ st = st' := by
  subst hc hd
  have same := hs.eq_of_hasAsked asked asked'
  exact ⟨same, congrArg s.standing same⟩

theorem not_hasAsked_of_first (hs : s.Orderly) {c : Caller} (first : s.line.head? = some c)
    (inLine : s.standing c = .inLine) (d : Caller) : (s.standing d).hasAsked = false := by
  cases asked : (s.standing d).hasAsked with
  | false => rfl
  | true =>
    have same : d = c := Option.some.inj ((hs.first d asked).symm.trans first)
    rw [same, inLine] at asked
    cases asked

/-- When the caller who has asked lets the turn go, nobody has asked. -/
theorem idle_after (hs : s.Orderly) (h : Step a s m s')
    (before : (s.standing m.caller).hasAsked = true)
    (after : (s'.standing m.caller).hasAsked = false) (d : Caller) :
    (s'.standing d).hasAsked = false := by
  by_cases same : d = m.caller
  · rw [same, after]
  · rw [h.standing_of_ne same]
    cases asked : (s.standing d).hasAsked with
    | false => rfl
    | true => exact absurd (hs.eq_of_hasAsked asked before) same

theorem inLine_of_mem (hs : s.Orderly) {c : Caller} (mem : c ∈ s.line)
    (idle : (s.standing c).hasAsked = false) : s.standing c = .inLine := by
  have lined := (hs.mem_line_iff c).mp mem
  cases standing : s.standing c with
  | inLine => rfl
  | fetching | storing => simp [standing, Standing.hasAsked] at idle
  | _ => simp [standing, Standing.isLined] at lined

end State.Orderly

end TableCatalog.Credential
