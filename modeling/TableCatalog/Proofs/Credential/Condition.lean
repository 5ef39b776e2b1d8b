import TableCatalog.Proofs.Credential.Chronicle
import TableCatalog.Proofs.Credential.Sharing
import TableCatalog.Proofs.Credential.SingleFlight

/-!
# What is told of an accessor

Whoever wants to know the condition of an accessor looks whether someone has the turn, and if nobody
has, at the token that is held. While a request is in flight, its caller has the turn, and whoever
begins to ask is told of the refresh. Whoever began to ask before, and found that nobody had the
turn, has missed it: what they are told follows from the tokens that were stored so far. When no
call for a token is pending, nobody has the turn, and what is told follows from the requests that
were made: from the last token that was stored, if there is one, and the clock. Calls that store
nothing leave no trace in it.
-/

namespace TableCatalog.Credential

/-! ## Calls that might as well not have been made

Only storing a token has a lasting effect on an accessor. If those callers are left out of a run who
store nothing, because their requests fail or are refused, because they give up, or because they
only want to know the condition, what is left is a run, and it leads to the same accessor without
them. Whoever stays has the same standing, but that a caller who was told that a token is being
refreshed might now have found that nobody has the turn.
-/

variable {a : TokenAccess} {s s' s₁ : State} {χ χ' : Chronicle} {m : Move} {keep : Caller → Bool}
variable {c : Caller} {κ : Condition} {margin : Duration} {now : Instant} {fs : List Fetch}
variable {t : DataToken}

/-- A caller stands as before, or was told of a refresh that is not there any more. -/
inductive Standing.Remains : Standing → Standing → Prop
  | same {st : Standing} : Remains st st
  | unaware : Remains (.told .refreshing) .inquiring

/-- A state is another one without some of its callers. -/
structure State.Omits (keep : Caller → Bool) (s s₁ : State) : Prop where
  held : s₁.held = s.held
  line : s₁.line = s.line.filter keep
  standing : ∀ d, keep d = true → (s.standing d).Remains (s₁.standing d)

namespace State

namespace Omits

theorem validToken?_eq (h : s.Omits keep s₁) (margin : Duration) (now : Instant) :
    s₁.validToken? margin now = s.validToken? margin now := by
  rw [validToken?, validToken?, h.held]

theorem heldCondition_eq (h : s.Omits keep s₁) (margin : Duration) (now : Instant) :
    s₁.heldCondition margin now = s.heldCondition margin now := by
  rw [heldCondition, heldCondition, h.held]

/-- A caller who stays stands as before, unless it was told of a refresh. -/
theorem standing_eq (h : s.Omits keep s₁) (kept : keep c = true) {st : Standing}
    (stands : s.standing c = st) (other : st ≠ .told .refreshing) : s₁.standing c = st := by
  have remains := h.standing c kept
  rw [stands] at remains
  generalize s₁.standing c = st₁ at remains
  cases remains with
  | same => rfl
  | unaware => exact absurd rfl other

theorem head?_line (h : s.Omits keep s₁) (kept : keep c = true) (first : s.line.head? = some c) :
    s₁.line.head? = some c := by
  obtain ⟨rest, line⟩ := List.head?_eq_some_iff.mp first
  rw [h.line, line, List.filter_cons_of_pos kept]
  rfl

/-! #### What a caller who stays does -/

theorem withStanding (h : s.Omits keep s₁) {st st₁ : Standing} (remains : st.Remains st₁) :
    (s.withStanding c st).Omits keep (s₁.withStanding c st₁) where
  held := h.held
  line := h.line
  standing d kept := by
    by_cases own : d = c
    · subst own
      simpa using remains
    · simpa [own] using h.standing d kept

theorem enter (h : s.Omits keep s₁) (kept : keep c = true) :
    (s.enter c).Omits keep (s₁.enter c) where
  held := h.held
  line := by simp [h.line, List.filter_append, kept]
  standing := (h.withStanding .same).standing

theorem leave (h : s.Omits keep s₁) (st : Standing) :
    (s.leave c st).Omits keep (s₁.leave c st) where
  held := h.held
  line := by rw [leave_line, leave_line, h.line, List.erase_filter]
  standing := (h.withStanding .same).standing

theorem hold (h : s.Omits keep s₁) (t : DataToken) : (s.hold t).Omits keep (s₁.hold t) :=
  ⟨rfl, h.line, h.standing⟩

/-- **A caller who stays can make its moves without the others.** -/
theorem step (h : s.Omits keep s₁) (made : Step a s m s') (kept : keep m.caller = true) :
    ∃ s₁', Step a s₁ m s₁' ∧ s'.Omits keep s₁' := by
  cases made with
  | takeAtOnce absent valid =>
    refine ⟨_, .takeAtOnce (h.standing_eq kept absent nofun) ?_, h.withStanding .same⟩
    rwa [h.validToken?_eq]
  | refuse absent valid =>
    refine ⟨_, .refuse (h.standing_eq kept absent nofun) ?_, h.withStanding .same⟩
    rwa [h.validToken?_eq]
  | enter refused => exact ⟨_, .enter (h.standing_eq kept refused nofun), h.enter kept⟩
  | takeInTurn inLine first valid =>
    refine ⟨_, .takeInTurn (h.standing_eq kept inLine nofun) (h.head?_line kept first) ?_,
      h.leave _⟩
    rwa [h.validToken?_eq]
  | ask inLine first valid =>
    refine ⟨_, .ask (h.standing_eq kept inLine nofun) (h.head?_line kept first) ?_,
      h.withStanding .same⟩
    rwa [h.validToken?_eq]
  | fail fetching failed =>
    exact ⟨_, .fail (h.standing_eq kept fetching nofun) failed, h.leave _⟩
  | accept fetching accepted =>
    exact ⟨_, .accept (h.standing_eq kept fetching nofun) accepted, h.withStanding .same⟩
  | store storing =>
    exact ⟨_, .store (h.standing_eq kept storing nofun), (h.leave _).hold _⟩
  | drop => exact ⟨_, .drop, h.leave _⟩
  | inquire absent =>
    refine ⟨_, .inquire (h.standing_eq kept absent nofun), h.withStanding ?_⟩
    -- someone who has the turn may be left out, but nobody takes it instead
    by_cases free : s.line = []
    · rw [h.line, free, if_pos rfl, if_pos List.filter_nil]
      exact .same
    · rw [if_neg free]
      split
      · exact .unaware
      · exact .same
  | report inquiring =>
    refine ⟨_, .report (h.standing_eq kept inquiring nofun), ?_⟩
    rw [h.heldCondition_eq]
    exact h.withStanding .same

/-! #### What a caller who is left out does -/

end Omits

end State

namespace Chronicle

/-! ### Who is told, and when -/

/-- With a move, a caller who wants to know the condition is told it. -/
def Tells (a : TokenAccess) (χ : Chronicle) (m : Move) (κ : Condition) : Prop :=
  ∃ χ', χ.move? a m = some χ' ∧ χ'.state.standing m.caller = .told κ

end Chronicle

end TableCatalog.Credential
