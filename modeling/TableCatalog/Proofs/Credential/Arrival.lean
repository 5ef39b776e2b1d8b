import TableCatalog.Proofs.Credential.Chronicle

/-!
# Tokens on arrival

The metadata service says when a token ends as a number of milliseconds, which may be any number of
64 bits. A token that has ended is never accepted, and one that ends later is accepted with the end
that it was given, held and returned, up to the last millisecond that the calendar can represent.
Beyond it a token is refused as if it had ended, although its end is still to come.
-/

namespace TableCatalog

/-- The last millisecond since the beginning of 1970 that can be represented. -/
def Instant.lastMillis : Int := 8210266876799999

namespace DataToken

variable {g : TokenGrant} {now : Instant}

/-- A token whose end is still to come and can be represented is accepted with this end. -/
theorem exists_ofGrant_eq_ok (ahead : now.nanoseconds < g.expiresAtMillis.toInt * 1000000)
    (within : g.expiresAtMillis.toInt ≤ Instant.lastMillis) :
    ∃ t, ofGrant g now = .ok t ∧ t.options = g.token ∧
      t.expiresAt.nanoseconds = g.expiresAtMillis.toInt * 1000000 := by
  unfold Instant.lastMillis at within
  have first := now.first_le
  let expiresAt : Instant := ⟨g.expiresAtMillis.toInt * 1000000, by omega, by omega⟩
  have found : Instant.ofMillis? g.expiresAtMillis.toInt = some expiresAt :=
    Instant.ofNanoseconds?_eq_some_iff.mpr rfl
  exact ⟨⟨g.token, expiresAt⟩, ofGrant_eq_ok_iff.mpr ⟨⟨rfl, found⟩, ahead⟩, rfl, rfl⟩

/-- A token is refused if it has ended, or if its end cannot be represented. -/
theorem ofGrant_eq_expiredOnArrival (g : TokenGrant) (now : Instant)
    (refused : g.expiresAtMillis.toInt * 1000000 ≤ now.nanoseconds ∨
      Instant.lastMillis < g.expiresAtMillis.toInt) :
    ofGrant g now = .error (expiredOnArrival g) := by
  refine ofGrant_eq_error_iff.mpr ⟨rfl, fun i found => ?_⟩
  show ¬ now.nanoseconds < i.nanoseconds
  unfold Instant.lastMillis at refused
  have last := i.le_last
  have same := Instant.ofNanoseconds?_eq_some_iff.mp found
  omega

end DataToken

namespace Credential

variable {a : TokenAccess} {χ χ₁ : Chronicle} {c : Caller} {asked : Identifier} {t : DataToken}

/-- An accepted token is not lost: whatever others do in the meantime, its caller can store it, and
then it is held and returned. -/
theorem Chronicle.storing_is_stored (storing : χ₁.state.standing c = .storing t) {ms : List Move}
    {χ₂ : Chronicle} (others : ∀ m ∈ ms, m.caller ≠ c) (run : χ₁.run? a ms = some χ₂) :
    ∃ χ₃, χ₂.move? a (.store c) = some χ₃ ∧ χ₃.state.held = some t ∧
      χ₃.state.standing c = .returned (.ok t) := by
  have still : χ₂.state.standing c = .storing t :=
    (standing_eq_of_run others run).trans storing
  refine ⟨_, move?_eq_some_iff.mpr ⟨_, .store still, rfl⟩, rfl, ?_⟩
  simp

/-- **A token is refused on arrival if it has ended, or ends beyond what can be represented, and is
handed out otherwise.** Whatever the margin and the clock, the answer to a request is refused
exactly if its end is not later than the present instant or lies behind the last millisecond that
can be represented. All others are accepted as they are, and whatever other callers do, the caller
stores and returns the token with the end that it was given. -/
theorem refused_on_arrival_iff (waits : χ.state.standing c = .fetching asked) (g : TokenGrant)
    (now later : Instant) :
    ∃ χ₁, χ.move? a (.receive c (.ok g) now later) = some χ₁ ∧
      (χ₁.state.standing c = .returned (.error ⟨a.identifier, DataToken.expiredOnArrival g⟩) ↔
        g.expiresAtMillis.toInt * 1000000 ≤ now.nanoseconds ∨
          Instant.lastMillis < g.expiresAtMillis.toInt) ∧
      (now.nanoseconds < g.expiresAtMillis.toInt * 1000000 →
        g.expiresAtMillis.toInt ≤ Instant.lastMillis →
          ∃ t, t.options = g.token ∧
            t.expiresAt.nanoseconds = g.expiresAtMillis.toInt * 1000000 ∧
            χ₁.state.standing c = .storing t ∧
            ∀ ms χ₂, (∀ m ∈ ms, m.caller ≠ c) → χ₁.run? a ms = some χ₂ →
              ∃ χ₃, χ₂.move? a (.store c) = some χ₃ ∧ χ₃.state.held = some t ∧
                χ₃.state.standing c = .returned (.ok t)) := by
  by_cases refused : g.expiresAtMillis.toInt * 1000000 ≤ now.nanoseconds ∨
      Instant.lastMillis < g.expiresAtMillis.toInt
  · have fails := DataToken.ofGrant_eq_expiredOnArrival g now refused
    refine ⟨_, Chronicle.move?_eq_some_iff.mpr ⟨_, .fail waits fails, rfl⟩, ?_, ?_⟩
    · exact iff_of_true (by simp) refused
    · intro ahead within
      omega
  · have ahead : now.nanoseconds < g.expiresAtMillis.toInt * 1000000 := by omega
    have within : g.expiresAtMillis.toInt ≤ Instant.lastMillis := by omega
    obtain ⟨t, accepted, options, expiresAt⟩ := DataToken.exists_ofGrant_eq_ok ahead within
    refine ⟨_, Chronicle.move?_eq_some_iff.mpr ⟨_, .accept waits accepted, rfl⟩, ?_, ?_⟩
    · exact iff_of_false (by simp) refused
    · intro _ _
      have storing : (χ.state.withStanding c (.storing t)).standing c = .storing t := by simp
      refine ⟨t, options, expiresAt, storing, fun ms χ₂ others run => ?_⟩
      exact Chronicle.storing_is_stored storing others run

/-- A caller asks for a token. -/
def oneAsks : List Move :=
  [.begin 0 (Sample.second 0), .enter 0, .lookAgain 0 (Sample.second 1)]

/-- The token ends with the last millisecond that can be represented. -/
theorem refused_on_arrival_of_oneAsks :
    ∃ χ χ₁ t, Chronicle.blank.run? Sample.access oneAsks = some χ ∧
      χ.state.standing 0 = .fetching Sample.access.identifier ∧
      χ.move? Sample.access (.receive 0 (.ok (Sample.grant "last" 8210266876799999))
        (Sample.second 2) (Sample.second 2)) = some χ₁ ∧
      χ₁.state.standing 0 = .storing t ∧
      t.expiresAt.nanoseconds = 8210266876799999 * 1000000 := by
  obtain ⟨χ, run⟩ : ∃ χ, Chronicle.blank.run? Sample.access oneAsks = some χ := ⟨_, rfl⟩
  have waits : χ.state.standing 0 = .fetching Sample.access.identifier := by cases run; rfl
  obtain ⟨χ₁, made, -, accepted⟩ := refused_on_arrival_iff (a := Sample.access) waits
    (Sample.grant "last" 8210266876799999) (Sample.second 2) (Sample.second 2)
  obtain ⟨t, -, expiresAt, storing, -⟩ := accepted (by decide) (by decide)
  exact ⟨χ, χ₁, t, run, waits, made, storing, expiresAt⟩

/-- It is not so that only a token which has ended is refused: one that never ends is, too. -/
theorem endless_token_is_refused :
    ¬ ∀ (a : TokenAccess) (ms : List Move) (χ χ₁ : Chronicle) (c : Caller) (asked : Identifier)
      (g : TokenGrant) (now later : Instant), Chronicle.blank.run? a ms = some χ →
      χ.state.standing c = .fetching asked →
      χ.move? a (.receive c (.ok g) now later) = some χ₁ →
      (χ₁.state.standing c = .returned (.error ⟨a.identifier, DataToken.expiredOnArrival g⟩) ↔
        g.expiresAtMillis.toInt * 1000000 ≤ now.nanoseconds) := by
  intro onlyEnded
  have ended := (onlyEnded Sample.access oneAsks _ _ 0 _ (Sample.grant "endless" Int64.maxValue)
    (Sample.second 2) (Sample.second 2) rfl rfl rfl).mp rfl
  exact absurd ended (by decide)

end Credential

end TableCatalog
