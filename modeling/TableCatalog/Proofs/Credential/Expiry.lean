import TableCatalog.Config.Basic
import TableCatalog.Credential.Accessor

/-!
# When a token ends

Whether a token ends within a margin is decided with a span that is cut off and with an instant that
need not be representable. Neither shows: `expiresWithin_iff` compares plain numbers of nanoseconds.
From it follows that a token which does not end within a margin has not ended, and that an accepted
token has the options and the end that the metadata service gave it.
-/

namespace TableCatalog

/-- An instant that can be represented is found again by its nanoseconds, and only that one is. -/
theorem Instant.ofNanoseconds?_eq_some_iff {n : Int} {i : Instant} :
    Instant.ofNanoseconds? n = some i ↔ i.nanoseconds = n := by
  constructor
  · intro h
    unfold Instant.ofNanoseconds? at h
    split at h
    · cases h; rfl
    · cases h
  · rintro rfl
    exact dif_pos ⟨i.first_le, i.le_last⟩

theorem Instant.ofNanoseconds?_eq_none_iff {n : Int} :
    Instant.ofNanoseconds? n = none ↔
      n < -8334601228800000 * 1000000 ∨ 8210266876799999 * 1000000 + 999999 < n := by
  unfold Instant.ofNanoseconds?
  split
  · next h =>
    refine ⟨fun h' => (Option.some_ne_none _ h').elim, ?_⟩
    omega
  · next h =>
    refine ⟨fun _ => ?_, fun _ => rfl⟩
    omega

/-- A token has the options and the end that a grant says. -/
def TokenGrant.Yields (g : TokenGrant) (t : DataToken) : Prop :=
  t.options = g.token ∧ Instant.ofMillis? g.expiresAtMillis.toInt = some t.expiresAt

namespace DataToken

/-- To cut a margin off makes no difference: a span that is cut off leads from the first instant to
behind the last one. -/
theorem reached_asStep_iff (t : DataToken) (now : Instant) (margin : Duration) :
    t.expiresAt.nanoseconds ≤ now.nanoseconds + margin.asStep.nanoseconds ↔
      t.expiresAt.nanoseconds ≤ now.nanoseconds + margin.nanoseconds := by
  have first := now.first_le
  have last := t.expiresAt.le_last
  have step : margin.asStep.nanoseconds = min margin.nanoseconds (9223372036854775807 * 1000000) :=
    rfl
  omega

/-- A deadline that cannot be represented lies behind the end of every token. -/
theorem reached_of_later?_eq_none (t : DataToken) {now : Instant} {d : Duration}
    (unreachable : now.later? d = none) :
    t.expiresAt.nanoseconds ≤ now.nanoseconds + d.nanoseconds := by
  have first := now.first_le
  have last := t.expiresAt.le_last
  have outside := Instant.ofNanoseconds?_eq_none_iff.mp unreachable
  omega

/-- Expiry compares plain numbers: neither the span that is cut off nor the deadline that cannot be
represented shows. -/
theorem expiresWithin_iff (t : DataToken) (now : Instant) (margin : Duration) :
    t.expiresWithin now margin = true ↔
      t.expiresAt.nanoseconds ≤ now.nanoseconds + margin.nanoseconds := by
  rw [← reached_asStep_iff]
  unfold expiresWithin
  split
  · next unreachable => exact iff_of_true rfl (reached_of_later?_eq_none t unreachable)
  · next deadline reached =>
    rw [decide_eq_true_eq, ← Instant.ofNanoseconds?_eq_some_iff.mp reached]
    rfl

/-- **Expiry is exact.** Whether a token ends within a margin is a comparison of unbounded integers,
for all instants and all margins, those of configurations included. That a longer margin is cut off
and that a deadline which cannot be represented counts as passed never changes the answer. -/
theorem expiry_is_exact (t : DataToken) (now : Instant) (margin : Duration) :
    (t.expiresWithin now margin = true ↔
      now.nanoseconds + margin.nanoseconds ≥ t.expiresAt.nanoseconds) ∧
    (now.nanoseconds + margin.asStep.nanoseconds ≥ t.expiresAt.nanoseconds ↔
      now.nanoseconds + margin.nanoseconds ≥ t.expiresAt.nanoseconds) ∧
    (now.later? margin.asStep = none →
      now.nanoseconds + margin.nanoseconds ≥ t.expiresAt.nanoseconds) ∧
    ∀ c : CatalogConfig, t.expiresWithin now c.tokenRefreshMargin = true ↔
      now.nanoseconds + c.tokenRefreshMarginMs.toNat * 1000000 ≥ t.expiresAt.nanoseconds := by
  refine ⟨expiresWithin_iff t now margin, reached_asStep_iff t now margin, ?_, ?_⟩
  · intro unreachable
    rw [ge_iff_le, ← reached_asStep_iff]
    exact reached_of_later?_eq_none t unreachable
  · intro c
    rw [expiresWithin_iff]
    show _ ≤ now.nanoseconds + ((c.tokenRefreshMarginMs.toNat * 1000000 : Nat) : Int) ↔ _
    rw [Int.natCast_mul]
    rfl

/-- A token lasts beyond a margin, in plain numbers. -/
def Outlasts (t : DataToken) (now : Instant) (margin : Duration) : Prop :=
  now.nanoseconds + margin.nanoseconds < t.expiresAt.nanoseconds

theorem outlasts_iff {t : DataToken} {now : Instant} {margin : Duration} :
    t.Outlasts now margin ↔ t.expiresWithin now margin = false := by
  rw [← Bool.not_eq_true, expiresWithin_iff]
  unfold Outlasts
  omega

/-- A token that does not end within a margin has not ended. -/
theorem Outlasts.lt_expiresAt {t : DataToken} {now : Instant} {margin : Duration}
    (h : t.Outlasts now margin) : now < t.expiresAt := by
  unfold Outlasts at h
  show now.nanoseconds < t.expiresAt.nanoseconds
  omega

/-- A token is accepted as it was granted, if its end is still to come. -/
theorem ofGrant_eq_ok_iff {g : TokenGrant} {now : Instant} {t : DataToken} :
    ofGrant g now = .ok t ↔ g.Yields t ∧ now < t.expiresAt := by
  unfold ofGrant TokenGrant.Yields
  split
  · next expiresAt found =>
    rw [found]
    split
    · next ahead =>
      constructor
      · intro h
        cases h
        exact ⟨⟨rfl, rfl⟩, ahead⟩
      · rintro ⟨⟨options, same⟩, -⟩
        obtain ⟨_, _⟩ := t
        cases options
        cases same
        rfl
    · next behind =>
      refine ⟨fun h => (by cases h), ?_⟩
      rintro ⟨⟨-, same⟩, ahead⟩
      cases same
      exact absurd ahead behind
  · next found =>
    rw [found]
    refine ⟨fun h => (by cases h), ?_⟩
    rintro ⟨⟨-, same⟩, -⟩
    cases same

/-- A token that is not accepted had ended when it arrived, and nothing else is said of it. -/
theorem ofGrant_eq_error_iff {g : TokenGrant} {now : Instant} {e : Failure} :
    ofGrant g now = .error e ↔
      e = expiredOnArrival g ∧
        ∀ i, Instant.ofMillis? g.expiresAtMillis.toInt = some i → ¬ now < i := by
  unfold ofGrant
  split
  · next expiresAt found =>
    rw [found]
    split
    · next ahead =>
      refine ⟨fun h => (by cases h), ?_⟩
      rintro ⟨-, behind⟩
      exact absurd ahead (behind expiresAt rfl)
    · next behind =>
      constructor
      · intro h
        cases h
        exact ⟨rfl, fun i same => Option.some.inj same ▸ behind⟩
      · rintro ⟨rfl, -⟩
        rfl
  · next found =>
    rw [found]
    constructor
    · intro h
      cases h
      exact ⟨rfl, fun i none => (by cases none)⟩
    · rintro ⟨rfl, -⟩
      rfl

end DataToken

end TableCatalog
