import TableCatalog.Credential.Polling
import TableCatalog.Proofs.Credential.Chronicle

/-!
# Where a result comes from

There are three ways to a token: a caller takes the one that is held when it begins, or when it has
its turn, or it fetches one. On each of them the token is one whole answer of the metadata service
to a request for the table of the accessor, and had not ended at some reading of the clock that the
caller took during the call. The margin plays no part in it.
-/

namespace TableCatalog.Credential

variable {a : TokenAccess} {s s' : State} {m : Move} {fs : List Fetch} {t : DataToken}

/-! ## The answer behind a token -/

theorem Fetch.mem_after_of_stored (hs : s.Orderly) (hu : Underway s fs) (h : Step a s m s')
    {f : Fetch} {g : TokenGrant} (stored : f.fate = .stored g t) (mem : f ∈ fs) :
    f ∈ after fs s' m := by
  cases h with
  | takeAtOnce | refuse | enter | inquire | report => exact mem
  | takeInTurn => simpa [after] using mem
  | ask => simpa [after] using .inr mem
  | fail fetching | accept fetching =>
    obtain ⟨rest, rfl, -⟩ := hu.of_fetching hs fetching
    rcases List.mem_cons.mp mem with rfl | mem
    · cases stored
    · rw [after, amend_cons_self]
      exact List.mem_cons_of_mem _ mem
  | store => exact mem_amend_of_mem mem (by rw [stored]; rfl)
  | drop => exact mem_amend_of_mem mem (by rw [stored]; rfl)

theorem Fetch.exists_stored_of_latestStored_eq (h : latestStored fs = some t) :
    ∃ f ∈ fs, ∃ g, f.fate = .stored g t := by
  obtain ⟨f, mem, stored⟩ := List.exists_of_findSome?_eq_some h
  refine ⟨f, mem, ?_⟩
  cases fate : f.fate with
  | stored g t' =>
    rw [fate] at stored
    cases stored
    exact ⟨g, rfl⟩
  | _ =>
    rw [fate] at stored
    cases stored

/-- A caller who gets a token leaves it as the one that is held. -/
theorem Step.held_of_returned (h : Step a s m s')
    (returned : s'.standing m.caller = .returned (.ok t)) : s'.held = some t := by
  cases h with
  | takeAtOnce _ found | takeInTurn _ _ found =>
    obtain ⟨held, -⟩ := State.validToken?_eq_some_iff.mp found
    simp [Move.caller] at returned
    exact held.trans (congrArg some returned)
  | store =>
    simp [Move.caller] at returned
    exact congrArg some returned
  | inquire =>
    simp [Move.caller] at returned
    split at returned <;> cases returned
  | _ => simp [Move.caller] at returned

namespace Chronicle

/-- The answer that a request was accepted with is one that its caller received. -/
def Answered (ms : List Move) (f : Fetch) : Prop :=
  ∀ g t, f.fate = .accepted g t ∨ f.fate = .stored g t →
    ∃ now later, .receive f.caller (.ok g) now later ∈ ms

theorem answered_after {ms : List Move} (answered : ∀ f ∈ fs, Answered ms f) (mem : m ∈ ms)
    (h : Step a s m s') : ∀ f ∈ Fetch.after fs s' m, Answered ms f := by
  cases h with
  | takeAtOnce | refuse | enter | inquire | report => exact answered
  | takeInTurn => simpa [Fetch.after] using answered
  | ask =>
    simp only [Fetch.after, State.withStanding_self]
    refine List.forall_mem_cons.mpr ⟨?_, answered⟩
    rintro g t (same | same) <;> cases same
  | fail fetching failed =>
    refine Fetch.forall_mem_amend answered fun f _ _ g t fate => ?_
    simp [Fate.ofAnswer_of_error failed] at fate
  | @accept c _ g now later t' fetching accepted =>
    refine Fetch.forall_mem_amend answered fun f own _ g' t fate => ?_
    simp only [Fate.ofAnswer_of_ok accepted, Fate.accepted.injEq, reduceCtorEq, or_false] at fate
    obtain ⟨rfl, rfl⟩ := fate
    rw [own]
    exact ⟨now, later, mem⟩
  | store =>
    refine Fetch.forall_mem_amend answered fun f _ before g t fate => before g t ?_
    cases was : f.fate <;> simp_all [Fate.kept]
  | drop =>
    refine Fetch.forall_mem_amend answered fun f _ before g t fate => before g t ?_
    cases was : f.fate <;> simp_all [Fate.givenUp]

end Chronicle

/-! ## The time of a token -/

/-- The token that a caller has. -/
def Standing.token? : Standing → Option DataToken
  | .storing t | .returned (.ok t) => some t
  | _ => none

/-- A caller who has a token has it since its last move, which then found that the token had not
ended, or had it before. -/
theorem Step.unexpired (h : Step a s m s') (has : (s'.standing m.caller).token? = some t) :
    (∃ now ∈ m.readings, now < t.expiresAt) ∨
      m.isBeginning = false ∧ (s.standing m.caller).token? = some t := by
  cases h with
  | @takeAtOnce c now t' _ found | @takeInTurn c now t' _ _ found =>
    obtain rfl : t' = t := by simpa [Move.caller, Standing.token?] using has
    obtain ⟨-, lasts⟩ := State.validToken?_eq_some_iff.mp found
    refine .inl ⟨now, List.mem_cons_self, ?_⟩
    exact (DataToken.outlasts_iff.mpr lasts).lt_expiresAt
  | @accept c _ g now later t' _ accepted =>
    obtain rfl : t' = t := by simpa [Move.caller, Standing.token?] using has
    refine .inl ⟨now, by simp [Move.readings], ?_⟩
    exact (DataToken.ofGrant_eq_ok_iff.mp accepted).2
  | @store c t' storing =>
    obtain rfl : t' = t := by simpa [Move.caller, Standing.token?] using has
    exact .inr ⟨rfl, by simp [Move.caller, storing, Standing.token?]⟩
  | inquire =>
    simp [Move.caller] at has
    split at has <;> cases has
  | _ => simp [Move.caller, Standing.token?] at has

namespace Chronicle

theorem mem_readings_after {χ : Chronicle} {now : Instant}
    (h : now ∈ m.readings ∨ m.isBeginning = false ∧ now ∈ χ.readings m.caller) :
    now ∈ (χ.after m s').readings m.caller := by
  show now ∈ if m.caller = m.caller then _ else _
  rw [if_pos rfl, List.mem_append]
  rcases h with reading | ⟨later, reading⟩
  · exact .inl reading
  · rw [later]
    exact .inr reading

/-- What a run of moves says of the tokens of an accessor. -/
structure Vouched (ms : List Move) (χ : Chronicle) : Prop where
  answered : ∀ f ∈ χ.fetches, Answered ms f
  /-- A token that was returned is that of a request whose token was stored. -/
  stored : ∀ c t, χ.state.standing c = .returned (.ok t) →
    ∃ f ∈ χ.fetches, ∃ g, f.fate = .stored g t
  /-- A token that a caller has had not ended at a reading of the clock by that caller. -/
  unexpired : ∀ c t, (χ.state.standing c).token? = some t →
    ∃ now ∈ χ.readings c, now < t.expiresAt

variable {χ χ' : Chronicle} {ms : List Move}

theorem vouched_blank (ms : List Move) : blank.Vouched ms where
  answered _ mem := (List.not_mem_nil mem).elim
  stored _ _ returned := by cases returned
  unexpired _ _ has := by cases has

/-- **Every move keeps vouching for all tokens.** -/
theorem Vouched.move (hχ : χ.Coherent a) (hv : χ.Vouched ms) (mem : m ∈ ms)
    (h : χ.move? a m = some χ') : χ'.Vouched ms := by
  have hχ' := hχ.move h
  obtain ⟨s', step, rfl⟩ := move?_eq_some_iff.mp h
  refine ⟨answered_after hv.answered mem step, fun c t returned => ?_, fun c t has => ?_⟩
  · -- a token is returned while it is held, and what is held was stored
    by_cases same : c = m.caller
    · subst same
      apply Fetch.exists_stored_of_latestStored_eq
      rw [← hχ'.held]
      exact step.held_of_returned returned
    · have before := (step.standing_of_ne same).symm.trans returned
      obtain ⟨f, mem, g, stored⟩ := hv.stored c t before
      exact ⟨f, Fetch.mem_after_of_stored hχ.orderly hχ.underway step stored mem, g, stored⟩
  · by_cases same : c = m.caller
    · subst same
      rcases step.unexpired has with ⟨now, reading, ahead⟩ | ⟨later, before⟩
      · exact ⟨now, mem_readings_after (.inl reading), ahead⟩
      · obtain ⟨now, reading, ahead⟩ := hv.unexpired m.caller t before
        exact ⟨now, mem_readings_after (.inr ⟨later, reading⟩), ahead⟩
    · obtain ⟨now, reading, ahead⟩ := hv.unexpired c t (step.standing_of_ne same ▸ has)
      refine ⟨now, ?_, ahead⟩
      show now ∈ if c = m.caller then _ else _
      rw [if_neg same]
      exact reading

theorem Vouched.run (h : blank.run? a ms = some χ) : χ.Vouched ms := by
  suffices both : χ.Coherent a ∧ χ.Vouched ms from both.2
  apply run_induction (P := fun χ₁ => χ₁.Coherent a ∧ χ₁.Vouched ms) _ _ h
  · exact ⟨coherent_blank a, vouched_blank ms⟩
  · rintro χ₁ χ₂ m mem ⟨coherent, vouched⟩ made
    exact ⟨coherent.move made, vouched.move coherent mem made⟩

end Chronicle

/-! ## The options for the files -/

/-- The options for the files are those of one token, and those of the catalog where the token says
nothing. -/
theorem get?_fileOptions {r : Result} {o : Options} (h : fileOptions a r = .ok o) :
    ∃ t, r = .ok t ∧ ∀ k, o.get? k = (t.options.get? k).or (a.catalogOptions.get? k) := by
  cases r with
  | error e => cases h
  | ok t =>
    cases h
    exact ⟨t, rfl, NameMap.get?_overlay a.catalogOptions t.options⟩

/-! ## Whole and unexpired -/

/-- **Every token that is handed out is whole and unexpired.** In every run of an accessor, a token
that a call returns is what one answer granted, given to a request for the table of the accessor,
and it ends after some reading of the clock during that call. The options for the files mix it with
nothing but the options of the catalog. -/
theorem returned_token_is_whole_and_unexpired {ms : List Move} {χ : Chronicle}
    (h : Chronicle.blank.run? a ms = some χ) {c : Caller} {r : Result}
    (returned : χ.state.standing c = .returned r) :
    (∀ t, r = .ok t →
      (∃ f ∈ χ.fetches, ∃ g, f.asked = a.identifier ∧ f.fate = .stored g t ∧ g.Yields t ∧
        ∃ now later, .receive f.caller (.ok g) now later ∈ ms) ∧
      ∃ now ∈ χ.readings c, now < t.expiresAt) ∧
    ∀ o, fileOptions a r = .ok o →
      ∃ t, r = .ok t ∧ ∀ k, o.get? k = (t.options.get? k).or (a.catalogOptions.get? k) := by
  have hχ := (Chronicle.coherent_blank a).run h
  have vouched := Chronicle.Vouched.run h
  refine ⟨?_, fun o => get?_fileOptions⟩
  rintro t rfl
  obtain ⟨f, mem, g, stored⟩ := vouched.stored c t returned
  refine ⟨⟨f, mem, g, ?_, stored, ?_, ?_⟩, ?_⟩
  · exact (hχ.genuine f mem).asked
  · exact (hχ.genuine f mem).grant g t (.inr stored)
  · exact vouched.answered f mem g t (.inr stored)
  · exact vouched.unexpired c t (by rw [returned]; rfl)

/-- A caller gets a token that lasts for two seconds, far less than the margin of one minute. -/
def shortLived : List Move :=
  [.begin 0 (Sample.second 0), .enter 0, .lookAgain 0 (Sample.second 0),
    .receive 0 (.ok (Sample.grant "short" 2000)) (Sample.second 1) (Sample.second 3), .store 0]

theorem returned_token_of_shortLived :
    ∃ χ r o, Chronicle.blank.run? Sample.access shortLived = some χ ∧
      χ.state.standing 0 = .returned r ∧ fileOptions Sample.access r = .ok o ∧
      ∃ t, r = .ok t ∧ (∃ now ∈ χ.readings 0, now < t.expiresAt) ∧
        o.get? "secret" = (t.options.get? "secret").or
          (Sample.access.catalogOptions.get? "secret") := by
  obtain ⟨χ, run⟩ : ∃ χ, Chronicle.blank.run? Sample.access shortLived = some χ := ⟨_, rfl⟩
  obtain ⟨r, returned⟩ : ∃ r, χ.state.standing 0 = .returned r := by cases run; exact ⟨_, rfl⟩
  obtain ⟨o, options⟩ : ∃ o, fileOptions Sample.access r = .ok o := by
    cases run
    cases returned
    exact ⟨_, rfl⟩
  obtain ⟨token, files⟩ := returned_token_is_whole_and_unexpired run returned
  obtain ⟨t, rfl, values⟩ := files o options
  exact ⟨χ, .ok t, o, run, returned, options, t, rfl, (token t rfl).2, values "secret"⟩

end TableCatalog.Credential
