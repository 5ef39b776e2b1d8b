import TableCatalog.Proofs.Credential.Expiry
import TableCatalog.Proofs.Credential.Turn

/-!
# The history of an accessor

An accessor forgets the requests it has made. A chronicle is an accessor together with what was seen
of it from outside: every request for a token in the order of beginning, with what became of it, and
the readings of the clock that the present call of each caller has taken. The history is written
down from the moves alone and has no influence on them.

A chronicle is coherent (`Chronicle.Coherent`) when the line is orderly, when at most the latest
request is not settled and belongs to the caller who has asked, and when the token that is held is
the one of the latest request whose token was stored. Every run of moves keeps it so.
-/

namespace TableCatalog.Credential

/-- What became of a request for a token. -/
inductive Fate where
  /-- The metadata service has not answered yet. -/
  | inFlight
  /-- The answer was a failure, or a token that was not accepted. -/
  | refused (answer : Except Failure TokenGrant)
  /-- The answer was accepted, and its token is not held yet. -/
  | accepted (grant : TokenGrant) (token : DataToken)
  /-- The answer was accepted, and its token became the one that is held. -/
  | stored (grant : TokenGrant) (token : DataToken)
  /-- The caller gave up. -/
  | abandoned

namespace Fate

/-- What an answer makes of a request. -/
def ofAnswer (answer : Except Failure TokenGrant) (now : Instant) : Fate :=
  match answer with
  | .error _ => .refused answer
  | .ok g =>
    match DataToken.ofGrant g now with
    | .error _ => .refused answer
    | .ok t => .accepted g t

/-- What becomes of a request whose token is stored. -/
def kept : Fate → Fate
  | .accepted g t => .stored g t
  | fate => fate

/-- What becomes of a request whose caller gives up. -/
def givenUp : Fate → Fate
  | .inFlight | .accepted _ _ => .abandoned
  | fate => fate

/-- Nothing more becomes of a request. -/
def isSettled : Fate → Bool
  | .inFlight | .accepted _ _ => false
  | _ => true

def isInFlight : Fate → Bool
  | .inFlight => true
  | _ => false

/-- The token of a request, if it was stored. -/
def storedToken? : Fate → Option DataToken
  | .stored _ t => some t
  | _ => none

theorem ofAnswer_of_error {answer : Except Failure TokenGrant} {now : Instant} {e : Failure}
    (h : (answer.bind fun g => DataToken.ofGrant g now) = .error e) :
    ofAnswer answer now = .refused answer := by
  cases answer with
  | error => rfl
  | ok g =>
    have refused : DataToken.ofGrant g now = .error e := h
    simp only [ofAnswer, refused]

theorem ofAnswer_of_ok {g : TokenGrant} {now : Instant} {t : DataToken}
    (h : DataToken.ofGrant g now = .ok t) : ofAnswer (.ok g) now = .accepted g t := by
  simp only [ofAnswer, h]

theorem givenUp_of_isSettled {fate : Fate} (h : fate.isSettled = true) : fate.givenUp = fate := by
  cases fate <;> first | rfl | cases h

theorem storedToken?_givenUp (fate : Fate) : fate.givenUp.storedToken? = fate.storedToken? := by
  cases fate <;> rfl

end Fate

/-- A request for a token, and what became of it. -/
structure Fetch where
  caller : Caller
  /-- The table that a token was asked for. -/
  asked : Identifier
  fate : Fate

namespace Fetch

/-- Changes the fate of the latest request of a caller. -/
def amend (c : Caller) (f : Fate → Fate) : List Fetch → List Fetch
  | [] => []
  | x :: xs => if x.caller = c then { x with fate := f x.fate } :: xs else x :: amend c f xs

/-- The requests after a move that led to a state. A request is made by a caller who fetches when
it has looked again. -/
def after (fs : List Fetch) (s' : State) : Move → List Fetch
  | .lookAgain c _ =>
    match s'.standing c with
    | .fetching asked => ⟨c, asked, .inFlight⟩ :: fs
    | _ => fs
  | .receive c answer now _ => amend c (fun _ => .ofAnswer answer now) fs
  | .store c => amend c Fate.kept fs
  | .drop c => amend c Fate.givenUp fs
  | _ => fs

/-- The token of the latest request whose token was stored. -/
def latestStored (fs : List Fetch) : Option DataToken := fs.findSome? fun f => f.fate.storedToken?

@[simp] theorem amend_cons_self (c : Caller) (f : Fate → Fate) (asked : Identifier) (fate : Fate)
    (xs : List Fetch) : amend c f (⟨c, asked, fate⟩ :: xs) = ⟨c, asked, f fate⟩ :: xs :=
  if_pos rfl

theorem amend_eq_self {c : Caller} {f : Fate → Fate} {fs : List Fetch}
    (h : ∀ x ∈ fs, x.caller = c → f x.fate = x.fate) : amend c f fs = fs := by
  induction fs with
  | nil => rfl
  | cons x xs ih =>
    rw [amend]
    split
    · next own => rw [h x List.mem_cons_self own]
    · rw [ih fun y hy => h y (List.mem_cons_of_mem x hy)]

@[simp] theorem length_amend (c : Caller) (f : Fate → Fate) (fs : List Fetch) :
    (amend c f fs).length = fs.length := by
  induction fs with
  | nil => rfl
  | cons x xs ih =>
    rw [amend]
    split
    · rfl
    · rw [List.length_cons, ih, List.length_cons]

/-- What holds of every request holds after a change that keeps it. -/
theorem forall_mem_amend {P : Fetch → Prop} {c : Caller} {f : Fate → Fate} {fs : List Fetch}
    (h : ∀ x ∈ fs, P x) (keeps : ∀ x, x.caller = c → P x → P { x with fate := f x.fate }) :
    ∀ x ∈ amend c f fs, P x := by
  induction fs with
  | nil => exact h
  | cons x xs ih =>
    have hx := h x List.mem_cons_self
    have hxs : ∀ y ∈ xs, P y := fun y hy => h y (List.mem_cons_of_mem x hy)
    rw [amend]
    intro y hy
    split at hy
    · next own =>
      rcases List.mem_cons.mp hy with rfl | hy
      · exact keeps x own hx
      · exact hxs y hy
    · rcases List.mem_cons.mp hy with rfl | hy
      · exact hx
      · exact ih hxs y hy

theorem mem_amend_of_mem {c : Caller} {f : Fate → Fate} {fs : List Fetch} {x : Fetch}
    (hx : x ∈ fs) (fixed : f x.fate = x.fate) : x ∈ amend c f fs := by
  induction fs with
  | nil => exact hx
  | cons y ys ih =>
    rw [amend]
    rcases List.mem_cons.mp hx with rfl | hx
    · split
      · rw [fixed]; exact List.mem_cons_self
      · exact List.mem_cons_self
    · split
      · exact List.mem_cons_of_mem _ hx
      · exact List.mem_cons_of_mem _ (ih hx)

theorem latestStored_amend {c : Caller} {f : Fate → Fate}
    (h : ∀ fate, (f fate).storedToken? = fate.storedToken?) (fs : List Fetch) :
    latestStored (amend c f fs) = latestStored fs := by
  induction fs with
  | nil => rfl
  | cons x xs ih =>
    rw [amend]
    split
    · simp only [latestStored, List.findSome?_cons, h]
    · simp only [latestStored, List.findSome?_cons] at ih ⊢
      rw [ih]

end Fetch

/-! ## Which request is not settled -/

/-- At most the latest request is not settled, and its caller is the one who has asked. -/
inductive Underway (s : State) : List Fetch → Prop
  | idle {fs : List Fetch} : (∀ d, (s.standing d).hasAsked = false) →
      (∀ f ∈ fs, f.fate.isSettled = true) → Underway s fs
  | fetching {c : Caller} {asked : Identifier} {fs : List Fetch} :
      s.standing c = .fetching asked → (∀ f ∈ fs, f.fate.isSettled = true) →
      Underway s (⟨c, asked, .inFlight⟩ :: fs)
  | storing {c : Caller} {asked : Identifier} {g : TokenGrant} {t : DataToken}
      {fs : List Fetch} :
      s.standing c = .storing t → (∀ f ∈ fs, f.fate.isSettled = true) →
      Underway s (⟨c, asked, .accepted g t⟩ :: fs)

namespace Underway

variable {a : TokenAccess} {s s' : State} {m : Move} {fs : List Fetch}

theorem isSettled_of_idle (hu : Underway s fs) (idle : ∀ d, (s.standing d).hasAsked = false) :
    ∀ f ∈ fs, f.fate.isSettled = true := by
  cases hu with
  | idle _ settled => exact settled
  | @fetching c _ _ fetching => simpa [fetching, Standing.hasAsked] using idle c
  | @storing c _ _ _ _ storing => simpa [storing, Standing.hasAsked] using idle c

theorem isSettled_of_caller (hu : Underway s fs) {c : Caller}
    (before : (s.standing c).hasAsked = false) :
    ∀ f ∈ fs, f.caller = c → f.fate.isSettled = true := by
  intro f hf own
  cases hu with
  | idle _ settled => exact settled f hf
  | @fetching d _ _ fetching settled =>
    rcases List.mem_cons.mp hf with rfl | hf
    · simp [← own, fetching, Standing.hasAsked] at before
    · exact settled f hf
  | @storing d _ _ _ _ storing settled =>
    rcases List.mem_cons.mp hf with rfl | hf
    · simp [← own, storing, Standing.hasAsked] at before
    · exact settled f hf

/-- Nothing becomes of any request when a caller who has not asked gives up. -/
theorem amend_givenUp_eq (hu : Underway s fs) {c : Caller}
    (before : (s.standing c).hasAsked = false) : Fetch.amend c Fate.givenUp fs = fs := by
  apply Fetch.amend_eq_self
  intro f mem own
  exact Fate.givenUp_of_isSettled (hu.isSettled_of_caller before f mem own)

/-- The request of a caller who fetches is the latest one. -/
theorem of_fetching (hs : s.Orderly) (hu : Underway s fs) {c : Caller} {asked : Identifier}
    (h : s.standing c = .fetching asked) :
    ∃ rest, fs = ⟨c, asked, .inFlight⟩ :: rest ∧ ∀ f ∈ rest, f.fate.isSettled = true := by
  cases hu with
  | idle idle => simpa [h, Standing.hasAsked] using idle c
  | @fetching d asked' rest fetching settled =>
    obtain ⟨rfl, same⟩ := hs.same_asker fetching h rfl rfl
    cases same
    exact ⟨rest, rfl, settled⟩
  | storing storing =>
    obtain ⟨-, same⟩ := hs.same_asker storing h rfl rfl
    cases same

theorem of_storing (hs : s.Orderly) (hu : Underway s fs) {c : Caller} {t : DataToken}
    (h : s.standing c = .storing t) :
    ∃ asked g rest, fs = ⟨c, asked, .accepted g t⟩ :: rest ∧
      ∀ f ∈ rest, f.fate.isSettled = true := by
  cases hu with
  | idle idle => simpa [h, Standing.hasAsked] using idle c
  | fetching fetching =>
    obtain ⟨-, same⟩ := hs.same_asker fetching h rfl rfl
    cases same
  | @storing d asked g t' rest storing settled =>
    obtain ⟨rfl, same⟩ := hs.same_asker storing h rfl rfl
    cases same
    exact ⟨asked, g, rest, rfl, settled⟩

/-- A caller who has not asked, and does not ask with its move, leaves the requests as they are. -/
theorem of_bystander (hu : Underway s fs) (h : Step a s m s')
    (before : (s.standing m.caller).hasAsked = false)
    (after : (s'.standing m.caller).hasAsked = false) : Underway s' fs := by
  have others {d : Caller} (asked : (s.standing d).hasAsked = true) :=
    h.standing_of_hasAsked before asked
  cases hu with
  | idle idle settled => exact .idle (h.idle idle after) settled
  | fetching fetching settled =>
    exact .fetching ((others (congrArg Standing.hasAsked fetching)).trans fetching) settled
  | storing storing settled =>
    exact .storing ((others (congrArg Standing.hasAsked storing)).trans storing) settled

theorem isSettled_amend_givenUp (hs : s.Orderly) (hu : Underway s fs) {c : Caller}
    (asks : (s.standing c).hasAsked = true) :
    ∀ f ∈ Fetch.amend c Fate.givenUp fs, f.fate.isSettled = true := by
  cases hu with
  | idle idle => simp [idle c] at asks
  | @fetching d _ _ fetching settled =>
    have same : d = c := hs.eq_of_hasAsked (congrArg Standing.hasAsked fetching) asks
    subst same
    rw [Fetch.amend_cons_self]
    exact List.forall_mem_cons.mpr ⟨rfl, settled⟩
  | @storing d _ _ _ _ storing settled =>
    have same : d = c := hs.eq_of_hasAsked (congrArg Standing.hasAsked storing) asks
    subst same
    rw [Fetch.amend_cons_self]
    exact List.forall_mem_cons.mpr ⟨rfl, settled⟩

/-- **Every move keeps all but the latest request settled.** -/
theorem step (hs : s.Orderly) (hu : Underway s fs) (h : Step a s m s') :
    Underway s' (Fetch.after fs s' m) := by
  have made := h
  cases h with
  -- these callers have not asked, and do not ask
  | takeAtOnce here | refuse here | enter here | report here =>
    apply hu.of_bystander made (congrArg Standing.hasAsked here)
    simp [Move.caller, Standing.hasAsked]
  | inquire here =>
    apply hu.of_bystander made (congrArg Standing.hasAsked here)
    split <;> simp [Move.caller, Standing.hasAsked]
  | @takeInTurn c now t inLine =>
    have same : Fetch.after fs (s.leave c (.returned (.ok t))) (.lookAgain c now) = fs := by
      simp [Fetch.after]
    rw [same]
    apply hu.of_bystander made (congrArg Standing.hasAsked inLine)
    simp [Move.caller, Standing.hasAsked]
  | ask inLine first =>
    have nobody := hs.not_hasAsked_of_first first inLine
    simp only [Fetch.after, State.withStanding_self]
    exact .fetching (by simp) (hu.isSettled_of_idle nobody)
  | accept fetching accepted =>
    obtain ⟨rest, rfl, settled⟩ := hu.of_fetching hs fetching
    simp only [Fetch.after, Fetch.amend_cons_self, Fate.ofAnswer_of_ok accepted]
    exact .storing (by simp) settled
  -- these callers let the turn go
  | fail fetching failed =>
    obtain ⟨rest, rfl, settled⟩ := hu.of_fetching hs fetching
    apply Underway.idle
    · apply hs.idle_after made (congrArg Standing.hasAsked fetching)
      simp [Move.caller, Standing.hasAsked]
    · simp only [Fetch.after, Fetch.amend_cons_self, Fate.ofAnswer_of_error failed]
      exact List.forall_mem_cons.mpr ⟨rfl, settled⟩
  | store storing =>
    obtain ⟨asked, g, rest, rfl, settled⟩ := hu.of_storing hs storing
    apply Underway.idle
    · apply hs.idle_after made (congrArg Standing.hasAsked storing)
      simp [Move.caller, Standing.hasAsked]
    · simp only [Fetch.after, Fetch.amend_cons_self, Fate.kept]
      exact List.forall_mem_cons.mpr ⟨rfl, settled⟩
  | @drop c =>
    have after : ((s.leave c .absent).standing c).hasAsked = false := by
      simp [Standing.hasAsked]
    cases before : (s.standing c).hasAsked with
    | false =>
      have same : Fetch.after fs (s.leave c .absent) (.drop c) = fs := hu.amend_givenUp_eq before
      rw [same]
      exact hu.of_bystander made before after
    | true => exact .idle (hs.idle_after made before after) (hu.isSettled_amend_givenUp hs before)

end Underway

namespace Fetch

variable {a : TokenAccess} {s s' : State} {m : Move} {fs : List Fetch}

/-- A request is for a token of the table of the accessor, and its token, if one was accepted, is
the one that the metadata service granted. -/
structure Genuine (a : TokenAccess) (f : Fetch) : Prop where
  asked : f.asked = a.identifier
  grant : ∀ g t, f.fate = .accepted g t ∨ f.fate = .stored g t → g.Yields t

theorem genuine_after (hg : ∀ f ∈ fs, f.Genuine a) (h : Step a s m s') :
    ∀ f ∈ after fs s' m, f.Genuine a := by
  cases h with
  | takeAtOnce | refuse | enter | inquire | report => exact hg
  | takeInTurn => simpa [after] using hg
  | ask =>
    simp only [after, State.withStanding_self]
    exact List.forall_mem_cons.mpr ⟨⟨rfl, fun g t h => by simp at h⟩, hg⟩
  | fail fetching failed =>
    refine forall_mem_amend hg fun f _ hf => ⟨hf.asked, fun g t h => ?_⟩
    simp [Fate.ofAnswer_of_error failed] at h
  | @accept c asked g now later t fetching accepted =>
    refine forall_mem_amend hg fun f _ hf => ⟨hf.asked, fun g' t' h => ?_⟩
    simp only [Fate.ofAnswer_of_ok accepted, Fate.accepted.injEq, reduceCtorEq, or_false] at h
    obtain ⟨rfl, rfl⟩ := h
    exact (DataToken.ofGrant_eq_ok_iff.mp accepted).1
  | store =>
    refine forall_mem_amend hg fun f _ hf => ⟨hf.asked, fun g t h => hf.grant g t ?_⟩
    cases fate : f.fate <;> simp_all [Fate.kept]
  | drop =>
    refine forall_mem_amend hg fun f _ hf => ⟨hf.asked, fun g t h => hf.grant g t ?_⟩
    cases fate : f.fate <;> simp_all [Fate.givenUp]

/-- **The token that is held is the one of the latest request whose token was stored**, after a move
if it was so before. -/
theorem held_eq_latestStored (hs : s.Orderly) (hu : Underway s fs)
    (held : s.held = latestStored fs) (h : Step a s m s') :
    s'.held = latestStored (after fs s' m) := by
  cases h with
  | takeAtOnce | refuse | enter | inquire | report => exact held
  | takeInTurn => simpa [after] using held
  | ask =>
    simp only [after, State.withStanding_self]
    exact held
  | fail fetching failed =>
    obtain ⟨rest, rfl, -⟩ := hu.of_fetching hs fetching
    simp only [after, amend_cons_self, Fate.ofAnswer_of_error failed]
    exact held
  | accept fetching accepted =>
    obtain ⟨rest, rfl, -⟩ := hu.of_fetching hs fetching
    simp only [after, amend_cons_self, Fate.ofAnswer_of_ok accepted]
    exact held
  | store storing =>
    -- the caller who stores made the latest request, whose token is therefore the latest stored
    obtain ⟨asked, g, rest, rfl, -⟩ := hu.of_storing hs storing
    simp only [after, amend_cons_self]
    rfl
  | drop => exact held.trans (latestStored_amend Fate.storedToken?_givenUp fs).symm

end Fetch

/-! ## Runs -/

/-- The readings of the clock that come with a move, the latest one first. -/
def Move.readings : Move → List Instant
  | .begin _ now | .lookAgain _ now | .report _ now => [now]
  | .receive _ _ now later => [later, now]
  | .enter _ | .store _ | .drop _ | .inquire _ => []

def Move.isBeginning : Move → Bool
  | .begin _ _ | .inquire _ => true
  | _ => false

/-- An accessor and its history. -/
structure Chronicle where
  state : State
  /-- The requests for tokens, the latest one first. -/
  fetches : List Fetch
  /-- The readings of the clock that the present call of a caller has taken, the latest one
  first. -/
  readings : Caller → List Instant

namespace Chronicle

def blank : Chronicle := ⟨.atRest none, [], fun _ => []⟩

/-- The history after a move that led to a state. -/
def after (χ : Chronicle) (m : Move) (s' : State) : Chronicle where
  state := s'
  fetches := Fetch.after χ.fetches s' m
  readings d :=
    if d = m.caller then m.readings ++ (if m.isBeginning then [] else χ.readings d)
    else χ.readings d

@[simp] theorem after_state (χ : Chronicle) (m : Move) (s' : State) : (χ.after m s').state = s' :=
  rfl

def move? (a : TokenAccess) (χ : Chronicle) (m : Move) : Option Chronicle :=
  (step? a χ.state m).map fun made => χ.after m made.1

def run? (a : TokenAccess) : Chronicle → List Move → Option Chronicle
  | χ, [] => some χ
  | χ, m :: ms => (χ.move? a m).bind fun χ₁ => run? a χ₁ ms

variable {a : TokenAccess} {χ χ' : Chronicle} {m : Move} {ms : List Move}

theorem move?_eq_some_iff :
    χ.move? a m = some χ' ↔ ∃ s', Step a χ.state m s' ∧ χ.after m s' = χ' := by
  constructor
  · intro h
    obtain ⟨made, possible, rfl⟩ := Option.map_eq_some_iff.mp h
    exact ⟨made.1, step?_iff.mp (by rw [possible]; rfl), rfl⟩
  · rintro ⟨s', step, rfl⟩
    obtain ⟨made, possible, rfl⟩ := Option.map_eq_some_iff.mp (step?_iff.mpr step)
    exact Option.map_eq_some_iff.mpr ⟨made, possible, rfl⟩

theorem run?_append (ms ns : List Move) :
    χ.run? a (ms ++ ns) = (χ.run? a ms).bind fun χ₁ => χ₁.run? a ns := by
  induction ms generalizing χ with
  | nil => rfl
  | cons m ms ih =>
    rw [List.cons_append, run?, run?]
    cases χ.move? a m with
    | none => rfl
    | some χ₁ => exact ih

/-- What holds at the beginning of a run and is kept by each of its moves holds at its end. -/
theorem run_induction {P : Chronicle → Prop} (start : P χ)
    (keeps : ∀ {χ₁ χ₂ m}, m ∈ ms → P χ₁ → χ₁.move? a m = some χ₂ → P χ₂)
    (h : χ.run? a ms = some χ') : P χ' := by
  induction ms generalizing χ with
  | nil =>
    cases h
    exact start
  | cons m ms ih =>
    obtain ⟨χ₁, first, rest⟩ := Option.bind_eq_some_iff.mp h
    refine ih (keeps List.mem_cons_self start first) ?_ rest
    intro χ₂ χ₃ m' mem
    exact keeps (List.mem_cons_of_mem m mem)

theorem standing_eq_of_run {c : Caller} (others : ∀ m ∈ ms, m.caller ≠ c)
    (h : χ.run? a ms = some χ') : χ'.state.standing c = χ.state.standing c := by
  refine run_induction (P := fun χ₁ => χ₁.state.standing c = χ.state.standing c) rfl ?_ h
  intro χ₁ χ₂ m mem same made
  obtain ⟨s', step, rfl⟩ := move?_eq_some_iff.mp made
  exact (step.standing_of_ne (others m mem).symm).trans same

/-! ## Coherence -/

/-- What a history tells fits the accessor. -/
structure Coherent (a : TokenAccess) (χ : Chronicle) : Prop where
  orderly : χ.state.Orderly
  underway : Underway χ.state χ.fetches
  held : χ.state.held = Fetch.latestStored χ.fetches
  genuine : ∀ f ∈ χ.fetches, f.Genuine a

theorem coherent_blank (a : TokenAccess) : blank.Coherent a where
  orderly := .atRest none
  underway := .idle (fun _ => rfl) (fun _ h => (List.not_mem_nil h).elim)
  held := rfl
  genuine _ h := (List.not_mem_nil h).elim

/-- **Every move keeps a chronicle coherent.** -/
theorem Coherent.step {s' : State} (hχ : χ.Coherent a) (h : Step a χ.state m s') :
    (χ.after m s').Coherent a where
  orderly := hχ.orderly.step h
  underway := hχ.underway.step hχ.orderly h
  held := Fetch.held_eq_latestStored hχ.orderly hχ.underway hχ.held h
  genuine := Fetch.genuine_after hχ.genuine h

theorem Coherent.move (hχ : χ.Coherent a) (h : χ.move? a m = some χ') : χ'.Coherent a := by
  obtain ⟨s', step, rfl⟩ := move?_eq_some_iff.mp h
  exact hχ.step step

theorem Coherent.run (hχ : χ.Coherent a) (h : χ.run? a ms = some χ') : χ'.Coherent a :=
  run_induction hχ (fun _ => Coherent.move) h

end Chronicle

/-! ## An accessor to try things on -/

namespace Sample

/-- The accessor of a table, with a margin of one minute. -/
def access : TokenAccess where
  identifier := ⟨"sales", "orders", some "daily", by decide, by decide, by
    intro b same
    cases same
    decide⟩
  path := ⟨"/warehouse/sales/orders", by decide⟩
  catalogOptions := .ofList [("endpoint", "memory://local")]
  refreshMargin := .ofMillis 60000

/-- A number of seconds after the beginning of 1970, a thousand at most. -/
def second (n : Nat) : Instant := ⟨min n 1000 * 1000000000, by omega, by omega⟩

/-- A token that ends that many milliseconds after the beginning of 1970. -/
def grant (secret : String) (millis : Int64) : TokenGrant := ⟨.ofList [("secret", secret)], millis⟩

end Sample

end TableCatalog.Credential
