import TableCatalog.Credential.Accessor

/-!
# Accessors without their secrets

What a data token says is secret, and so are the options of the catalog. An accessor from which both
are withheld makes the same moves and tells the same of them: it looks at the ends of tokens only.
-/

namespace TableCatalog

def TokenGrant.withheld (g : TokenGrant) : TokenGrant := { g with token := NameMap.empty }

def DataToken.withheld (t : DataToken) : DataToken := { t with options := NameMap.empty }

def TokenAccess.withheld (a : TokenAccess) : TokenAccess :=
  { a with catalogOptions := NameMap.empty }

theorem DataToken.ofGrant_withheld (g : TokenGrant) (now : Instant) :
    ofGrant g.withheld now = (ofGrant g now).map withheld := by
  simp only [ofGrant, TokenGrant.withheld]
  cases Instant.ofMillis? g.expiresAtMillis.toInt with
  | none => rfl
  | some expiresAt => by_cases ahead : now < expiresAt <;> simp [ahead] <;> rfl

namespace Credential

def Standing.withheld : Standing → Standing
  | .storing t => .storing t.withheld
  | .returned result => .returned (result.map DataToken.withheld)
  | standing => standing

def State.withheld (s : State) : State where
  held := s.held.map DataToken.withheld
  line := s.line
  standing c := (s.standing c).withheld

def Move.withheld : Move → Move
  | .receive c answer now later => .receive c (answer.map TokenGrant.withheld) now later
  | m => m

/-! ## Parts of a move -/

section

variable (s : State) (c : Caller) (standing : Standing) (margin : Duration) (now : Instant)

theorem withheld_withStanding :
    (s.withStanding c standing).withheld = s.withheld.withStanding c standing.withheld := by
  simp only [State.withheld, State.withStanding, State.mk.injEq, true_and]
  funext d
  split <;> rfl

theorem withheld_leave :
    (s.leave c standing).withheld = s.withheld.leave c standing.withheld := by
  simp only [State.leave, ← withheld_withStanding]
  rfl

theorem withheld_enter : (s.enter c).withheld = s.withheld.enter c := by
  have inLine : Standing.inLine = Standing.inLine.withheld := rfl
  rw [State.enter, State.enter, inLine, ← withheld_withStanding]
  rfl

theorem withheld_hold (t : DataToken) : (s.hold t).withheld = s.withheld.hold t.withheld := rfl

theorem validToken?_withheld :
    s.withheld.validToken? margin now = (s.validToken? margin now).map DataToken.withheld := by
  simp only [State.validToken?, State.withheld]
  cases s.held with
  | none => rfl
  | some t =>
    have same : t.withheld.expiresWithin now margin = t.expiresWithin now margin := rfl
    rw [Option.map_some, Option.filter_some, Option.filter_some, same]
    split <;> rfl

theorem heldCondition_withheld :
    s.withheld.heldCondition margin now = s.heldCondition margin now := by
  simp only [State.heldCondition, State.withheld]
  cases s.held <;> rfl

theorem ofGrant_answer_withheld (answer : Except Failure TokenGrant) :
    ((answer.map TokenGrant.withheld).bind fun g => DataToken.ofGrant g now) =
      (answer.bind fun g => DataToken.ofGrant g now).map DataToken.withheld := by
  cases answer with
  | error f => rfl
  | ok g => exact DataToken.ofGrant_withheld g now

end

theorem acceptedEvents_withheld (a : TokenAccess) (t : DataToken) (later : Instant) :
    acceptedEvents a.withheld t.withheld later = acceptedEvents a t later := rfl

/-! ## Moves -/

/-- A move of an accessor as it appears when the secrets are withheld. -/
abbrev withheldStep (next : State × List Event) : State × List Event := (next.1.withheld, next.2)

/-- **Without its secrets an accessor makes the same moves**, and the log events are the same. -/
theorem step?_withheld (a : TokenAccess) (s : State) (m : Move) :
    step? a.withheld s.withheld m.withheld = (step? a s m).map withheldStep := by
  have standing (c : Caller) : s.withheld.standing c = (s.standing c).withheld := rfl
  have margin : a.withheld.refreshMargin = a.refreshMargin := rfl
  have identifier : a.withheld.identifier = a.identifier := rfl
  have turn (c : Caller) : s.withheld.hasTurn c = s.hasTurn c := rfl
  have line : s.withheld.line = s.line := rfl
  cases m with
  | begin c now =>
    simp only [Move.withheld, step?, standing, validToken?_withheld, margin]
    cases s.standing c with
    | absent =>
      cases s.validToken? a.refreshMargin now <;>
        simp [Standing.withheld, withheld_withStanding, Except.map]
    | _ => rfl
  | enter c =>
    simp only [Move.withheld, step?, standing]
    cases s.standing c with
    | refused => simp [Standing.withheld, withheld_enter]
    | _ => rfl
  | lookAgain c now =>
    simp only [Move.withheld, step?, standing, turn, validToken?_withheld, margin]
    cases s.standing c with
    | inLine =>
      cases s.hasTurn c with
      | false => rfl
      | true =>
        cases s.validToken? a.refreshMargin now <;>
          simp [Standing.withheld, withheld_withStanding, withheld_leave, identifier, Except.map]
    | _ => rfl
  | receive c answer now later =>
    simp only [Move.withheld, step?, standing, ofGrant_answer_withheld]
    cases s.standing c with
    | fetching asked =>
      cases answer.bind fun g => DataToken.ofGrant g now <;>
        simp [Standing.withheld, withheld_withStanding, withheld_leave, acceptedEvents_withheld,
          identifier, Except.map]
    | _ => rfl
  | store c =>
    simp only [Move.withheld, step?, standing]
    cases s.standing c with
    | storing t => simp [Standing.withheld, withheld_leave, withheld_hold, Except.map]
    | _ => rfl
  | drop c => simp [Move.withheld, step?, Standing.withheld, withheld_leave]
  | inquire c =>
    simp only [Move.withheld, step?, standing, line]
    cases s.standing c with
    | absent =>
      by_cases free : s.line = [] <;> simp [Standing.withheld, withheld_withStanding, free]
    | _ => rfl
  | report c now =>
    simp only [Move.withheld, step?, standing, heldCondition_withheld, margin]
    cases s.standing c with
    | inquiring => simp [Standing.withheld, withheld_withStanding]
    | _ => rfl

end Credential

end TableCatalog
