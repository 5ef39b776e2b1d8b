import TableCatalog.CatalogError
import TableCatalog.Description
import TableCatalog.Diagnostic
import TableCatalog.Table
import TableCatalog.Time

/-!
# The accessor of data tokens

The readers of a table share one accessor. It holds the last token that was accepted, and a line in
which callers wait for their turn to fetch a new one; the first of the line has the turn. A caller
takes the token that is held if it does not end within the refresh margin. Otherwise it enters the
line, looks again when it has its turn, and asks the metadata service only if the token still does
not do. The turn ends when the caller has its result, or gives up. A caller who only wants to know
the condition of the accessor does not enter the line: if someone has the turn, the token is being
refreshed, and otherwise the token that is held tells the condition.
-/

namespace TableCatalog

/-! ## Data tokens

A data token grants access to the files of one table until it ends. The metadata service says when
that is in milliseconds; a token that has ended when it arrives is not accepted, nor is one whose
end cannot be represented. What a token says is secret, and no diagnostic text shows it.
-/

structure DataToken where
  options : Options
  expiresAt : Instant
  deriving DecidableEq

/-- No data token could be had for a table. -/
structure CredentialError where
  identifier : Identifier
  source : Failure
  deriving DecidableEq

def CredentialError.toFault (e : CredentialError) : Fault :=
  { cause := .credential e.identifier e.source }

namespace DataToken

/-- Whether a token ends at the time that lies a margin ahead, or before. An instant that cannot be
represented lies behind every end. -/
def expiresWithin (t : DataToken) (now : Instant) (margin : Duration) : Bool :=
  match now.later? margin.asStep with
  | none => true
  | some deadline => t.expiresAt ≤ deadline

def expiredOnArrival (g : TokenGrant) : Failure :=
  Failure.tokenExpiredOnArrival.withDetails
    ["expiresAtMillis: " ++ toString g.expiresAtMillis.toInt]

def ofGrant (g : TokenGrant) (now : Instant) : Except Failure DataToken :=
  match Instant.ofMillis? g.expiresAtMillis.toInt with
  | some expiresAt =>
    if now < expiresAt then .ok ⟨g.token, expiresAt⟩ else .error (expiredOnArrival g)
  | none => .error (expiredOnArrival g)

/-- Options below those of the token. -/
def overlayOn (t : DataToken) (options : Options) : Options := options.overlay t.options

def diagnostic (t : DataToken) : Diagnostic :=
  .record "DataToken"
    [("token", (Diagnostic.options t.options).redacted),
      ("expires_at", .word t.expiresAt.compactText)] true

end DataToken

def TokenGrant.diagnostic (g : TokenGrant) : Diagnostic :=
  .record "GetTableTokenResponse"
    [("token", (Diagnostic.options g.token).redacted),
      ("expires_at_millis", .int g.expiresAtMillis.toInt)] true

/-! ## Moves

The accessor is a machine: a move is what one caller does without waiting in between, and between
the moves of one caller there can be moves of any others. Each move that looks at the token comes
with its own reading of the clock. A caller who wants the options for the files of the table makes
the same moves as one who wants the token, and `fileOptions` makes its result of that token.
-/

namespace Credential

/-- A call of the accessor, told from others by its number. -/
abbrev Caller := Nat

/-- What a caller gets in the end. -/
abbrev Result := Except CredentialError DataToken

/-- What is told of an accessor from outside. -/
inductive Condition where
  /-- No token was accepted yet. -/
  | unfetched
  | valid
  /-- The token that is held ends within the margin. -/
  | expired
  /-- Someone has the turn to fetch a token. -/
  | refreshing
  deriving DecidableEq, Repr

/-- How far a call has come. -/
inductive Standing where
  /-- It has not begun, or was given up. -/
  | absent
  /-- It found no token that does, and has not entered the line yet. -/
  | refused
  /-- It is in the line. -/
  | inLine
  /-- It has the turn, has asked the metadata service for a token of a table, and waits. -/
  | fetching (asked : Identifier)
  /-- It has the turn and an accepted token, which is not held yet. -/
  | storing (token : DataToken)
  | returned (result : Result)
  /-- It wants to know the condition, has found that nobody has the turn, and has not looked yet. -/
  | inquiring
  /-- It was told the condition. -/
  | told (condition : Condition)

structure State where
  /-- The last token that was accepted. -/
  held : Option DataToken
  /-- Those who have the turn or wait for it, the one who has it first. -/
  line : List Caller
  standing : Caller → Standing

inductive Move where
  /-- A caller begins and looks at the token that is held. -/
  | begin (caller : Caller) (now : Instant)
  /-- A caller whom the token did not do for enters the line. -/
  | enter (caller : Caller)
  /-- The caller who has the turn looks again, and asks for a token if that held does not do. -/
  | lookAgain (caller : Caller) (now : Instant)
  /-- The answer arrives, and an accepted token is compared with the margin a little later. -/
  | receive (caller : Caller) (answer : Except Failure TokenGrant) (now later : Instant)
  /-- The accepted token becomes the one that is held. -/
  | store (caller : Caller)
  /-- A caller gives up. -/
  | drop (caller : Caller)
  /-- A caller who wants to know the condition begins, and looks whether someone has the turn. -/
  | inquire (caller : Caller)
  /-- A caller who found that nobody has the turn looks at the token that is held. -/
  | report (caller : Caller) (now : Instant)

namespace State

def atRest (held : Option DataToken) : State := ⟨held, [], fun _ => .absent⟩

def withStanding (s : State) (c : Caller) (standing : Standing) : State :=
  { s with standing := fun d => if d = c then standing else s.standing d }

def enter (s : State) (c : Caller) : State :=
  { s.withStanding c .inLine with line := s.line ++ [c] }

def leave (s : State) (c : Caller) (standing : Standing) : State :=
  { s.withStanding c standing with line := s.line.erase c }

def hold (s : State) (t : DataToken) : State := { s with held := some t }

/-- The token that is held, if it does not end within the margin. -/
def validToken? (s : State) (margin : Duration) (now : Instant) : Option DataToken :=
  s.held.filter fun t => !t.expiresWithin now margin

def hasTurn (s : State) (c : Caller) : Bool := s.line.head? == some c

/-- What the token that is held tells of an accessor. -/
def heldCondition (s : State) (margin : Duration) (now : Instant) : Condition :=
  match s.held with
  | none => .unfetched
  | some t => if t.expiresWithin now margin then .expired else .valid

/-- What is told of an accessor at a time. -/
def condition (s : State) (margin : Duration) (now : Instant) : Condition :=
  if s.line ≠ [] then .refreshing else s.heldCondition margin now

end State

def acceptedEvents (a : TokenAccess) (t : DataToken) (later : Instant) : List Event :=
  { message := "Refreshed data token"
    fields := [("identifier", a.identifier.text), ("path", a.path.text),
      ("expires_at", t.expiresAt.text)] } ::
    if t.expiresWithin later a.refreshMargin then
      [{ message :=
           "Data token expires within the refresh margin, it will be refetched on next use"
         fields := [("identifier", a.identifier.text), ("expires_at", t.expiresAt.text),
           ("refresh_margin_ms", toString a.refreshMargin.millis)] }]
    else []

/-- The state after a move and the log events of the move, if the move can be made. -/
def step? (a : TokenAccess) (s : State) : Move → Option (State × List Event)
  | .begin c now =>
    match s.standing c with
    | .absent =>
      match s.validToken? a.refreshMargin now with
      | some t => some (s.withStanding c (.returned (.ok t)), [])
      | none => some (s.withStanding c .refused, [])
    | _ => none
  | .enter c =>
    match s.standing c with
    | .refused => some (s.enter c, [])
    | _ => none
  | .lookAgain c now =>
    match s.standing c, s.hasTurn c with
    | .inLine, true =>
      match s.validToken? a.refreshMargin now with
      | some t => some (s.leave c (.returned (.ok t)), [])
      | none => some (s.withStanding c (.fetching a.identifier), [])
    | _, _ => none
  | .receive c answer now later =>
    match s.standing c with
    | .fetching _ =>
      match answer.bind fun g => DataToken.ofGrant g now with
      | .error e => some (s.leave c (.returned (.error ⟨a.identifier, e⟩)), [])
      | .ok t => some (s.withStanding c (.storing t), acceptedEvents a t later)
    | _ => none
  | .store c =>
    match s.standing c with
    | .storing t => some ((s.leave c (.returned (.ok t))).hold t, [])
    | _ => none
  | .drop c => some (s.leave c .absent, [])
  | .inquire c =>
    match s.standing c with
    | .absent =>
      some (s.withStanding c (if s.line = [] then .inquiring else .told .refreshing), [])
    | _ => none
  | .report c now =>
    match s.standing c with
    | .inquiring => some (s.withStanding c (.told (s.heldCondition a.refreshMargin now)), [])
    | _ => none

end Credential

end TableCatalog
