import TableCatalog.Credential.Accessor
import TableCatalog.Service

/-!
# Calls that are polled in turn

One task polls several calls of an accessor in a fixed order. A polled call makes moves until it has
its result or has to wait: for its turn, or for the metadata service, which answers a request for a
token only after the caller was polled a number of times in vain.
-/

namespace TableCatalog.Credential

/-- What the calls of one task run against. -/
structure Setting (σ : Type) where
  access : TokenAccess
  service : Service σ
  now : Instant
  /-- How often a caller is polled in vain before the service answers. -/
  delay : Nat

structure Run (σ : Type) where
  accessor : State
  service : σ
  /-- How often a caller who fetches has still to be polled in vain. -/
  remaining : Caller → Nat := fun _ => 0
  /-- The requests that were answered. -/
  requests : List Request := []
  events : List Event := []

namespace Run

variable {σ : Type}

/-- Makes a move. A move that cannot be made changes nothing. -/
def move (e : Setting σ) (r : Run σ) (m : Move) : Run σ :=
  match step? e.access r.accessor m with
  | some (accessor, events) => { r with accessor, events := r.events ++ events }
  | none => r

/-- The answer to the request of a caller who has asked for a token of a table. -/
def receive (e : Setting σ) (r : Run σ) (c : Caller) (asked : Identifier) : Run σ :=
  let request := Request.loadTableToken asked
  let (answer, service) := e.service.answer e.now r.service request
  ({ r with service, requests := r.requests ++ [request] } : Run σ).move e
    (.receive c answer e.now e.now)

/-- Polls a caller; `fuel` bounds the moves of one poll. -/
def pollFor (e : Setting σ) (c : Caller) : Nat → Run σ → Run σ
  | 0, r => r
  | fuel + 1, r =>
    match r.accessor.standing c with
    | .absent => pollFor e c fuel (r.move e (.begin c e.now))
    | .refused => pollFor e c fuel (r.move e (.enter c))
    | .inLine =>
      if r.accessor.hasTurn c then
        let remaining := fun d => if d = c then e.delay else r.remaining d
        pollFor e c fuel ({ r with remaining }.move e (.lookAgain c e.now))
      else r
    | .fetching asked =>
      match r.remaining c with
      | 0 => pollFor e c fuel (r.receive e c asked)
      | n + 1 => { r with remaining := fun d => if d = c then n else r.remaining d }
    | .storing _ => pollFor e c fuel (r.move e (.store c))
    | .inquiring => pollFor e c fuel (r.move e (.report c e.now))
    | .returned _ | .told _ => r

/-- Polls a caller. No call has more than five moves. -/
def poll (e : Setting σ) (r : Run σ) (c : Caller) : Run σ := pollFor e c 6 r

def result? (r : Run σ) (c : Caller) : Option Result :=
  match r.accessor.standing c with
  | .returned result => some result
  | _ => none

/-- Polls callers in rounds until all have their results; `fuel` bounds the number of rounds. -/
def rounds (e : Setting σ) (callers : List Caller) : Nat → Run σ → Run σ
  | 0, r => r
  | fuel + 1, r =>
    if callers.all fun c => (r.result? c).isSome then r
    else rounds e callers fuel (callers.foldl (poll e) r)

/-- Runs callers to their results. Each of them has its turn once, for as many rounds as the service
lets it wait and one more. -/
def finish (e : Setting σ) (callers : List Caller) (r : Run σ) : Run σ :=
  rounds e callers (callers.length * (e.delay + 1) + 1) r

/-- A caller gives up, or takes its result. -/
def drop (e : Setting σ) (r : Run σ) (c : Caller) : Run σ := r.move e (.drop c)

def condition (e : Setting σ) (r : Run σ) : Condition :=
  r.accessor.condition e.access.refreshMargin e.now

end Run

def Run.results {σ : Type} (r : Run σ) (n : Nat) : List Result := (List.range n).filterMap r.result?

/-- The options for the files of a table: those of the catalog below those of the token. -/
def fileOptions (a : TokenAccess) (result : Result) : Except CredentialError Options :=
  result.map fun t => t.overlayOn a.catalogOptions

end TableCatalog.Credential
