import DeviceSync.Linking.State

/-!
# Linking sessions

A linking session holds the state of one linking attempt and a signal that tells the operator's decision
to the one who waits for it. The signal is resolved once: by the operator, by a failure, by a
cancellation, or when the last operator gives up the session.

Several parties hold handles on a session. A handle that waits does not count as an operator's.
-/

namespace DeviceSync

/-- What the signal tells: the operator confirmed, or why not. -/
abbrev Confirmation := Except LinkingError Unit

/-- A linking attempt. -/
structure LinkingSession where
  state : LinkingState := .connecting
  signal : Option Confirmation := none
  /-- Whether someone waits for the signal, or did. -/
  awaited : Bool := false
  /-- Handles on the session that do not wait. -/
  operators : Int := 1
  /-- How often a change of the state was announced. -/
  announcements : Nat := 0

namespace LinkingSession

/-- Gives the signal its value, unless it has one; true if this was the call that did. -/
def resolve (s : LinkingSession) (value : Confirmation) : Bool × LinkingSession :=
  match s.signal with
  | none => (true, { s with signal := some value })
  | some _ => (false, s)

/-- Takes an action of the state machine. The value is what the signal was given, if it was. -/
def perform (s : LinkingSession) (resolved : Option Confirmation) :
    LinkingAction → Option Confirmation × LinkingSession
  | .showCode _ => (resolved, s)
  | .resolve => give (.ok ())
  | .reject e => give (.error e)
where
  /-- Gives the signal a value. -/
  give (value : Confirmation) : Option Confirmation × LinkingSession :=
    let (first, s) := s.resolve value
    (if first then some value else resolved, s)

/-- An event happens to the attempt. The value is what the signal was given, if it was. -/
def apply (s : LinkingSession) (event : LinkingEvent) : Option Confirmation × LinkingSession :=
  let (next, actions) := s.state.step event
  let s := if next = s.state then s
    else { s with state := next, announcements := s.announcements + 1 }
  actions.foldl (fun (resolved, s) action => s.perform resolved action) (none, s)

/-- The rendezvous path is established. -/
def establish (s : LinkingSession) (path : PathHash) : LinkingSession := (s.apply (.established path)).2

/-- The operator confirms that the codes match; true for the call that resolves the signal. -/
def confirm (s : LinkingSession) : Bool × LinkingSession :=
  let (resolved, s) := s.apply .confirmed
  (resolved.isSome, s)

/-- The operator says that the codes differ; true for the call that resolves the signal. The attempt has
failed then. -/
def decline (s : LinkingSession) : Bool × LinkingSession :=
  match s.apply .declined with
  | (none, s) => (false, s)
  | (some (.error cause), s) => (true, (s.apply (.failed cause)).2)
  | (some (.ok ()), s) => (true, s)

def fail (s : LinkingSession) (cause : LinkingError) : LinkingSession :=
  ((s.apply (.failed cause)).2.resolve (.error cause)).2

def cancel (s : LinkingSession) (reason : String) : LinkingSession := s.fail (.cancelled reason)

/-- The new device is provisioned; true if the attempt is completed now. -/
def complete (s : LinkingSession) : Bool × LinkingSession :=
  let (_, s) := s.apply .provisioned
  (s.state = .completed, s)

/-- Why the attempt did not come to its end. -/
def cause (s : LinkingSession) : LinkingError :=
  match s.state with
  | .failed (some cause) => cause
  | _ => .cancelled "session ended before provisioning completed"

/-- Another handle. -/
def clone (s : LinkingSession) : LinkingSession := { s with operators := s.operators + 1 }

/-- A handle is given up; without the last operator, an attempt that is not decided is cancelled. -/
def drop (s : LinkingSession) : LinkingSession :=
  let last := s.operators = 1
  let s := { s with operators := s.operators - 1 }
  if last ∧ s.signal = none then s.cancel "session dropped" else s

/-- A handle starts to wait for the signal, which only one may do, once. -/
def startWait (s : LinkingSession) : Confirmation × LinkingSession :=
  if s.awaited then (.error (.cancelled "confirmation already awaited"), s)
  else (.ok (), { s with awaited := true, operators := s.operators - 1 })

/-- The handle that waits has the signal, and waits no more. -/
def finishWait (s : LinkingSession) : LinkingSession := { s with operators := s.operators + 1 }

/-- The handle that waits gives up waiting. -/
def abandonWait (s : LinkingSession) : LinkingSession :=
  (s.cancel "confirmation await cancelled").finishWait

end LinkingSession

end DeviceSync
