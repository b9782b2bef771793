import DeviceSync.Config.Basic
import DeviceSync.Queue.Feed
import DeviceSync.Session.Schedule
import DeviceSync.Store.Database

/-!
# Replaying envelopes

Envelopes are replayed in a session of their own, on services that start out empty, but with the nonces
and the pending tasks of a database. Whoever replays collects completions, up to the one of the last
envelope or to one that is a failure, and then ends the session.

The pending tasks come first and take the first numbers.
-/

namespace DeviceSync

/-- Why a replay did not take place. -/
inductive ReplayError
  | noEnvelopes
  /-- The pending tasks of the database cannot be read. -/
  | store (cause : StoreError)
  /-- The session could not be started. -/
  | refused (cause : QueueError)
  /-- The pending tasks did not find room in the queue. -/
  | blocked
deriving DecidableEq

def ReplayError.toText : ReplayError → String
  | noEnvelopes => "Replay file contains no envelopes"
  | store cause => cause.toText
  | refused cause => "task manager error: " ++ cause.toText
  | blocked => "task manager error: no room for the pending tasks"

/-- A replay under way. -/
structure Replay where
  schedule : Schedule
  subscription : Subscription
  /-- The number of the last envelope's task. -/
  last : Nat
  collected : List Completion := []
  collecting : Bool := true

namespace Replay

/-- Whoever replays takes the next completion, if there is one. Missed completions end the collecting. -/
def collect? (r : Replay) : Option Replay :=
  if !r.collecting then none
  else do
    let session ← r.schedule.current?
    match ← r.subscription.next? session.queue with
    | (.missed _, _) => return { r with collecting := false }
    | (.completion c, subscription) =>
      return { r with
        subscription
        collected := r.collected ++ [c]
        collecting := c.sequence < r.last && c.result.isOk }

/-- A step of the replay: of the session, or of the collecting. -/
inductive Step
  | collect
  | session (step : SessionStep)

def step (r : Replay) : Step → Option Replay
  | .collect => r.collect?
  | .session step => do
    let session ← r.schedule.current?
    let (session, workspace) ← session.step r.schedule.workspace r.schedule.now step
    return { r with schedule := { (r.schedule.onCurrent fun _ => session) with workspace } }

/-- Collects as long as there is anything to be had; the fuel bounds the number of steps. -/
def run : (fuel : Nat) → Replay → Replay
  | 0, r => r
  | fuel + 1, r =>
    if !r.collecting then r
    else
      match r.collect? with
      | some r => run fuel r
      | none =>
        match r.schedule.step? with
        | some schedule => run fuel { r with schedule }
        | none =>
          match r.schedule.nextWake? with
          | some now => run fuel { r with schedule := { r.schedule with now } }
          | none => r

/-- The end of a replay: the session is ended, and its pump. -/
def finish (r : Replay) : Schedule := (r.schedule.shutdown.pass Schedule.day).logout

def workspace (me : Identity) (d : Database) (envelopes : List Envelope) : Workspace where
  identity := me
  nonces := .database d.nonces
  tasks := .database d.tasks
  connection := { inbox := envelopes.map Encoded.encode }

/-- What a workspace leaves in the database. -/
def databaseOf (before : Database) (w : Workspace) : Database where
  nonces := match w.nonces with
    | .database t => t
    | .memory _ => before.nonces
  tasks := match w.tasks with
    | .database t => t
    | .memory _ => before.tasks

/-- A replay at its start, after the session was started. -/
def start (t : Schedule) (s : Session) (last : Nat) : Replay where
  schedule := t.onCurrent Session.startPump
  subscription := .toQueue s.queue
  last := last
  collecting := !s.queue.status.isHalted

end Replay

/-- Replays envelopes, and gives the completions and what is left in the database. -/
def Database.replay (d : Database) (config : Config) (me : Identity) (envelopes : List Envelope) :
    Except ReplayError (List Completion) × Database :=
  if envelopes.isEmpty then (.error .noEnvelopes, d)
  else
    match d.tasks.load with
    | .error e => (.error (.store e), d)
    | .ok pending =>
      let t : Schedule := { workspace := Replay.workspace me d envelopes }
      let (reply, t) := t.login config.tasks.queueCapacity.toNat config.tasks.policy
      match reply, t.current? with
      | some (.resumed _), some s =>
        let r := Replay.run Schedule.fuel (Replay.start t s (pending.length + envelopes.length - 1))
        (.ok r.collected, Replay.databaseOf d r.finish.workspace)
      | some (.refused e), _ => (.error (.refused e), Replay.databaseOf d t.workspace)
      | _, _ => (.error .blocked, Replay.databaseOf d t.workspace)

/-- The result of a task, as a report shows it. -/
def reportResult : TaskResult → String
  | .ok .completed => "completed"
  | .ok .duplicate => "duplicate"
  | .ok (.skipped cause) => "skipped: " ++ cause.toText
  | .error e => "FAILED: " ++ e.toText

end DeviceSync
