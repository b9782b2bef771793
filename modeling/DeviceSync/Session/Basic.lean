import DeviceSync.Session.Pump

/-!
# Sessions

A session lasts from a login to the end of its task queue. It has a queue, the pumps that were started in
it, and the close reason that a pump reported last. The workspace outlives it.

`Session.step` takes any step that is possible in a session, of the queue or of a pump.
-/

namespace DeviceSync

/-- A session. -/
structure Session where
  queue : TaskQueue
  pumps : List Pump := []
  latestClose : Option CloseReason := none
  /-- The time at which the worker goes on. -/
  wake : Nat := 0
  /-- Whether anyone but the pumps still holds the session. -/
  held : Bool := true
  /-- Whether the last step was the worker's. -/
  workerTurn : Bool := false

/-- A step in a session. -/
inductive SessionStep
  | queue (step : QueueStep)
  | pump (index : Nat)

/-- Whether a step is the worker's. -/
def QueueStep.isWorkers : QueueStep → Bool
  | .enter _ | .place => false
  | _ => true

namespace Session

def start (capacity : Nat) (policy : RetryPolicy) : Session := { queue := .start capacity policy }

/-- Takes a step at a given time, if it is possible. -/
def step (s : Session) (w : Workspace) (now : Nat) : SessionStep → Option (Session × Workspace)
  | .queue step =>
    (s.queue.step w step).map fun r =>
      ({ s with
          queue := r.queue
          wake := max s.wake (now + r.delay.nanos)
          workerTurn := step.isWorkers }, r.workspace)
  | .pump i =>
    match s.pumps[i]? with
    | none => none
    | some p =>
      (p.step s.queue w).map fun (p, q, w) =>
        ({ s with
            queue := q
            pumps := s.pumps.set i p
            workerTurn := false
            latestClose := p.reason? <|> s.latestClose }, w)

def startPump (s : Session) : Session := { s with pumps := s.pumps ++ [.receiving] }

def isPumping (s : Session) : Bool := s.pumps.any (·.reason?.isNone)

/-- A session that nobody holds any more stops its queue. -/
def stopIfAbandoned (s : Session) : Session :=
  if !s.held && !s.isPumping && s.queue.status != .stopped then { s with queue := s.queue.stop } else s

/-- The session is given up. -/
def release (s : Session) : Session := { s with held := false }.stopIfAbandoned

end Session

end DeviceSync
