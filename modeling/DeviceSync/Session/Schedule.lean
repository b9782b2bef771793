import DeviceSync.Session.Basic

/-!
# Schedules

A schedule carries sessions out on one workspace, in one of the orders that their steps allow. Earlier
sessions come before later ones. Within a session either the worker has its turn, or the callers in line
and the pumps have theirs; a turn lasts as long as a step is possible in it, and the callers begin. A
clock says when a worker goes on that waits for a frame or for its next attempt; it moves only when
nothing else is possible.
-/

namespace DeviceSync

/-- Sessions on a workspace, at a time. -/
structure Schedule where
  workspace : Workspace
  sessions : List Session := []
  /-- Nanoseconds since the start. -/
  now : Nat := 0
  /-- How many task names were drawn. -/
  drawn : Nat := 0

namespace Schedule

/-- The name of the `n`-th new task. -/
def drawTaskId (n : Nat) : TaskId :=
  ⟨⟨(Sha256.digest (Bytes.ofText (toString n))).bytes.take 16, by
    rw [List.length_take, Block.size_eq]; rfl⟩⟩

/-- The steps of a session in the order in which they are tried, with what the worker does only when its
time has come. -/
def order (s : Session) (now : Nat) (id : TaskId) : List SessionStep :=
  let callers := [.queue (.enter id), .queue .place] ++ (List.range s.pumps.length).map .pump
  let worker :=
    if s.wake ≤ now then
      [.queue .finish, .queue .take, .queue .start, .queue (.work 0), .queue .retry, .queue .settle,
        .queue .publish]
    else []
  if s.workerTurn then worker ++ callers else callers ++ worker

/-- Takes the first possible step of a session. -/
def stepSession (t : Schedule) (s : Session) : Option (Session × Workspace) :=
  (order s t.now (drawTaskId t.drawn)).findSome? (s.step t.workspace t.now)

/-- Takes the first possible step of any session from the `i`-th on. -/
def stepFrom (t : Schedule) (i : Nat) : List Session → Option Schedule
  | [] => none
  | s :: rest =>
    match t.stepSession s with
    | some (s', w) =>
      some { t with
        workspace := w, sessions := t.sessions.set i s'.stopIfAbandoned, drawn := t.drawn + 1 }
    | none => t.stepFrom (i + 1) rest

/-- Takes the first possible step, if there is one. -/
def step? (t : Schedule) : Option Schedule := t.stepFrom 0 t.sessions

/-- The next time after now at which a worker goes on. -/
def nextWake? (t : Schedule) : Option Nat :=
  ((t.sessions.map (·.wake)).filter (t.now < ·)).min?

/-- Lets time pass until a condition holds or the limit is reached: everything that is possible happens
before the clock moves on. The fuel bounds the number of steps. -/
def runUntil (stop : Schedule → Bool) (limit : Nat) : (fuel : Nat) → Schedule → Schedule
  | 0, t => t
  | fuel + 1, t =>
    if stop t then t
    else
      match t.step? with
      | some t => runUntil stop limit fuel t
      | none =>
        match t.nextWake? with
        | some wake =>
          if wake ≤ limit then runUntil stop limit fuel { t with now := wake }
          else { t with now := max t.now limit }
        | none => { t with now := max t.now limit }

/-- How many steps a run may take. -/
def fuel : Nat := 1 <<< 48

/-- Lets a span of time pass. -/
def pass (t : Schedule) (nanos : Nat) : Schedule := runUntil (fun _ => false) (t.now + nanos) fuel t

/-- A day, after which a call that still waits is given up. -/
def day : Nat := 86400 * nanosPerSecond

/-- The session that was started last. -/
def current? (t : Schedule) : Option Session := t.sessions.getLast?

/-- Changes the session that was started last. -/
def onCurrent (t : Schedule) (f : Session → Session) : Schedule :=
  match t.sessions.getLast? with
  | some s => { t with sessions := t.sessions.dropLast ++ [f s] }
  | none => t

/-- Calls the queue of the last session and waits for the reply, a day at most. -/
def call (t : Schedule) (request : Request) : Option Reply × Schedule :=
  match t.current? with
  | none => (none, t)
  | some s =>
    let (ticket, queue) := s.queue.join request
    let t := t.onCurrent fun s => { s with queue }
    let reply (t : Schedule) : Option Reply := t.current?.bind (·.queue.reply? ticket)
    let t := runUntil (fun t => (reply t).isSome) (t.now + day) fuel t
    match reply t with
    | some r => (some r, t)
    | none => (none, t.onCurrent fun s => { s with queue := s.queue.withdraw ticket })

/-- Starts a session, the one before it being given up, and puts the stored tasks into its queue. The
session is given up again when that fails or does not come to an end. -/
def login (t : Schedule) (capacity : Nat) (policy : RetryPolicy) : Option Reply × Schedule :=
  let t := t.onCurrent Session.release
  let t := { t with sessions := t.sessions ++ [{ Session.start capacity policy with wake := t.now }] }
  let (reply, t) := t.call .resumeStored
  match reply with
  | some (.resumed _) => (reply, t)
  | _ => (reply, t.onCurrent Session.release)

/-- Stops the queue of the last session and waits until its worker has ended. -/
def shutdown (t : Schedule) : Schedule :=
  let t := t.onCurrent fun s => { s with queue := s.queue.stop }
  let ended (t : Schedule) : Bool := t.current?.all (·.queue.worker.hasEnded)
  runUntil ended (t.now + 36500 * day) fuel t

/-- Ends the last session: its queue is stopped and the connection closed. -/
def logout (t : Schedule) : Schedule :=
  let t := t.shutdown
  { t with workspace := { t.workspace with connection := t.workspace.connection.close } }

end Schedule

end DeviceSync
