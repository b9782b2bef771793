import DeviceSync.Group.Schedule

/-!
# The linking desk

Everything that can be done with the group and with linking sessions. Sessions and handles have names. The
operation that starts with an act takes the act's number.
-/

namespace DeviceSync

/-- What can be done with a handle on a session. -/
inductive HandleAct
  /-- Makes another handle; one that had the name before is given up. -/
  | clone (name : String)
  | drop
  | establish (path : PathHash)
  | confirm
  | decline
  | fail (cause : LinkingError)
  | complete
  | showCode
  /-- Waits for the operator. -/
  | await
  /-- Runs the linking attempt. -/
  | run (p : Provisioner)
  /-- Links a device to the group. -/
  | link (p : Provisioner)

/-- What can be done. -/
inductive DeskAct
  | wait
  | hold (gate : Gate)
  | release (gate : Gate)
  | addDevice (device : LinkedDevice)
  | failNext (call : RegistryCall) (e : ServiceError)
  | activate (label : String)
  | deactivate
  | purge
  | load
  | reportClose (reason : CloseReason)
  | abort (number : Nat)
  | openSession (name : String)
  | withHandle (name : String) (act : HandleAct)

/-- The answer to an act. -/
inductive DeskReply
  | nothing
  | truth (b : Bool)
  | code (code : Option ShortCode)
  | noHandle

/-- The desk. -/
structure LinkingDesk where
  schedule : GroupSchedule := {}
  /-- The handles, with their sessions. -/
  handles : List (String × Nat) := []
  /-- The sessions, by their names. -/
  names : List (String × Nat) := []
  /-- The number of acts so far. -/
  acts : Nat := 0

namespace LinkingDesk

/-- Gives a handle up, if there is one of the name. -/
def giveUp (d : LinkingDesk) (name : String) : LinkingDesk :=
  match d.handles.lookup name with
  | none => d
  | some i =>
    { d with
      schedule := d.schedule.onSession i (·.drop)
      handles := d.handles.filter (·.1 != name) }

def start (d : LinkingDesk) (work : GroupWork OperationResult) (seat : Option Seat) : LinkingDesk :=
  { d with schedule := d.schedule.start ⟨d.acts, work, seat⟩ }

/-- Starts an operation that takes a handle with it. -/
def startWith (d : LinkingDesk) (name : String) (session : Nat) (p : Provisioner)
    (work : GroupWork OperationResult) : DeskReply × LinkingDesk :=
  (.nothing, { d with handles := d.handles.filter (·.1 != name) }.start work (some ⟨session, p, false⟩))

def onRegistry (d : LinkingDesk) (f : Registry → Registry) : LinkingDesk :=
  { d with schedule.group.registry := f d.schedule.group.registry }

def handleAct (d : LinkingDesk) (name : String) (i : Nat) (s : LinkingSession) :
    HandleAct → DeskReply × LinkingDesk
  | .clone copy =>
    let d := { d with schedule := d.schedule.onSession i (·.clone) }.giveUp copy
    (.nothing, { d with handles := d.handles ++ [(copy, i)] })
  | .drop => (.nothing, d.giveUp name)
  | .establish path =>
    let s := s.establish path
    (.code s.state.shortCode?, put s)
  | .confirm => (.truth s.confirm.1, put s.confirm.2)
  | .decline => (.truth s.decline.1, put s.decline.2)
  | .fail cause => (.nothing, put (s.fail cause))
  | .complete => (.truth s.complete.1, put s.complete.2)
  | .showCode => (.code s.state.shortCode?, d)
  | .await =>
    d.startWith name i ⟨.error .timeout, .error .timeout⟩
      (.confirmed <$> GroupWork.ofLinking LinkingWork.await)
  | .run p => d.startWith name i p (.ran <$> GroupWork.ofLinking LinkingWork.run)
  | .link p => d.startWith name i p (.linked <$> GroupWork.link)
where
  /-- Replaces the session. -/
  put (s : LinkingSession) : LinkingDesk := { d with schedule := d.schedule.onSession i fun _ => s }

/-- An act, before anything that follows from it happens. -/
def begin (d : LinkingDesk) : DeskAct → DeskReply × LinkingDesk
  | .wait => (.nothing, d)
  | .hold gate => (.nothing, { d with schedule := d.schedule.hold gate })
  | .release gate => (.nothing, { d with schedule := d.schedule.release gate })
  | .addDevice device => (.nothing, d.onRegistry (·.addDevice device))
  | .failNext call e => (.nothing, d.onRegistry (·.failNext call e))
  | .activate label => (.nothing, d.start (.done <$> GroupWork.activate label) none)
  | .deactivate => (.nothing, d.start (.done <$> GroupWork.deactivate) none)
  | .purge => (.nothing, d.start (.done <$> GroupWork.purge) none)
  | .load => (.nothing, d.start (.listed <$> GroupWork.load) none)
  | .reportClose reason =>
    (.nothing, { d with schedule.group.closes := d.schedule.group.closes ++ [reason] })
  | .abort number =>
    let (running, schedule) := d.schedule.abort number
    (.truth running, { d with schedule })
  | .openSession name =>
    let d := d.giveUp name
    let i := d.schedule.sessions.length
    (.nothing, { d with
      schedule.sessions := d.schedule.sessions ++ [{}]
      handles := d.handles ++ [(name, i)]
      names := d.names.filter (·.1 != name) ++ [(name, i)] })
  | .withHandle name act =>
    match d.handles.lookup name with
    | none => (.noHandle, d)
    | some i => d.handleAct name i ((d.schedule.sessions[i]?).getD {}) act

/-- An act, and all that follows from it. -/
def act (d : LinkingDesk) (a : DeskAct) : DeskReply × LinkingDesk :=
  let (reply, d) := d.begin a
  (reply, { d with schedule := d.schedule.settle, acts := d.acts + 1 })

/-- The operations that ended between two moments, by their numbers. -/
def finishedSince (d before : LinkingDesk) : List (Nat × OperationResult) :=
  (d.schedule.finished.drop before.schedule.finished.length).mergeSort fun a b => a.1 ≤ b.1

/-- The close reasons reported between two moments. -/
def closesSince (d before : LinkingDesk) : List CloseReason :=
  d.schedule.group.closes.drop before.schedule.group.closes.length

/-- Whether a state of the group was published between two moments. -/
def publishedSince (d before : LinkingDesk) : Bool :=
  d.schedule.group.publications != before.schedule.group.publications

/-- The states of the sessions by name, and whether a change was announced between two moments. -/
def statesSince (d before : LinkingDesk) : List (String × LinkingState × Bool) :=
  d.names.map fun (name, i) =>
    let now := (d.schedule.sessions[i]?).getD {}
    let then_ := (before.schedule.sessions[i]?).getD {}
    (name, now.state, now.announcements != then_.announcements)

end LinkingDesk

end DeviceSync
