import DeviceSync.Config.Basic
import DeviceSync.Queue.Feed
import DeviceSync.Session.Schedule

/-!
# Clients

A client is an application that logs in, submits tasks, and looks from time to time at what has happened.
It is told of completions as long as it is logged in, and of the results of the tasks that it submitted
also afterwards.

`Client.request` makes a request, and `Client.look` lets time pass and tells the news.
-/

namespace DeviceSync

/-- What a client can ask for. -/
inductive ClientRequest
  | login
  /-- Submits tasks, one after the other. -/
  | submit (tasks : List Task)
  | resume
  | resumeStored
  | startPump
  | shutdown
  | logout

/-- What a client is answered. -/
inductive ClientReply
  | done
  /-- The login, or the logout, has gone well. -/
  | success
  /-- The stored tasks could not be put into the queue. -/
  | loginRefused (cause : QueueError)
  | resumed (wasHalted : Bool)
  | replied (reply : Reply)
  /-- No reply within a day. -/
  | blocked
  /-- The replies to submitted tasks, or none within a day. -/
  | submitted (replies : List (Option Reply))
  | notLoggedIn
  | loggedOut

/-- A login of a client. -/
structure Login where
  feed : Subscription
  /-- How many announcements of the status were seen. -/
  announcements : Nat
  /-- Whether the client has logged out since. -/
  ended : Bool := false

/-- A client. -/
structure Client where
  schedule : Schedule
  config : Config
  login : Option Login := none
  /-- The submitted tasks whose results were not told yet: the session, and the number in it. -/
  handles : List (Nat × Nat) := []
  /-- The pumps that were seen to have ended. -/
  endedPumps : List Bool := []

/-- What a client learns at a look. -/
structure News where
  /-- The tasks that were submitted by the client and are done. -/
  resolved : List (Nat × Except QueueError TaskResult)
  /-- Why pumps ended. -/
  closed : List CloseReason
  receptions : List Reception := []
  statusAnnounced : Bool := false

namespace Client

def submitAll (c : Client) : List Task → List (Option Reply) × Client
  | [] => ([], c)
  | task :: tasks =>
    let (reply, schedule) := c.schedule.call (.submit task)
    let handles := match reply with
      | some (.queued sequence) => c.handles ++ [(schedule.sessions.length - 1, sequence)]
      | _ => c.handles
    let (replies, c) := submitAll { c with schedule, handles } tasks
    (reply :: replies, c)

/-- Logs in; an earlier login is given up. -/
def logIn (c : Client) : ClientReply × Client :=
  let (reply, schedule) :=
    c.schedule.login c.config.tasks.queueCapacity.toNat c.config.tasks.policy
  let c := { c with schedule, login := none }
  match reply with
  | some (.resumed _) =>
    (.success, { c with
      login := schedule.current?.map fun s => ⟨.toQueue s.queue, s.queue.announcements, false⟩ })
  | some (.refused e) => (.loginRefused e, c)
  | _ => (.blocked, c)

/-- Goes on after a halt. -/
def resume (c : Client) : ClientReply × Client :=
  (.resumed (c.schedule.current?.any (·.queue.status.isHalted)),
    { c with schedule := c.schedule.onCurrent fun s => { s with queue := s.queue.resume.2 } })

/-- Logs out. The queue can still be asked for. -/
def logOut (c : Client) (l : Login) : ClientReply × Client :=
  (.success, { c with
    schedule := c.schedule.logout.onCurrent Session.release, login := some { l with ended := true } })

/-- A request of a client who is or was logged in. -/
def memberRequest (c : Client) (l : Login) : ClientRequest → ClientReply × Client
  | .login => c.logIn
  | .submit tasks =>
    let (replies, c) := c.submitAll tasks
    (.submitted replies, c)
  | .resume => c.resume
  | .resumeStored =>
    let (reply, schedule) := c.schedule.call .resumeStored
    (reply.elim .blocked .replied, { c with schedule })
  | .shutdown => (.done, { c with schedule := c.schedule.shutdown })
  | .startPump =>
    if l.ended then (.loggedOut, c)
    else (.done, { c with schedule := c.schedule.onCurrent Session.startPump })
  | .logout => if l.ended then (.loggedOut, c) else c.logOut l

def request (c : Client) (r : ClientRequest) : ClientReply × Client :=
  match r, c.login with
  | .login, _ => c.logIn
  | r, some l => c.memberRequest l r
  | _, none => (.notLoggedIn, c)

/-- Why the pumps of all sessions ended, as far as they have. -/
def pumpEnds (t : Schedule) : List (Option CloseReason) :=
  t.sessions.flatMap fun s => s.pumps.map (·.reason?)

/-- Lets time pass, and tells what has happened since the last look. -/
def look (c : Client) (nanos : Nat) : News × Client :=
  let t := c.schedule.pass nanos
  let outcome? (h : Nat × Nat) := (t.sessions[h.1]?).bind (·.queue.outcome? h.2)
  let ends := pumpEnds t
  let news : News := {
    resolved := c.handles.filterMap fun h => (outcome? h).map (h.2, ·)
    closed := ends.zipIdx.filterMap fun (reason?, i) =>
      if (c.endedPumps[i]?).getD false then none else reason? }
  let c := { c with
    schedule := t
    handles := c.handles.filter fun h => (outcome? h).isNone
    endedPumps := ends.map Option.isSome }
  match c.login, t.current? with
  | some l, some s =>
    let (receptions, feed) := l.feed.readAll s.queue
    ({ news with receptions, statusAnnounced := s.queue.announcements != l.announcements },
      { c with login := some { l with feed, announcements := s.queue.announcements } })
  | _, _ => (news, c)

def session? (c : Client) : Option Session := c.login.bind fun _ => c.schedule.current?

end Client

/-- The course of a visit: a login, one pump until it ends, the work on what is stored, and a logout. -/
structure Visit where
  /-- After the login. -/
  start : Schedule
  /-- When nothing is left to do. -/
  done : Schedule
  /-- After the logout. -/
  after : Schedule

/-- Visits with a workspace. Each part of a visit takes a day at most. -/
def Config.visit (config : Config) (w : Workspace) : Visit :=
  let start := (Client.logIn { schedule := { workspace := w }, config }).2.schedule
  let till (stop : Schedule → Bool) (t : Schedule) :=
    Schedule.runUntil stop (t.now + Schedule.day) Schedule.fuel t
  let idle (t : Schedule) : Bool :=
    t.workspace.pending.isEmpty || t.current?.any (·.queue.status.isHalted)
  let done := till idle <|
    till (fun t => (Client.pumpEnds t).all (·.isSome)) (start.onCurrent Session.startPump)
  ⟨start, done, done.logout⟩

end DeviceSync
