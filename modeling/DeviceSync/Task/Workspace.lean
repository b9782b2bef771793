import DeviceSync.Procedure
import DeviceSync.Service.Basic
import DeviceSync.Store.Nonces
import DeviceSync.Store.Tasks
import DeviceSync.Task.Outcome
import DeviceSync.Transport.Connection

/-!
# What tasks work on

A workspace holds the local identity, the stores, the services and the connection. `Call` lists the calls
that tasks make on it, and `Call.effect` says what each one does. Between two calls of a task anything
else may happen to the workspace.

A store call can be made to fail (`StoreFaults`); it then does nothing.
-/

namespace DeviceSync

/-- Store calls that are about to fail, each once. -/
structure StoreFaults where
  insertAll : Option StoreError := none
  removeAll : Option StoreError := none
  save : Option StoreError := none
  remove : Option StoreError := none
  load : Option StoreError := none
deriving DecidableEq

/-- The calls to the stores. -/
inductive StoreCall
  | insertAll
  | removeAll
  | save
  | remove
  | load
deriving DecidableEq

def StoreFaults.failNext (f : StoreFaults) (call : StoreCall) (e : StoreError) : StoreFaults :=
  match call with
  | .insertAll => { f with insertAll := some e }
  | .removeAll => { f with removeAll := some e }
  | .save => { f with save := some e }
  | .remove => { f with remove := some e }
  | .load => { f with load := some e }

/-- What tasks work on. -/
structure Workspace where
  identity : Identity
  nonces : NonceStore := .memory {}
  tasks : TaskStore := .memory {}
  faults : StoreFaults := {}
  services : Services := {}
  connection : Connection := {}
  /-- How many message names were drawn. -/
  drawn : Nat := 0

namespace Workspace

/-- Records nonces, unless the store fails. -/
def recordNonces (w : Workspace) (scope : Identity) (ns : List Nonce) :
    Except StoreError Bool × Workspace :=
  match w.faults.insertAll with
  | some e => (.error e, { w with faults.insertAll := none })
  | none =>
    let (inserted, nonces) := w.nonces.insertAll scope ns
    (.ok inserted, { w with nonces })

/-- Forgets nonces, unless the store fails. -/
def releaseNonces (w : Workspace) (scope : Identity) (ns : List Nonce) :
    Except StoreError Unit × Workspace :=
  match w.faults.removeAll with
  | some e => (.error e, { w with faults.removeAll := none })
  | none => (.ok (), { w with nonces := w.nonces.removeAll scope ns })

/-- Saves a task, unless the store fails. -/
def saveTask (w : Workspace) (id : TaskId) (data : TaskData) : Except StoreError Unit × Workspace :=
  match w.faults.save with
  | some e => (.error e, { w with faults.save := none })
  | none => (.ok (), { w with tasks := w.tasks.save id data })

/-- Forgets a task, unless the store fails. -/
def removeTask (w : Workspace) (id : TaskId) : Except StoreError Unit × Workspace :=
  match w.faults.remove with
  | some e => (.error e, { w with faults.remove := none })
  | none => (.ok (), { w with tasks := w.tasks.remove id })

/-- The pending tasks, unless the store fails. -/
def loadTasks (w : Workspace) : Except StoreError (List (TaskId × TaskData)) × Workspace :=
  match w.faults.load with
  | some e => (.error e, { w with faults.load := none })
  | none => (w.tasks.load, w)

/-- The pending tasks, as far as they can be read. -/
def pending (w : Workspace) : List (TaskId × TaskData) := w.tasks.load.toOption.getD []

def onServices {α : Type} (w : Workspace) (work : Services → α × Services) : α × Workspace :=
  let (a, services) := work w.services
  (a, { w with services })

def onConnection {α : Type} (w : Workspace) (work : Connection → α × Connection) : α × Workspace :=
  let (a, connection) := work w.connection
  (a, { w with connection })

end Workspace

/-- A call that a task makes. -/
inductive Call
  | recordNonces (scope : Identity) (nonces : List Nonce)
  | releaseNonces (scope : Identity) (nonces : List Nonce)
  | findMessage (conversation : Conversation) (id : MessageId)
  | deleteContents (message : StoredMessage)
  | react (reaction : Reaction)
  | createPoll (poll : Poll)
  | vote (vote : Vote)
  | bump (conversation : Conversation) (time : UInt64)
  /-- A new message name. -/
  | drawMessageId
  | require (callId : UInt32) (id : MessageId)
  /-- The time that a frame is on its way. -/
  | pause
  /-- The arrival of a frame at the other end. -/
  | deliver (frame : Bytes)

abbrev Call.Answer : Call → Type
  | recordNonces _ _ => Except StoreError Bool
  | releaseNonces _ _ => Except StoreError Unit
  | findMessage _ _ => Option StoredMessage
  | deleteContents _ | react _ | createPoll _ | vote _ | bump _ _ => Except ServiceError Unit
  | drawMessageId => MessageId
  | require _ _ => Unit
  | pause => Duration
  | deliver _ => Except TransportError Unit

def Call.effect : (c : Call) → Workspace → c.Answer × Workspace
  | recordNonces scope ns, w => w.recordNonces scope ns
  | releaseNonces scope ns, w => w.releaseNonces scope ns
  | findMessage c id, w => (w.services.message? c id, w)
  | deleteContents m, w => w.onServices (·.deleteContents m)
  | react r, w => w.onServices (·.react r)
  | createPoll p, w => w.onServices (·.createPoll p)
  | vote v, w => w.onServices (·.vote v)
  | bump c time, w => w.onServices (·.bump c time)
  | drawMessageId, w => (.ofUInt64 (UInt64.ofNat w.drawn), { w with drawn := w.drawn + 1 })
  | require callId id, w => ((), { w with services := w.services.require callId id })
  | pause, w => w.onConnection (·.nextDelay)
  | deliver frame, w => w.onConnection (·.deliver frame)

/-- A procedure that works on a workspace. -/
abbrev Work (α : Type) : Type := Procedure Call Call.Answer α

namespace Work

/-- Carries work out in one go. -/
def run {α : Type} (p : Work α) (w : Workspace) : α × Workspace := Procedure.run Call.effect p w

/-- Records nonces; false if one of them was recorded before. -/
def recordNonces (scope : Identity) (ns : List Nonce) : Work (Except TaskError Bool) :=
  .ask (.recordNonces scope ns) fun answer => .done (answer.mapError .ofStore)

def releaseNonces (scope : Identity) (ns : List Nonce) : Work (Except TaskError Unit) :=
  .ask (.releaseNonces scope ns) fun answer => .done (answer.mapError .ofStore)

def findMessage (c : Conversation) (id : MessageId) : Work (Option StoredMessage) :=
  .ask (.findMessage c id) .done

def deleteContents (m : StoredMessage) : Work (Except TaskError Unit) :=
  .ask (.deleteContents m) fun answer => .done (answer.mapError .ofService)

def react (r : Reaction) : Work (Except TaskError Unit) :=
  .ask (.react r) fun answer => .done (answer.mapError .ofService)

def createPoll (p : Poll) : Work (Except TaskError Unit) :=
  .ask (.createPoll p) fun answer => .done (answer.mapError .ofService)

def vote (v : Vote) : Work (Except TaskError Unit) :=
  .ask (.vote v) fun answer => .done (answer.mapError .ofService)

def bump (c : Conversation) (time : UInt64) : Work (Except TaskError Unit) :=
  .ask (.bump c time) fun answer => .done (answer.mapError .ofService)

/-- Names a message that a call will wait for. -/
def registerMessage (callId : UInt32) : Work MessageId :=
  .ask .drawMessageId fun id => .ask (.require callId id) fun () => .done id

/-- Sends a frame: it is on its way for a time, and then arrives or not. -/
def send (frame : Bytes) : Work (Except TaskError Unit) :=
  .ask .pause fun _ => .ask (.deliver frame) fun answer => .done (answer.mapError .ofTransport)

end Work

end DeviceSync
