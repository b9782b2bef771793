import DeviceSync.Group.Operation
import DeviceSync.Transport.Basic

/-!
# Operations under way

Operations on the group and linking attempts run side by side, each call being one moment. A call that
takes long stands before a gate: while the gate is closed, the operation waits there. An operation can be
cut off at any call; it then leaves the lock, and the session that it holds.

`GroupSchedule.settle` lets everything happen that can happen, earlier operations first.
-/

namespace DeviceSync

/-- A call that may take long. -/
inductive Gate
  | registry (call : RegistryCall)
  | establishPath
  | provision
deriving DecidableEq

/-- The gate before a call, if there is one. -/
def GroupCall.gate? : GroupCall → Option Gate
  | register _ => some (.registry .register)
  | fetch => some (.registry .fetch)
  | dropOthers => some (.registry .drop)
  | deregister => some (.registry .deregister)
  | setForwardSecurity _ => some (.registry .forwardSecurity)
  | linking .establishPath => some .establishPath
  | linking .provision => some .provision
  | _ => none

/-- The group as one device sees it, with the lock that its operations share. -/
structure DeviceGroup where
  registry : Registry := {}
  state : GroupState := {}
  /-- How often a state was published. -/
  publications : Nat := 0
  /-- The operation that holds the lock. -/
  holder : Option Nat := none
  /-- The operations in line for the lock. -/
  line : List Nat := []
  /-- Why the server closed connections, in order. -/
  closes : List CloseReason := []

namespace DeviceGroup

def publish (g : DeviceGroup) (state : GroupState) : DeviceGroup :=
  { g with state, publications := g.publications + 1 }

def onRegistry {α : Type} (g : DeviceGroup) (call : Registry → α × Registry) : α × DeviceGroup :=
  let (a, registry) := call g.registry
  (a, { g with registry })

/-- An operation leaves the lock or its place in line. -/
def leave (g : DeviceGroup) (operation : Nat) : DeviceGroup :=
  { g with
    holder := g.holder.filter (· != operation)
    line := g.line.filter (· != operation) }

/-- Why the server closed the connection last. -/
def latestClose? (g : DeviceGroup) : Option CloseReason := g.closes.getLast?

end DeviceGroup

/-- What a call of an operation does, if it need not wait; `session?` is the session that the operation
holds, with the other side of the attempt. -/
def GroupCall.effect? (operation : Nat) :
    (c : GroupCall) → DeviceGroup → Option (LinkingSession × Provisioner) →
      Option (c.Answer × DeviceGroup × Option LinkingSession)
  | tryLock, g, _ =>
    if g.holder.isNone && g.line.isEmpty then some (true, { g with holder := some operation }, none)
    else some (false, g, none)
  | joinLine, g, _ => some ((), { g with line := g.line ++ [operation] }, none)
  | lock, g, _ =>
    if g.holder.isNone && g.line.head? = some operation then
      some ((), { g with holder := some operation, line := g.line.tail }, none)
    else none
  | unlock, g, _ => some ((), { g with holder := none }, none)
  | isActive, g, _ => some (g.state.active, g, none)
  | publish state, g, _ => some ((), g.publish state, none)
  | republish, g, _ => some ((), g.publish g.state, none)
  | publishDevice d, g, _ =>
    let devices := if d ∈ g.state.devices then g.state.devices else g.state.devices ++ [d]
    some ((), g.publish { g.state with devices }, none)
  | register label, g, _ => onGroup (g.onRegistry (·.register label))
  | fetch, g, _ => onGroup (g.onRegistry (·.fetch))
  | dropOthers, g, _ => onGroup (g.onRegistry (·.dropOthers))
  | deregister, g, _ => onGroup (g.onRegistry (·.deregister))
  | setForwardSecurity enabled, g, _ => onGroup (g.onRegistry (·.setForwardSecurity enabled))
  | linking c, g, some (s, p) => (c.effect? p s).map fun (answer, s) => (answer, g, some s)
  | linking _, _, none => none
where
  /-- The answer of a call that leaves the session as it is. -/
  onGroup {α : Type} (r : α × DeviceGroup) : Option (α × DeviceGroup × Option LinkingSession) :=
    some (r.1, r.2, none)

/-- What an operation ends with. -/
inductive OperationResult
  | done (result : Except GroupError Unit)
  | listed (result : Except GroupError (List LinkedDevice))
  | linked (result : Except GroupError LinkedDevice)
  | confirmed (result : Confirmation)
  | ran (result : Except LinkingError LinkedDevice)

/-- The handle on a session that an operation holds. -/
structure Seat where
  session : Nat
  provisioner : Provisioner
  /-- Whether the handle waits for the operator. -/
  waits : Bool := false

/-- An operation under way. -/
structure Operation where
  number : Nat
  work : GroupWork OperationResult
  seat : Option Seat := none

/-- Everything under way. -/
structure GroupSchedule where
  group : DeviceGroup := {}
  sessions : List LinkingSession := []
  /-- The gates that are closed. -/
  closed : List Gate := []
  operations : List Operation := []
  finished : List (Nat × OperationResult) := []

namespace GroupSchedule

def onSession (t : GroupSchedule) (i : Nat) (f : LinkingSession → LinkingSession) : GroupSchedule :=
  { t with sessions := t.sessions.modify i f }

/-- Replaces an operation by what has become of it. -/
def replace (t : GroupSchedule) (o : Operation) : GroupSchedule :=
  { t with operations := t.operations.map fun p => if p.number = o.number then o else p }

/-- Removes an operation, which gives up its handle. -/
def remove (t : GroupSchedule) (o : Operation) : GroupSchedule :=
  let t := { t with
    group := t.group.leave o.number
    operations := t.operations.filter (·.number != o.number) }
  match o.seat with
  | none => t
  | some seat =>
    t.onSession seat.session fun s => if seat.waits then s.abandonWait.drop else s.drop

/-- Whether the handle waits after a call. -/
def waitsAfter : (c : GroupCall) → c.Answer → Bool → Bool
  | .linking .startWait, .ok (), _ => true
  | .linking .finishWait, _, _ => false
  | _, _, waits => waits

/-- The session that an operation holds, with the other side. -/
def session? (t : GroupSchedule) (o : Operation) : Option (LinkingSession × Provisioner) := do
  let seat ← o.seat
  let s ← t.sessions[seat.session]?
  return (s, seat.provisioner)

/-- The next call of an operation, if it need not wait; after the last one the operation ends. -/
def advance? (t : GroupSchedule) (o : Operation) : Option GroupSchedule :=
  match o.work with
  | .done result =>
    let t := t.remove o
    some { t with finished := t.finished ++ [(o.number, result)] }
  | .ask c next =>
    if c.gate?.any (t.closed.contains ·) then none
    else
      match c.effect? o.number t.group (t.session? o) with
      | none => none
      | some (answer, group, session?) =>
        let seat := o.seat.map fun seat => { seat with waits := waitsAfter c answer seat.waits }
        let t := { t with group }.replace { o with work := next answer, seat }
        some <| match session?, o.seat with
          | some s, some seat => t.onSession seat.session fun _ => s
          | _, _ => t

/-- The next call of the first operation that need not wait. -/
def next? (t : GroupSchedule) : Option GroupSchedule := t.operations.findSome? t.advance?

/-- Lets calls happen as long as there are any; the fuel bounds their number. -/
def run : (fuel : Nat) → GroupSchedule → GroupSchedule
  | 0, t => t
  | fuel + 1, t =>
    match t.next? with
    | some t => run fuel t
    | none => t

/-- Lets everything happen that can happen. -/
def settle (t : GroupSchedule) : GroupSchedule := run (1 <<< 32) t

def start (t : GroupSchedule) (o : Operation) : GroupSchedule :=
  { t with operations := t.operations ++ [o] }

/-- Cuts an operation off, if it is under way. -/
def abort (t : GroupSchedule) (number : Nat) : Bool × GroupSchedule :=
  match t.operations.find? (·.number == number) with
  | some o => (true, t.remove o)
  | none => (false, t)

/-- Closes a gate. -/
def hold (t : GroupSchedule) (gate : Gate) : GroupSchedule :=
  { t with closed := gate :: t.closed.filter (· != gate) }

/-- Opens a gate. -/
def release (t : GroupSchedule) (gate : Gate) : GroupSchedule :=
  { t with closed := t.closed.filter (· != gate) }

end GroupSchedule

end DeviceSync
