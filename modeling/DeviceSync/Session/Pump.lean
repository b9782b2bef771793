import DeviceSync.Queue.Step

/-!
# The pump

A pump receives frames and submits a task for every frame that holds an envelope; other frames are
dropped. It ends when the connection does, or when the queue refuses a task, in which case it closes the
connection itself.
-/

namespace DeviceSync

/-- What a pump is doing. -/
inductive Pump
  | receiving
  /-- It stands in line with its task. -/
  | submitting (ticket : Nat)
  | ended (reason : CloseReason)
deriving DecidableEq

namespace Pump

def reason? : Pump → Option CloseReason
  | ended reason => some reason
  | _ => none

/-- The end of a pump: the connection's own reason comes first, then the pump's. -/
def conclude (fallback : Option CloseReason) (c : Connection) : Pump :=
  ended ((c.toldReason <|> fallback).getD (.abnormal "connection lost"))

/-- The pump receives a frame. -/
def receive (q : TaskQueue) (w : Workspace) : Pump × TaskQueue × Workspace :=
  let (received, w) := w.onConnection (·.receive)
  match received with
  | .ok frame =>
    match Encoded.decode Envelope frame with
    | .ok e =>
      let (ticket, q) := q.join (.submit (.reflected e))
      (submitting ticket, q, w)
    | .error _ => (receiving, q, w)
  | .error .connectionClosed => (conclude none w.connection, q, w)
  | .error e => (conclude (some (.abnormal e.toText)) w.connection, q, w)

/-- The next step of a pump, if one is possible now. -/
def step (p : Pump) (q : TaskQueue) (w : Workspace) : Option (Pump × TaskQueue × Workspace) :=
  match p with
  | receiving => some (receive q w)
  | submitting ticket =>
    match q.reply? ticket with
    | none => none
    | some (.refused _) =>
      let w := { w with connection := w.connection.close }
      some (conclude (some .normal) w.connection, q, w)
    | some _ => some (receiving, q, w)
  | ended _ => none

end Pump

end DeviceSync
