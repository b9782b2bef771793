import DeviceSync.Bytes.Basic
import DeviceSync.Duration
import DeviceSync.Transport.Basic

/-!
# A connection

The mediator connection as the tasks see it, with everything that can go wrong on it laid down in
advance: frames that will arrive, sends that will take their time or fail, a receive that will fail.

Sending has two steps. `nextDelay` says how long the next frame is on its way, and `deliver` decides what
becomes of it at the end of that time.
-/

namespace DeviceSync

/-- A connection. -/
structure Connection where
  disconnected : Bool := false
  /-- Frames that arrived at the other end, in order. -/
  sent : List Bytes := []
  /-- Frames still to be received, in order. -/
  inbox : List Bytes := []
  /-- How long the next sends take. -/
  delays : List Duration := []
  /-- How many of the next sends fail. -/
  failingSends : Nat := 0
  failingReceive : Option String := none
  closeReason : Option CloseReason := none
  /-- The close reason is kept from those who ask. -/
  discreet : Bool := false
deriving DecidableEq

namespace Connection

/-- The time that the next send takes, which is then used up. -/
def nextDelay (c : Connection) : Duration × Connection :=
  match c.delays with
  | [] => (.zero, c)
  | d :: rest => (d, { c with delays := rest })

/-- The end of a send. -/
def deliver (c : Connection) (frame : Bytes) : Except TransportError Unit × Connection :=
  if c.disconnected then (.error .notConnected, c)
  else
    match c.failingSends with
    | n + 1 => (.error (.sendFailed "injected failure"), { c with failingSends := n })
    | 0 => (.ok (), { c with sent := c.sent ++ [frame] })

/-- A whole send. -/
def send (c : Connection) (frame : Bytes) : Except TransportError Unit × Connection :=
  c.nextDelay.2.deliver frame

/-- Records the close reason, if there is none yet. -/
def closeNormally (c : Connection) : Connection :=
  { c with closeReason := c.closeReason <|> some .normal }

/-- The next frame; after the last one the connection counts as closed. -/
def receive (c : Connection) : Except TransportError Bytes × Connection :=
  match c.failingReceive with
  | some text => (.error (.receiveFailed text), { c with failingReceive := none })
  | none =>
    match c.inbox with
    | frame :: rest => (.ok frame, { c with inbox := rest })
    | [] => (.error .connectionClosed, c.closeNormally)

def close (c : Connection) : Connection := { c.closeNormally with disconnected := true }

/-- The other end closes the connection. -/
def closeWith (c : Connection) (reason : CloseReason) : Connection :=
  { c with disconnected := true, closeReason := some reason }

/-- The close reason that the connection tells. -/
def toldReason (c : Connection) : Option CloseReason := if c.discreet then none else c.closeReason

/-- A fresh connection, as discreet as this one. -/
def reset (c : Connection) : Connection := { discreet := c.discreet }

end Connection

end DeviceSync
