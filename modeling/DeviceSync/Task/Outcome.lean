import DeviceSync.Message.Dispatch
import DeviceSync.Service.Basic
import DeviceSync.Store.Tasks
import DeviceSync.Transport.Basic

/-!
# Outcomes of tasks

A task applied its effect, found the message already processed, or was passed over with a cause. A
fault is kept apart by what it asks for: `transient` faults may pass and are retried.
-/

namespace DeviceSync

/-- Why a task could not be carried out. -/
inductive TaskError
  | notFound (what : String)
  /-- May succeed when tried again. -/
  | transient (text : String)
  | protocol (text : String)
  | store (text : String)
deriving DecidableEq

namespace TaskError

def toText : TaskError → String
  | notFound what => "not found: " ++ what
  | transient text => "transient I/O error: " ++ text
  | protocol text => "fatal protocol error: " ++ text
  | store text => "store error: " ++ text

/-- Whether the task may succeed when tried again. -/
def isTransient : TaskError → Bool
  | transient _ => true
  | _ => false

/-- What a transport fault means for a task. -/
def ofTransport (e : TransportError) : TaskError := transient e.toText

/-- What a service fault means for a task. -/
def ofService : ServiceError → TaskError
  | .notFound what => notFound what
  | .unavailable text => transient text
  | .failed text => protocol text

def ofStore (e : StoreError) : TaskError := store e.toText

def ofWire (e : WireError) : TaskError := protocol e.toText

end TaskError

/-- Why a task was passed over. -/
inductive SkipCause
  | dispatch (reason : SkipReason)
  | decode (text : String)
  /-- A message protected against replay came without a nonce. -/
  | missingNonces
  | unsupportedReceipt (cause : UnsupportedReceipt)
  | notFound (what : String)
deriving DecidableEq

def SkipCause.toText : SkipCause → String
  | .dispatch reason => reason.toText
  | .decode text => "decode failed: " ++ text
  | .missingNonces => "replay protected message without nonces"
  | .unsupportedReceipt cause => cause.toText
  | .notFound what => "not found: " ++ what

/-- How a task ended. -/
inductive Outcome
  | completed
  /-- The message had been processed before. -/
  | duplicate
  | skipped (cause : SkipCause)
deriving DecidableEq

abbrev TaskResult := Except TaskError Outcome

end DeviceSync
