import DeviceSync.Bytes.Basic

/-!
# Linking states

A new device is linked over a rendezvous path between it and an existing device. Both ends derive the
same hash of the path, while someone in the middle would see two different paths. The operator compares
a short code made from the hash on both screens, and only after a match is provisioning material sent.

`LinkingState.step` is the whole protocol: the next state, and what is to be done about it.
-/

namespace DeviceSync

/-- The hash of a rendezvous path. -/
structure PathHash where
  block : Block 32
deriving DecidableEq

/-- The code that the operator compares: three numbers below 128. -/
structure ShortCode where
  first : UInt8
  second : UInt8
  third : UInt8
deriving DecidableEq

namespace PathHash

/-- The hash as hexadecimal text. -/
def toHex (h : PathHash) : String := Bytes.toHex h.block.bytes

/-- The start of the hash with its kind, for diagnosis. -/
def inspect (h : PathHash) : String :=
  "RendezvousPathHash(" ++ Bytes.toHex (h.block.bytes.take 4) ++ "..)"

/-- The first three octets of the hash, each modulo 128. -/
def shortCode (h : PathHash) : ShortCode :=
  let reduce (i : Nat) : UInt8 := h.block.bytes.getD i 0 % 128
  ⟨reduce 0, reduce 1, reduce 2⟩

end PathHash

namespace ShortCode

/-- The three numbers, as the operator sees them. -/
def toText (c : ShortCode) : String :=
  toString c.first.toNat ++ "-" ++ toString c.second.toNat ++ "-" ++ toString c.third.toNat

end ShortCode

/-- Why a device was not linked. -/
inductive LinkingError
  /-- The operator saw two different codes; the text is the path hash in hexadecimal. -/
  | declined (path : String)
  | cancelled (reason : String)
  | transport (text : String)
  | timeout
  | provisioning (text : String)
deriving DecidableEq

namespace LinkingError

def toText : LinkingError → String
  | declined path => "rendezvous path declined by operator (rph=" ++ path ++ ")"
  | cancelled reason => "linking cancelled: " ++ reason
  | transport text => "linking transport error: " ++ text
  | timeout => "linking timed out"
  | provisioning text => "provisioning failed: " ++ text

def isDeclined : LinkingError → Bool
  | declined _ => true
  | _ => false

end LinkingError

/-- How far linking has come. -/
inductive LinkingState
  | connecting
  /-- The path is there; the operator compares the code. -/
  | connected (path : PathHash) (code : ShortCode)
  | confirmed
  | declined
  /-- The end, with its cause if that is known. -/
  | failed (cause : Option LinkingError)
  /-- The end: the device is linked. -/
  | completed
deriving DecidableEq

/-- What happens to a linking attempt. -/
inductive LinkingEvent
  | established (path : PathHash)
  | confirmed
  | declined
  | provisioned
  | failed (cause : LinkingError)
deriving DecidableEq

/-- What is to be done after an event. -/
inductive LinkingAction
  | showCode (code : ShortCode)
  /-- Tell whoever waits that the operator confirmed. -/
  | resolve
  /-- Tell whoever waits that the operator will not confirm. -/
  | reject (error : LinkingError)
deriving DecidableEq

namespace LinkingState

/-- The next state and what is to be done; an event that does not fit the state changes nothing. -/
def step : LinkingState → LinkingEvent → LinkingState × List LinkingAction
  | .connecting, .established path => (.connected path path.shortCode, [.showCode path.shortCode])
  | .connected _ _, .confirmed => (.confirmed, [.resolve])
  | .connected path _, .declined => (.declined, [.reject (.declined path.toHex)])
  | .connected _ _, .failed cause => (.failed (some cause), [.reject cause])
  | .confirmed, .provisioned => (.completed, [])
  | .connecting, .failed cause => (.failed (some cause), [])
  | .confirmed, .failed cause => (.failed (some cause), [])
  | .declined, .failed cause => (.failed (some cause), [])
  | state, _ => (state, [])

/-- The states after each of some events, each with what is to be done. -/
def trace (s : LinkingState) : List LinkingEvent → List (LinkingState × List LinkingAction)
  | [] => []
  | e :: es => s.step e :: trace (s.step e).1 es

/-- The code to show, while the operator compares. -/
def shortCode? : LinkingState → Option ShortCode
  | .connected _ code => some code
  | _ => none

/-- Whether linking has ended. -/
def isTerminal : LinkingState → Bool
  | .completed | .failed _ => true
  | _ => false

end LinkingState

end DeviceSync
