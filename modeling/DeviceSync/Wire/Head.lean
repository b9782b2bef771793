import DeviceSync.Bytes.Basic

/-!
# Heads of values

A value in the wire format (MessagePack) starts with one marker octet, for some markers followed by a
big-endian number. Together they are the *head* of the value: a complete scalar, or the kind and the
length of what follows. `Head.read` accepts every head; the writers below give the shortest head of a
number, a text, a list or a table.

`Reader` is a function from the remaining octets to a result and the octets after it.
-/

namespace DeviceSync.Wire

/-- Why octets are not the encoding of a value. -/
inductive DecodeError
  /-- The octets are not well formed, or not of the expected shape. -/
  | malformed
  /-- A text stands where an identity is expected, and is none. -/
  | invalidIdentity (text : String)
deriving DecidableEq, Repr

/-- A reading step: the result and the remaining octets. -/
def Reader (α : Type) : Type := Bytes → Except DecodeError (α × Bytes)

namespace Reader

variable {α β : Type}

def pure (a : α) : Reader α := fun bs => .ok (a, bs)

def bind (p : Reader α) (f : α → Reader β) : Reader β := fun bs =>
  match p bs with
  | .ok (a, rest) => f a rest
  | .error e => .error e

instance : Monad Reader where
  pure := Reader.pure
  bind := Reader.bind

def fail (e : DecodeError) : Reader α := fun _ => .error e

/-- Refuses octets that are not well formed. -/
def malformed : Reader α := fail .malformed

def octet : Reader UInt8
  | [] => .error .malformed
  | b :: bs => .ok (b, bs)

def octets : Nat → Reader Bytes
  | 0, bs => .ok ([], bs)
  | _ + 1, [] => .error .malformed
  | n + 1, b :: bs =>
    match octets n bs with
    | .ok (taken, rest) => .ok (b :: taken, rest)
    | .error e => .error e

/-- The same step `n` times, with the list of results. -/
def times (p : Reader α) : Nat → Reader (List α)
  | 0 => Reader.pure []
  | n + 1 => do
    let a ← p
    let as ← times p n
    return a :: as

/-- A step that works on a state, `n` times. -/
def iterate (step : α → Reader α) : Nat → α → Reader α
  | 0, a => Reader.pure a
  | n + 1, a => do iterate step n (← step a)

end Reader

/-- The number that big-endian octets stand for. -/
def ofBigEndian (bs : Bytes) : Nat := bs.foldl (fun n b => 256 * n + b.toNat) 0

/-- The last `width` big-endian octets of a number. -/
def bigEndian : Nat → Nat → Bytes
  | 0, _ => []
  | w + 1, n => UInt8.ofNat (n >>> (8 * w)) :: bigEndian w n

/-- The number whose two's complement form in `width` octets is `n`. -/
def ofTwosComplement (width n : Nat) : Int :=
  if 2 * n < 1 <<< (8 * width) then n else (n : Int) - (1 <<< (8 * width) : Nat)

/-- What the start of a value says. -/
inductive Head
  | nil
  | flag (value : Bool)
  | whole (value : Nat)
  | signed (value : Int)
  | real
  | text (size : Nat)
  | octets (size : Nat)
  | list (count : Nat)
  | table (count : Nat)
  | extension (size : Nat)

/-- What a marker octet says: a head by itself, or one that depends on a number after it. -/
inductive Marker
  | alone (head : Head)
  | number (width : Nat) (head : Nat → Head)
  | reserved

/-- The meaning of a marker octet. -/
def Marker.ofOctet (b : UInt8) : Marker :=
  let n := b.toNat
  if n < 0x80 then .alone (.whole n)
  else if n < 0x90 then .alone (.table (n - 0x80))
  else if n < 0xa0 then .alone (.list (n - 0x90))
  else if n < 0xc0 then .alone (.text (n - 0xa0))
  else if n = 0xc0 then .alone .nil
  else if n = 0xc1 then .reserved
  else if n = 0xc2 then .alone (.flag false)
  else if n = 0xc3 then .alone (.flag true)
  else if n ≤ 0xc6 then .number (1 <<< (n - 0xc4)) .octets
  else if n ≤ 0xc9 then .number (1 <<< (n - 0xc7)) .extension
  else if n ≤ 0xcb then .number (1 <<< (n - 0xc8)) fun _ => .real
  else if n ≤ 0xcf then .number (1 <<< (n - 0xcc)) .whole
  else if n ≤ 0xd3 then
    .number (1 <<< (n - 0xd0)) fun value => .signed (ofTwosComplement (1 <<< (n - 0xd0)) value)
  else if n ≤ 0xd8 then .alone (.extension (1 <<< (n - 0xd4)))
  else if n ≤ 0xdb then .number (1 <<< (n - 0xd9)) .text
  else if n ≤ 0xdd then .number (1 <<< (n - 0xdb)) .list
  else if n ≤ 0xdf then .number (1 <<< (n - 0xdd)) .table
  else .alone (.signed (ofTwosComplement 1 n))

namespace Head

/-- Reads a head in any of its forms. -/
def read : Reader Head := do
  match Marker.ofOctet (← Reader.octet) with
  | .alone head => return head
  | .number width head => return head (ofBigEndian (← Reader.octets width))
  | .reserved => Reader.malformed

/-- The shortest head of a number below `2 ^ 64`. -/
def writeWhole (n : Nat) : Bytes :=
  if n < 0x80 then [UInt8.ofNat n]
  else if n < UInt8.size then 0xcc :: bigEndian 1 n
  else if n < UInt16.size then 0xcd :: bigEndian 2 n
  else if n < UInt32.size then 0xce :: bigEndian 4 n
  else 0xcf :: bigEndian 8 n

/-- The shortest head of a text of `n` octets. -/
def writeText (n : Nat) : Bytes :=
  if n < 32 then [UInt8.ofNat (0xa0 + n)]
  else if n < UInt8.size then 0xd9 :: bigEndian 1 n
  else if n < UInt16.size then 0xda :: bigEndian 2 n
  else 0xdb :: bigEndian 4 n

/-- The shortest head of a list of `n` values. -/
def writeList (n : Nat) : Bytes :=
  if n < 16 then [UInt8.ofNat (0x90 + n)]
  else if n < UInt16.size then 0xdc :: bigEndian 2 n
  else 0xdd :: bigEndian 4 n

end Head

end DeviceSync.Wire
