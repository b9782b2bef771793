import DeviceSync.Wire.Head
import DeviceSync.Wire.Shape

/-!
# Decoding

The reader of a shape accepts every encoding that a peer may choose:

* a record as a list of exactly its fields, or as a table whose keys are field names or positions, in
  any order, each field once; entries with other keys are skipped with their value;
* octets in place of a list of numbers, of a block (longer ones are cut) or of a record of numbers;
* a variant as a table of one entry under its name or position, a bare variant also alone;
* numbers in any width that holds them, texts also as octets.

Octets after the value are left over. The first fault in reading order is the one reported. Lists,
tables and extensions may nest `maxLevels` deep.
-/

namespace DeviceSync.Wire

/-- How deep values may nest. -/
def maxLevels : Nat := 1023

/-- What names a field or a variant: its name, or its position. -/
inductive Key
  | name (octets : Bytes)
  | position (index : Nat)

/-- Whether the key stands for the first entry, which has the given name. -/
def Key.isFirst (name : String) : Key → Bool
  | .name bs => bs == Bytes.ofText name
  | .position i => i == 0

/-- The key seen from the entry after the first. -/
def Key.next : Key → Key
  | .name bs => .name bs
  | .position i => .position (i - 1)

namespace Reader

/-- What remains when the head of a value has been read one level deeper. -/
def nested {α : Type} (levels : Nat) (inner : Nat → Reader α) : Reader α :=
  match levels with
  | 0 => malformed
  | l + 1 => inner l

/-- A value that may or may not be there. -/
def ofOption {α : Type} : Option α → Reader α
  | some a => Reader.pure a
  | none => malformed

end Reader

/-- Leaves out whatever value comes next, whose parts are left out by `inner`. -/
def skipWith (inner : Reader Unit) (nestable : Bool) : Reader Unit := do
  match ← Head.read with
  | .nil | .flag _ | .whole _ | .signed _ | .real => return ()
  | .text n | .octets n => discard (Reader.octets n)
  | .list n => if nestable then discard (Reader.times inner n) else Reader.malformed
  | .table n => if nestable then discard (Reader.times inner (2 * n)) else Reader.malformed
  | .extension n => if nestable then discard (Reader.octets (n + 1)) else Reader.malformed
where
  discard {α : Type} (p : Reader α) : Reader Unit := do
    let _ ← p
    return ()

/-- Leaves out whatever value comes next, of at most the given depth. -/
def skip : Nat → Reader Unit
  | 0 => skipWith Reader.malformed false
  | levels + 1 => skipWith (skip levels) true

/-- A whole number from a head. -/
def Head.wholeValue? : Head → Option Nat
  | .whole n => some n
  | .signed i => if 0 ≤ i then some i.toNat else none
  | _ => none

def readNumber (w : Width) : Reader w.Carrier := do
  match (← Head.read).wholeValue? with
  | some n => if n < w.bound then return w.wrap n else Reader.malformed
  | none => Reader.malformed

def readText : Reader String := do
  match ← Head.read with
  | .text n | .octets n => Reader.ofOption (Bytes.toText? (← Reader.octets n))
  | _ => Reader.malformed

def readFlag : Reader Bool := do
  match ← Head.read with
  | .flag b => return b
  | _ => Reader.malformed

def readIdentity : Reader Identity := do
  let s ← readText
  match Identity.ofText? s with
  | some i => return i
  | none => Reader.fail (.invalidIdentity s)

/-- A block: a list of exactly its octets, or at least as many octets. -/
def readBlock (levels size : Nat) : Reader (Block size) := do
  match ← Head.read with
  | .list n =>
    Reader.nested levels fun _ => do
      if n = size then
        Reader.ofOption (Block.ofBytes? size (← Reader.times (readNumber .octet) n))
      else Reader.malformed
  | .octets n => Reader.ofOption (Block.take? size (← Reader.octets n))
  | _ => Reader.malformed

def readKeyFrom : Head → Reader Key
  | .whole n => return .position n
  | .text n | .octets n => return .name (← Reader.octets n)
  | _ => Reader.malformed

def readKey : Reader Key := do readKeyFrom (← Head.read)

/-- The value that a single octet gives where a number is expected. -/
def Shape.ofOctet? : (s : Shape) → UInt8 → Option s.Value
  | .number w, b => some (w.wrap b.toNat)
  | _, _ => none

/-- The values that the leading octets give where all fields are numbers. -/
def Fields.ofOctets? : (fs : Fields) → Bytes → Option fs.Values
  | .empty, _ => some ()
  | .field _ _ _, [] => none
  | .field _ s fs, b :: bs => do
    let v ← s.ofOctet? b
    let vs ← fs.ofOctets? bs
    return (v, vs)

/-- A record, given the readers for its list form and for one entry of its table form. -/
def readRecord (fs : Fields) (readList : Nat → Nat → Reader fs.Values)
    (readEntry : Nat → Key → fs.Slots → Reader fs.Slots) (levels : Nat) : Reader fs.Values := do
  match ← Head.read with
  | .list n => Reader.nested levels fun l => readList l n
  | .table n =>
    Reader.nested levels fun l => do
      let slots ← Reader.iterate (fun slots => do readEntry l (← readKey) slots) n fs.noSlots
      Reader.ofOption (fs.complete? slots)
  | .octets n => Reader.ofOption (fs.ofOctets? (← Reader.octets n))
  | _ => Reader.malformed

mutual
/-- Reads a value of the shape; its parts may nest `levels` deep. -/
def Shape.read : (s : Shape) → (levels : Nat) → Reader s.Value
  | .number w, _ => readNumber w
  | .flag, _ => readFlag
  | .text, _ => readText
  | .identity, _ => readIdentity
  | .block n, levels => readBlock levels n
  | .list s, levels => do
    match ← Head.read with
    | .list n => Reader.nested levels fun l => Reader.times (s.read l) n
    | .octets n => Reader.ofOption ((← Reader.octets n).mapM s.ofOctet?)
    | _ => Reader.malformed
  | .record fs, levels => readRecord fs fs.readList fs.readEntry levels
  | .choice vs, levels => do
    match ← Head.read with
    | .table n =>
      if n = 1 then vs.readFields levels (← readKey) else Reader.malformed
    | head => vs.readBare (← readKeyFrom head)

/-- Reads the fields in order, when a list of `count` values remains. -/
def Fields.readList : (fs : Fields) → (levels count : Nat) → Reader fs.Values
  | .empty, _, count => if count = 0 then Reader.pure () else Reader.malformed
  | .field _ _ _, _, 0 => Reader.malformed
  | .field _ s fs, levels, count + 1 => do
    let v ← s.read levels
    let vs ← fs.readList levels count
    return (v, vs)

/-- Reads the value of the entry with the given key into its slot, or leaves it out. -/
def Fields.readEntry : (fs : Fields) → (levels : Nat) → Key → fs.Slots → Reader fs.Slots
  | .empty, levels, _, () => skip levels
  | .field name s fs, levels, key, (slot, slots) =>
    if key.isFirst name then
      match slot with
      | some _ => Reader.malformed
      | none => do return (some (← s.read levels), slots)
    else do return (slot, ← fs.readEntry levels key.next slots)

/-- Reads the content of the variant with the given key. -/
def Variants.readFields : (vs : Variants) → (levels : Nat) → Key → Reader vs.Value
  | .empty, _, _ => Reader.malformed
  | .bare name vs, levels, key => do
    if key.isFirst name then
      match ← Head.read with
      | .nil => return .inl ()
      | _ => Reader.malformed
    else return .inr (← vs.readFields levels key.next)
  | .fields name fs vs, levels, key => do
    if key.isFirst name then return .inl (← readRecord fs fs.readList fs.readEntry levels)
    else return .inr (← vs.readFields levels key.next)

def Variants.readBare : (vs : Variants) → Key → Reader vs.Value
  | .empty, _ => Reader.malformed
  | .bare name vs, key => do
    if key.isFirst name then return .inl () else return .inr (← vs.readBare key.next)
  | .fields name _ vs, key => do
    if key.isFirst name then Reader.malformed else return .inr (← vs.readBare key.next)
end

/-- Reads a value from the start of the octets; what follows it is ignored. -/
def Shape.decode (s : Shape) (bs : Bytes) : Except DecodeError s.Value :=
  match s.read maxLevels bs with
  | .ok (v, _) => .ok v
  | .error e => .error e

end DeviceSync.Wire
