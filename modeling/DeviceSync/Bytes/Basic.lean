/-!
# Bytes

Byte strings are lists of octets. `Block n` is a byte string of exactly `n` octets, the form of every
identifier and hash in this library. `toHex` and `ofHex?` are the two directions of the hexadecimal
form.

Main statements: a block is its bytes (`Block.ext`), and the hexadecimal form and the octets of a text read
back (`ofHexDigits_toHexDigits`, `toText?_ofText`).
-/

namespace DeviceSync

/-- A string of octets. -/
abbrev Bytes := List UInt8

/-- A byte string of exactly `n` octets. -/
structure Block (n : Nat) where
  bytes : Bytes
  size_eq : bytes.length = n
deriving DecidableEq

namespace Block

@[ext] theorem ext {n : Nat} {a b : Block n} (h : a.bytes = b.bytes) : a = b := by
  cases a; cases b; simp_all

/-- The block that holds `bs`, if it has the right size. -/
def ofBytes? (n : Nat) (bs : Bytes) : Option (Block n) :=
  if h : bs.length = n then some ⟨bs, h⟩ else none

@[simp] theorem ofBytes?_bytes {n : Nat} (b : Block n) : ofBytes? n b.bytes = some b := by
  simp [ofBytes?, b.size_eq]

/-- The first `n` octets of a byte string that has at least `n`. -/
def take? (n : Nat) (bs : Bytes) : Option (Block n) :=
  if h : n ≤ bs.length then some ⟨bs.take n, by simp [h]⟩ else none

end Block

namespace Bytes

/-- The digits of hexadecimal text, as written. -/
def hexDigit (n : Nat) : Char :=
  if n < 10 then Char.ofNat (48 + n) else Char.ofNat (87 + n)

/-- The value of a hexadecimal digit in either case. -/
def hexValue? (c : Char) : Option Nat :=
  if '0' ≤ c ∧ c ≤ '9' then some (c.toNat - 48)
  else if 'a' ≤ c ∧ c ≤ 'f' then some (c.toNat - 87)
  else if 'A' ≤ c ∧ c ≤ 'F' then some (c.toNat - 55)
  else none

/-- Two lower-case digits for each octet. -/
def toHexDigits : Bytes → List Char
  | [] => []
  | b :: bs => hexDigit (b.toNat / 16) :: hexDigit (b.toNat % 16) :: toHexDigits bs

/-- Reads two digits for each octet; an odd digit or another character is refused. -/
def ofHexDigits? : List Char → Option Bytes
  | [] => some []
  | [_] => none
  | hi :: lo :: rest => do
    let h ← hexValue? hi
    let l ← hexValue? lo
    let bs ← ofHexDigits? rest
    return UInt8.ofNat (16 * h + l) :: bs

/-- Lower-case hexadecimal text. -/
def toHex (bs : Bytes) : String := String.ofList (toHexDigits bs)

/-- Reads hexadecimal text in either case. -/
def ofHex? (s : String) : Option Bytes := ofHexDigits? s.toList

theorem hexValue?_hexDigit : ∀ n : Nat, n < 16 → hexValue? (hexDigit n) = some n
  | 0, _ | 1, _ | 2, _ | 3, _ | 4, _ | 5, _ | 6, _ | 7, _ => by decide
  | 8, _ | 9, _ | 10, _ | 11, _ | 12, _ | 13, _ | 14, _ | 15, _ => by decide
  | _ + 16, h => absurd h (by omega)

theorem ofHexDigits_toHexDigits (bs : Bytes) : ofHexDigits? (toHexDigits bs) = some bs := by
  induction bs with
  | nil => rfl
  | cons b bs ih =>
    have hb : b.toNat < 256 := b.toNat_lt
    have hi := hexValue?_hexDigit (b.toNat / 16) (by omega)
    have lo := hexValue?_hexDigit (b.toNat % 16) (by omega)
    have value : UInt8.ofNat (16 * (b.toNat / 16) + b.toNat % 16) = b := by
      rw [show 16 * (b.toNat / 16) + b.toNat % 16 = b.toNat by omega, UInt8.ofNat_toNat]
    simp only [toHexDigits, ofHexDigits?, hi, lo, ih, Option.bind_eq_bind, Option.bind_some, value]
    rfl

/-- The little-endian octets of a 64-bit word. -/
def ofUInt64 (w : UInt64) : Block 8 :=
  ⟨(List.range 8).map fun i => UInt8.ofNat (w.toNat >>> (8 * i)), by simp⟩

def ofText (s : String) : Bytes := s.toByteArray.data.toList

/-- The text whose UTF-8 form the octets are. -/
def toText? (bs : Bytes) : Option String := String.fromUTF8? ⟨bs.toArray⟩

theorem toText?_ofText (s : String) : toText? (ofText s) = some s := by
  have hsame : (⟨(ofText s).toArray⟩ : ByteArray) = s.toByteArray := by simp [ofText]
  rw [toText?, hsame, String.fromUTF8?, dif_pos s.isValidUTF8]
  rfl

end Bytes

end DeviceSync
