import DeviceSync.Bytes.Basic
import DeviceSync.Text.Combining
import DeviceSync.Text.Invisible

/-!
# Identities

The identity that all devices of one user share: eight characters, each a capital letter, a digit or
an asterisk (the mark of a gateway). `ofText?` is the only way in, so every value is well formed.

A text that was refused is shown between double quotes. The quote, the backslash and the usual control
characters are written with a backslash; every other character that a reader could not see for itself
is written by its code point.
-/

namespace DeviceSync.Text

/-- Lower-case hexadecimal digits of a number, without padding. -/
def hexDigits (n : Nat) : String := String.ofList (Nat.toDigits 16 n)

/-- A character as it stands between the quotes. -/
def quoteChar (c : Char) : String :=
  if c = '"' then "\\\""
  else if c = '\\' then "\\\\"
  else if c = '\n' then "\\n"
  else if c = '\r' then "\\r"
  else if c = '\t' then "\\t"
  else if c = '\x00' then "\\0"
  else if isCombining c || isInvisible c then "\\u\x7b" ++ hexDigits c.toNat ++ "\x7d"
  else c.toString

/-- The text between double quotes. -/
def quoted (s : String) : String := "\"" ++ String.join (s.toList.map quoteChar) ++ "\""

/-- A number with two hexadecimal digits and the mark `0x`, as type tags are written. -/
def tag (b : UInt8) : String :=
  "0x" ++ (if b < 16 then "0" else "") ++ hexDigits b.toNat

end DeviceSync.Text

namespace DeviceSync

/-- A character that an identity may contain. -/
def Identity.isAllowed (c : Char) : Bool :=
  ('A' ≤ c && c ≤ 'Z') || ('0' ≤ c && c ≤ '9') || c == '*'

/-- Eight octets of allowed characters. -/
def Identity.isValid (s : String) : Bool :=
  s.utf8ByteSize == 8 && s.toList.all isAllowed

/-- The identity shared by all devices of one user. -/
structure Identity where
  text : String
  valid : Identity.isValid text = true
deriving DecidableEq

namespace Identity

@[ext] theorem ext {a b : Identity} (h : a.text = b.text) : a = b := by
  cases a; cases b; simp_all

/-- The identity with this text, if the text is well formed. -/
def ofText? (s : String) : Option Identity :=
  if h : isValid s = true then some ⟨s, h⟩ else none

@[simp] theorem ofText?_text (i : Identity) : ofText? i.text = some i := by
  simp [ofText?, i.valid]

/-- What is said of a text that is no identity. -/
def refusal (s : String) : String := "invalid identity: " ++ Text.quoted s

/-- The octets of the text. -/
def toBytes (i : Identity) : Bytes := Bytes.ofText i.text

instance : ToString Identity := ⟨text⟩

/-- The identity with its kind, for diagnosis. -/
def inspect (i : Identity) : String := "IdentityId(" ++ i.text ++ ")"

/-- Identities in ascending order of their texts, without repetitions. -/
def sorted (ids : List Identity) : List Identity :=
  (ids.mergeSort fun a b => decide (a.text ≤ b.text)).eraseReps

end Identity

end DeviceSync
