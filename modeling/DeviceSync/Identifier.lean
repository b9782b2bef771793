import DeviceSync.Bytes.Base64Url

/-!
# Identifiers

Messages and groups are named by eight octets, shown as hexadecimal digits. A nonce is a token of
twenty-four octets that may be used once, shown in base 64.
-/

namespace DeviceSync

/-- The name of a message, unique for its sender. -/
structure MessageId where
  block : Block 8
deriving DecidableEq

/-- The name of a group, unique for its creator. -/
structure GroupId where
  block : Block 8
deriving DecidableEq

/-- A token that protects one message against replay. -/
structure Nonce where
  block : Block 24
deriving DecidableEq

namespace MessageId

/-- The identifier whose octets are the little-endian form of a number. -/
def ofUInt64 (w : UInt64) : MessageId := ⟨Bytes.ofUInt64 w⟩

/-- The sixteen hexadecimal digits. -/
def toHex (m : MessageId) : String := Bytes.toHex m.block.bytes

instance : ToString MessageId := ⟨toHex⟩

/-- The identifier with its kind, for diagnosis. -/
def inspect (m : MessageId) : String := "MessageId(" ++ m.toHex ++ ")"

end MessageId

namespace GroupId

/-- The sixteen hexadecimal digits. -/
def toHex (g : GroupId) : String := Bytes.toHex g.block.bytes

instance : ToString GroupId := ⟨toHex⟩

/-- The identifier with its kind, for diagnosis. -/
def inspect (g : GroupId) : String := "GroupId(" ++ g.toHex ++ ")"

end GroupId

namespace Nonce

/-- The nonce with these octets, if there are twenty-four. -/
def ofBytes? (bs : Bytes) : Option Nonce := (Block.ofBytes? 24 bs).map Nonce.mk

/-- Unpadded base 64 text. -/
def toBase64 (n : Nonce) : String := Bytes.toBase64Url n.block.bytes

instance : ToString Nonce := ⟨toBase64⟩

/-- The start of the nonce with its kind, for diagnosis: the whole token is not shown. -/
def inspect (n : Nonce) : String :=
  "Nonce(" ++ String.ofList (n.toBase64.toList.take 8) ++ ")"

end Nonce

end DeviceSync
