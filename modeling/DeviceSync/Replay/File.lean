import DeviceSync.Message.Basic
import DeviceSync.Text.Json

/-!
# Replay files

A replay file is a JSON list of envelopes. An envelope is an object with a key for each field, or a list
of the fields in order; octets are written as numbers.

`Envelope.readAll?` reads a file, and `Envelope.writeAll` writes one.
-/

namespace DeviceSync

open Text

namespace Text.JsonValue

/-- A number below a bound. -/
def below? (bound : Nat) : JsonValue → Option Nat
  | .integer (.ofNat n) => if n < bound then some n else none
  | _ => none

/-- A list of values that are read alike. -/
def listOf? {α : Type} (item : JsonValue → Option α) : JsonValue → Option (List α)
  | .list items => items.mapM item
  | _ => none

def bytes? : JsonValue → Option Bytes :=
  listOf? fun v => (below? UInt8.size v).map UInt8.ofNat

def block? (n : Nat) (v : JsonValue) : Option (Block n) := (bytes? v).bind (Block.ofBytes? n)

def identity? : JsonValue → Option Identity
  | .text (some s) => Identity.ofText? s
  | _ => none

end Text.JsonValue

namespace Envelope

def fieldNames : List String :=
  ["message_id", "sender_identity", "created_at", "msg_type", "nonces", "payload"]

def ofFields? : List JsonValue → Option Envelope
  | [id, sender, time, tag, nonces, payload] => do
    return {
      messageId := ⟨← JsonValue.block? 8 id⟩
      sender := ← JsonValue.identity? sender
      createdAt := .ofNat (← JsonValue.below? UInt64.size time)
      tag := .ofNat (← JsonValue.below? UInt8.size tag)
      nonces := (← JsonValue.listOf? (JsonValue.block? 24) nonces).map Nonce.mk
      payload := ← JsonValue.bytes? payload }
  | _ => none

/-- The value of a field that an object has once. -/
def field? (entries : List (Option String × JsonValue)) (name : String) : Option JsonValue :=
  match entries.filter (·.1 == some name) with
  | [(_, v)] => some v
  | _ => none

/-- Reads an envelope. Keys that are no fields are ignored. -/
def ofJson? : JsonValue → Option Envelope
  | .list fields => ofFields? fields
  | .object entries =>
    if entries.all (·.1.isSome) then (fieldNames.mapM (field? entries)).bind ofFields? else none
  | _ => none

def writeList (parts : List String) : String := "[" ++ ",".intercalate parts ++ "]"

def writeBytes (bs : Bytes) : String := writeList (bs.map (toString ·.toNat))

def writtenFields (e : Envelope) : List String :=
  [writeBytes e.messageId.block.bytes, "\"" ++ e.sender.text ++ "\"", toString e.createdAt.toNat,
    toString e.tag.toNat, writeList (e.nonces.map (writeBytes ·.block.bytes)), writeBytes e.payload]

def write (e : Envelope) : String :=
  let entry (name value : String) : String := "\"" ++ name ++ "\":" ++ value
  "\x7b" ++ ",".intercalate (List.zipWith entry fieldNames e.writtenFields) ++ "\x7d"

def writeAll (es : List Envelope) : String := writeList (es.map write)

def readAll? (s : String) : Option (List Envelope) :=
  (JsonValue.read? s).bind (JsonValue.listOf? ofJson?)

end Envelope

end DeviceSync
