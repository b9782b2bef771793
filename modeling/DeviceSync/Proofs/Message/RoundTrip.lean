import DeviceSync.Message.Wire
import DeviceSync.Proofs.Wire.RoundTrip
import Mathlib.Data.List.Basic

/-!
# Messages read back

Every message, envelope, frame and stored task is decoded from its encoding, whatever follows it.

1. `Encoded.Fits`: the texts and lists of a value are short enough to be written.
2. `LawfulEncoded`: the shape of a type can be read, and the passage to the value of the shape and
   back loses nothing. With both, `decode_encode` is the round trip of any type.
3. `encoded_message_reads_back`: the round trip of all types that travel or are stored.
-/

namespace DeviceSync

open Wire

/-- All texts and lists in the value are shorter than `2 ^ 32`. -/
def Encoded.Fits {α : Type} [Encoded α] (a : α) : Prop := (Encoded.shape α).Fits (Encoded.toValue a)

/-- A type whose values can be told from their encodings. -/
class LawfulEncoded (α : Type) [Encoded α] : Prop where
  legible : (Encoded.shape α).legible maxLevels = true
  ofValue_toValue : ∀ a : α, Encoded.ofValue (Encoded.toValue a) = a

namespace LawfulEncoded

/-- Nothing is lost in a list of values either. -/
theorem map_ofValue_toValue {α : Type} [Encoded α] [LawfulEncoded α] (as : List α) :
    (as.map Encoded.toValue).map (@Encoded.ofValue α _) = as :=
  Function.LeftInverse.list_map ofValue_toValue as

instance : LawfulEncoded Conversation where
  legible := by decide
  ofValue_toValue c := by cases c <;> rfl

instance : LawfulEncoded DeleteMessage where
  legible := by decide
  ofValue_toValue m := by
    show DeleteMessage.mk (Encoded.ofValue (Encoded.toValue m.conversation)) _ _ = m
    rw [ofValue_toValue]

instance : LawfulEncoded DeliveryReceipt where
  legible := by decide
  ofValue_toValue m := by
    show DeliveryReceipt.mk (Encoded.ofValue (Encoded.toValue m.conversation)) _
      ((m.messageIds.map (·.block)).map MessageId.mk) _ = m
    rw [ofValue_toValue, Function.LeftInverse.list_map (fun _ => rfl)]

instance : LawfulEncoded PollChoice where
  legible := by decide
  ofValue_toValue _ := rfl

instance : LawfulEncoded PollSetup where
  legible := by decide
  ofValue_toValue m := by
    show PollSetup.mk (Encoded.ofValue (Encoded.toValue m.conversation)) _ _
      ((m.choices.map Encoded.toValue).map Encoded.ofValue) _ _ = m
    rw [ofValue_toValue, map_ofValue_toValue]

instance : LawfulEncoded PollVote where
  legible := by decide
  ofValue_toValue m := by
    show PollVote.mk (Encoded.ofValue (Encoded.toValue m.conversation)) _ _ _ _ = m
    rw [ofValue_toValue]

instance : LawfulEncoded CallAction where
  legible := by decide
  ofValue_toValue a := by cases a <;> rfl

instance : LawfulEncoded CallAnswer where
  legible := by decide
  ofValue_toValue m := by
    show CallAnswer.mk _ (Encoded.ofValue (Encoded.toValue m.action)) _ = m
    rw [ofValue_toValue]

instance : LawfulEncoded Envelope where
  legible := by decide
  ofValue_toValue e := by
    show Envelope.mk _ _ _ _ ((e.nonces.map (·.block)).map Nonce.mk) _ = e
    rw [Function.LeftInverse.list_map (fun _ => rfl)]

instance : LawfulEncoded Frame where
  legible := by decide
  ofValue_toValue f := by cases f <;> rfl

instance : LawfulEncoded TaskData where
  legible := by decide
  ofValue_toValue t := by
    cases t with
    | reflected e =>
      show TaskData.reflected (Encoded.ofValue (Encoded.toValue e)) = _
      rw [ofValue_toValue]

end LawfulEncoded

/-- A value is decoded from its encoding, and what follows is ignored. -/
theorem Encoded.decode_encode {α : Type} [Encoded α] [LawfulEncoded α] {a : α} (fits : Fits a)
    (rest : Bytes) : decode α (encode a ++ rest) = .ok a := by
  rw [decode, encode, Shape.decode_write LawfulEncoded.legible fits]
  exact congrArg Except.ok (LawfulEncoded.ofValue_toValue a)

/-- What travels or is stored reads back: each message, envelope, frame and stored task is decoded
from its encoding, with any octets after it. -/
theorem encoded_message_reads_back (rest : Bytes) :
    (∀ m : DeleteMessage, Encoded.decode DeleteMessage (Encoded.encode m ++ rest) = .ok m) ∧
    (∀ m : DeliveryReceipt, Encoded.Fits m →
      Encoded.decode DeliveryReceipt (Encoded.encode m ++ rest) = .ok m) ∧
    (∀ m : PollSetup, Encoded.Fits m →
      Encoded.decode PollSetup (Encoded.encode m ++ rest) = .ok m) ∧
    (∀ m : PollVote, Encoded.Fits m →
      Encoded.decode PollVote (Encoded.encode m ++ rest) = .ok m) ∧
    (∀ m : CallAnswer, Encoded.decode CallAnswer (Encoded.encode m ++ rest) = .ok m) ∧
    (∀ e : Envelope, Encoded.Fits e → Encoded.decode Envelope (Encoded.encode e ++ rest) = .ok e) ∧
    (∀ f : Frame, Encoded.Fits f → Encoded.decode Frame (Encoded.encode f ++ rest) = .ok f) ∧
    ∀ t : TaskData, Encoded.Fits t → Encoded.decode TaskData (Encoded.encode t ++ rest) = .ok t := by
  -- A deletion and an answer to a call have no part that could be too long.
  have hdelete : ∀ m : DeleteMessage, Encoded.Fits m := by
    rintro ⟨_ | _, _, _⟩ <;> exact ⟨by trivial, trivial, trivial, trivial⟩
  have hanswer : ∀ m : CallAnswer, Encoded.Fits m := by
    rintro ⟨_, _ | _, _⟩ <;> exact ⟨trivial, by trivial, trivial, trivial⟩
  exact ⟨fun m => Encoded.decode_encode (hdelete m) rest, fun _ h => Encoded.decode_encode h rest,
    fun _ h => Encoded.decode_encode h rest, fun _ h => Encoded.decode_encode h rest,
    fun m => Encoded.decode_encode (hanswer m) rest, fun _ h => Encoded.decode_encode h rest,
    fun _ h => Encoded.decode_encode h rest, fun _ h => Encoded.decode_encode h rest⟩

namespace Sample

/-- A poll about lunch. -/
def lunch : PollSetup :=
  ⟨.group ⟨"ECHOECHO", by decide⟩ ⟨⟨List.replicate 8 4, rfl⟩⟩, 42, "Lunch?", [⟨0, "Yes"⟩, ⟨1, "Nö"⟩],
    false, .guardedBump⟩

theorem lunch_fits : Encoded.Fits lunch := by
  simp [Encoded.Fits, Encoded.shape, Encoded.toValue, Shape.Fits, Fields.Fits, Variants.Fits, lunch]
  decide

end Sample

/-- The poll is decoded, although a reserved marker follows it. -/
theorem lunch_poll_reads_back :
    Encoded.decode PollSetup (Encoded.encode Sample.lunch ++ [0xc1]) = .ok Sample.lunch :=
  (encoded_message_reads_back [0xc1]).2.2.1 Sample.lunch Sample.lunch_fits

end DeviceSync
