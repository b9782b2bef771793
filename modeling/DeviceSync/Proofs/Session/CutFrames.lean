import DeviceSync.Proofs.Session.Pumping
import DeviceSync.Proofs.Wire.Truncation

/-!
# Frames that are cut off

What is lost at the end of a frame is noticed: no message, envelope, frame or stored task is decoded
from a strict prefix of an encoding (`truncated_encoding_is_refused`). A pump that receives such a
frame drops it and goes on.
-/

namespace DeviceSync

open Wire

namespace TruncationLemmas

/-- A strict prefix of the encoding of a value is refused. -/
theorem decode_cut {α : Type} [Encoded α] [LawfulEncoded α] {a : α} (fits : Encoded.Fits a)
    {cut : Bytes} (h : cut.IsCut (Encoded.encode a)) : Encoded.decode α cut = .error .malformed := by
  rw [Encoded.decode, Shape.decode_cut LawfulEncoded.legible fits h]

/-- A deletion has no part that could be too long. -/
theorem fits_deletion (m : DeleteMessage) : Encoded.Fits m := by
  obtain ⟨_ | _, _, _⟩ := m <;> exact ⟨by trivial, trivial, trivial, trivial⟩

/-- Neither has the answer to a call. -/
theorem fits_answer (m : CallAnswer) : Encoded.Fits m := by
  obtain ⟨_, _ | _, _⟩ := m <;> exact ⟨trivial, by trivial, trivial, trivial⟩

/-- A pump drops a frame that holds no envelope, and nothing else happens. -/
theorem pump_drops {frame : Bytes} {err : DecodeError}
    (undecodable : Encoded.decode Envelope frame = .error err) {q : TaskQueue} {w : Workspace}
    {later : List Bytes} (receives : w.connection.failingReceive = none)
    (next : w.connection.inbox = frame :: later) : Pump.receiving.step q w =
      some (.receiving, q, { w with connection := { w.connection with inbox := later } }) := by
  have hreceive : w.connection.receive = (.ok frame, { w.connection with inbox := later }) := by
    simp only [Connection.receive, receives, next]
  simp only [Pump.step, Pump.receive, Workspace.onConnection, hreceive, undecodable]

end TruncationLemmas

open TruncationLemmas

/-- A strict prefix of an encoding is decoded as nothing, wherever it was cut off. A pump that receives
a strict prefix of an envelope submits no task: it goes on receiving, and the queue and everything but
the frame stay as they are. -/
theorem truncated_encoding_is_refused (cut : Bytes) :
    (∀ m : DeleteMessage, cut.IsCut (Encoded.encode m) →
      Encoded.decode DeleteMessage cut = .error .malformed) ∧
    (∀ m : DeliveryReceipt, Encoded.Fits m → cut.IsCut (Encoded.encode m) →
      Encoded.decode DeliveryReceipt cut = .error .malformed) ∧
    (∀ m : PollSetup, Encoded.Fits m → cut.IsCut (Encoded.encode m) →
      Encoded.decode PollSetup cut = .error .malformed) ∧
    (∀ m : PollVote, Encoded.Fits m → cut.IsCut (Encoded.encode m) →
      Encoded.decode PollVote cut = .error .malformed) ∧
    (∀ m : CallAnswer, cut.IsCut (Encoded.encode m) →
      Encoded.decode CallAnswer cut = .error .malformed) ∧
    (∀ e : Envelope, Encoded.Fits e → cut.IsCut (Encoded.encode e) →
      Encoded.decode Envelope cut = .error .malformed) ∧
    (∀ f : Frame, Encoded.Fits f → cut.IsCut (Encoded.encode f) →
      Encoded.decode Frame cut = .error .malformed) ∧
    (∀ t : TaskData, Encoded.Fits t → cut.IsCut (Encoded.encode t) →
      Encoded.decode TaskData cut = .error .malformed) ∧
    ∀ e : Envelope, Encoded.Fits e → cut.IsCut (Encoded.encode e) →
      ∀ (q : TaskQueue) (w : Workspace) (later : List Bytes),
        w.connection.failingReceive = none → w.connection.inbox = cut :: later →
        Pump.receiving.step q w =
          some (.receiving, q, { w with connection := { w.connection with inbox := later } }) :=
  ⟨fun m h => decode_cut (fits_deletion m) h, fun _ fits h => decode_cut fits h,
    fun _ fits h => decode_cut fits h, fun _ fits h => decode_cut fits h,
    fun m h => decode_cut (fits_answer m) h, fun _ fits h => decode_cut fits h,
    fun _ fits h => decode_cut fits h, fun _ fits h => decode_cut fits h,
    fun _ fits h _ _ _ receives next => pump_drops (decode_cut fits h) receives next⟩

namespace Sample

/-- The vote without its last octet, before a whole one. -/
def shortVote : Workspace :=
  { fresh with
    connection := { inbox := [(Encoded.encode movingVote).dropLast, Encoded.encode movingVote] } }

theorem shortVote_isCut :
    Bytes.IsCut (Encoded.encode movingVote).dropLast (Encoded.encode movingVote) := by
  have hhead : (Encoded.encode movingVote).head? = some 0x96 := by rfl
  have hpositive := List.length_pos_of_mem (List.mem_of_head? hhead)
  refine ⟨List.dropLast_prefix _, fun h => ?_⟩
  have hlength := congrArg List.length h
  rw [List.length_dropLast] at hlength
  omega

end Sample

open Sample

/-- The pump drops the vote without its last octet, and next finds the whole one. -/
theorem shortened_vote_is_dropped :
    Encoded.decode Envelope (Encoded.encode movingVote).dropLast = .error .malformed ∧
    Pump.receiving.step (.start 1 .never) shortVote = some (.receiving, .start 1 .never,
      { fresh with connection := { inbox := [Encoded.encode movingVote] } }) := by
  obtain ⟨-, -, -, -, -, hrefused, -, -, hpump⟩ :=
    truncated_encoding_is_refused (Encoded.encode movingVote).dropLast
  exact ⟨hrefused movingVote movingVote_fits shortVote_isCut,
    hpump movingVote movingVote_fits shortVote_isCut (.start 1 .never) shortVote
      [Encoded.encode movingVote] rfl rfl⟩

end DeviceSync
