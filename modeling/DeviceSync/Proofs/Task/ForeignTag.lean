import DeviceSync.Proofs.Message.RoundTrip
import DeviceSync.Proofs.Task.Attempt
import DeviceSync.Proofs.Wire.Refusals

/-!
# Messages under a foreign tag

The payload of an envelope does not say what it is; the tag does. A message that comes under the tag
of another one is passed over, whatever is in it.

1. `Content`: what may be in an envelope. `Content.BelongsTo` says under which tag it is handled, and
   under this tag it is what the envelope `Carries` (`Content.BelongsTo.carries`).
2. Under a tag for another kind of message the payload is not read (`Payload.refused_of_kind`). All
   kinds differ in the number of their fields, and so does the answer to a call from all of them but a
   deletion, which starts with another kind of field (`CallAnswer.refused`).
3. Under a tag for another kind of conversation it may be read, but its conversation is read as it was
   written (`Payload.conversation_of_decode`), and found to be of the wrong kind.
4. `foreign_message_is_passed_over`.
-/

namespace DeviceSync

open Procedure Wire

/-! ## 1. Contents -/

/-- The octets of a message. -/
def Payload.encode : Payload → Bytes
  | delete m => Encoded.encode m
  | receipt m => Encoded.encode m
  | pollSetup m => Encoded.encode m
  | pollVote m => Encoded.encode m

/-- The texts and lists of a message are short enough to be written. -/
def Payload.Fits : Payload → Prop
  | delete m => Encoded.Fits m
  | receipt m => Encoded.Fits m
  | pollSetup m => Encoded.Fits m
  | pollVote m => Encoded.Fits m

/-- What may be in an envelope: a message that is reflected, or an answer to a call, which is not. -/
inductive Content
  | message (p : Payload)
  | answer (a : CallAnswer)

namespace Content

def encode : Content → Bytes
  | message p => p.encode
  | answer a => Encoded.encode a

/-- The content is handled under this tag. -/
def BelongsTo (tag : UInt8) : Content → Prop
  | message p => dispatch tag = .handle p.kind p.conversation.scope
  | answer _ => False

end Content

namespace ForeignTagLemmas

theorem decode_encode {p : Payload} (fits : p.Fits) : Payload.decode p.kind p.encode = .ok p := by
  have hread : ∀ (α : Type) [Encoded α] [LawfulEncoded α] (m : α), Encoded.Fits m →
      Encoded.decode α (Encoded.encode m) = .ok m := by
    intro α _ _ m hm
    have hdecode := Encoded.decode_encode hm []
    rwa [List.append_nil] at hdecode
  cases p with
  | delete m | receipt m | pollSetup m | pollVote m =>
    simp only [Payload.decode, Payload.kind, Payload.encode, hread _ m fits]

end ForeignTagLemmas

open ForeignTagLemmas

/-- Under its own tag a message is what the envelope carries. -/
theorem Content.BelongsTo.carries {e : Envelope} {p : Payload}
    (own : (Content.message p).BelongsTo e.tag) (payload : e.payload = p.encode) (fits : p.Fits) :
    e.Carries p :=
  ⟨p.kind, p.conversation.scope, own, by rw [payload, decode_encode fits]⟩

/-! ## 2. Another kind of message -/

namespace ForeignTagLemmas

theorem decode_of_error {α : Type} [Encoded α] {bs : Bytes} {err : DecodeError}
    (h : (Encoded.shape α).decode bs = .error err) : Encoded.decode α bs = .error err := by
  rw [Encoded.decode, h]

/-- The number of fields tells the two types apart. -/
theorem refused_of_count (α : Type) {β : Type} [Encoded α] [Encoded β] {m n : Nat}
    (hα : (Encoded.shape α).fieldCount? = some m) (hβ : (Encoded.shape β).fieldCount? = some n)
    (differ : n ≠ m) (small : n < UInt32.size) (b : β) :
    ∃ err, Encoded.decode α (Encoded.encode b) = .error err := by
  obtain ⟨err, herr⟩ := Shape.refuses_of_count hα hβ differ small (Encoded.toValue b)
  exact ⟨err, decode_of_error herr⟩

/-- The number of fields of a message of each kind. -/
def fieldCount : ReflectedKind → Nat
  | .delete => 3
  | .deliveryReceipt => 4
  | .pollSetup => 6
  | .pollVote => 5

theorem decode_fails {α : Type} [Encoded α] {wrap : α → Payload} {bs : Bytes}
    (h : ∃ err, Encoded.decode α bs = .error err) :
    ∃ cause, (match Encoded.decode α bs with
      | .ok m => .ok (wrap m)
      | .error cause => .error (.decoding cause) : Except WireError Payload) = .error cause := by
  obtain ⟨err, herr⟩ := h
  rw [herr]
  exact ⟨_, rfl⟩

/-- Octets of a type with another number of fields are not read. -/
theorem refused_of_fieldCount {β : Type} [Encoded β] {n : Nat} {kind : ReflectedKind}
    (hβ : (Encoded.shape β).fieldCount? = some n) (differ : n ≠ fieldCount kind)
    (small : n < UInt32.size) (b : β) :
    ∃ cause, Payload.decode kind (Encoded.encode b) = .error cause := by
  cases kind with
  | delete | deliveryReceipt | pollSetup | pollVote =>
    exact decode_fails (refused_of_count _ rfl hβ differ small b)

theorem fieldCount_small (kind : ReflectedKind) : fieldCount kind < UInt32.size := by
  cases kind <;> decide

theorem fieldCount_injective {kind kind' : ReflectedKind} (h : kind ≠ kind') :
    fieldCount kind ≠ fieldCount kind' := by
  cases kind <;> cases kind' <;> first | exact absurd rfl h | decide

end ForeignTagLemmas

/-- A message is not read as one of another kind. -/
theorem Payload.refused_of_kind {p : Payload} {kind : ReflectedKind} (foreign : p.kind ≠ kind) :
    ∃ cause, Payload.decode kind p.encode = .error cause := by
  have differ := fieldCount_injective foreign
  cases p with
  | delete m | receipt m | pollSetup m | pollVote m =>
    exact refused_of_fieldCount rfl differ (fieldCount_small _) m

/-- An answer to a call is not read as a message of any kind. -/
theorem CallAnswer.refused (a : CallAnswer) (kind : ReflectedKind) :
    ∃ cause, Payload.decode kind (Encoded.encode a) = .error cause := by
  cases kind with
  | deliveryReceipt | pollSetup | pollVote =>
    exact refused_of_fieldCount (n := 3) rfl (by decide) (by decide) a
  -- A deletion has three fields as well, but no number in front.
  | delete =>
    have hnumber : ∃ err, (Encoded.shape DeleteMessage).decode (Encoded.encode a) = .error err :=
      Shape.refuses_of_number rfl (by decide) (Encoded.toValue a)
    exact decode_fails (hnumber.imp fun _ => decode_of_error)

/-! ## 3. Another kind of conversation -/

namespace ForeignTagLemmas

/-- Conversations have no part that could be too long. -/
theorem fits_conversation (v : (Encoded.shape Conversation).Value) :
    (Encoded.shape Conversation).Fits v := by
  match v with
  | .inl _ => exact ⟨trivial, trivial⟩
  | .inr (.inl _) => exact ⟨trivial, trivial, trivial⟩

/-- A record that starts with a conversation reads it back, whatever becomes of the rest. -/
theorem first_of_read {name : String} {fs : Fields}
    (small : (Fields.field name (Encoded.shape Conversation) fs).count < UInt32.size)
    (v v' : (Fields.field name (Encoded.shape Conversation) fs).Values)
    (h : (Shape.record (.field name (Encoded.shape Conversation) fs)).decode
      ((Shape.record (.field name (Encoded.shape Conversation) fs)).write v) = .ok v') : v'.1 = v.1 :=
  Shape.first_of_decode small (by decide) (fits_conversation v.1) h

theorem conversation_of_read {α : Type} [Encoded α] (conversation : α → Conversation)
    (first : (Encoded.shape α).Value → (Encoded.shape Conversation).Value)
    (reads : ∀ v v', (Encoded.shape α).decode ((Encoded.shape α).write v) = .ok v' → first v' = first v)
    (toFirst : ∀ a : α, first (Encoded.toValue a) = Encoded.toValue (conversation a))
    (ofFirst : ∀ v, conversation (Encoded.ofValue v) = Encoded.ofValue (first v)) {a b : α}
    (h : Encoded.decode α (Encoded.encode a) = .ok b) : conversation b = conversation a := by
  rw [Encoded.decode, Encoded.encode] at h
  split at h
  · rename_i v hv
    obtain rfl := Except.ok.inj h
    rw [ofFirst, reads _ v hv, toFirst, LawfulEncoded.ofValue_toValue]
  · cases h

theorem decode_inv {α : Type} [Encoded α] {wrap : α → Payload} {bs : Bytes} {q : Payload}
    (h : (match Encoded.decode α bs with
      | .ok m => .ok (wrap m)
      | .error cause => .error (.decoding cause) : Except WireError Payload) = .ok q) :
    ∃ m, q = wrap m ∧ Encoded.decode α bs = .ok m := by
  split at h
  · rename_i m hm
    exact ⟨m, (Except.ok.inj h).symm, hm⟩
  · exact nomatch h

end ForeignTagLemmas

/-- A message that is read as one of its kind has the conversation that was written. -/
theorem Payload.conversation_of_decode {p q : Payload} (h : Payload.decode p.kind p.encode = .ok q) :
    q.conversation = p.conversation := by
  cases p with
  | delete m =>
    obtain ⟨m', rfl, hm⟩ := decode_inv h
    exact conversation_of_read DeleteMessage.conversation Prod.fst (first_of_read (by decide))
      (fun _ => rfl) (fun _ => rfl) hm
  | receipt m =>
    obtain ⟨m', rfl, hm⟩ := decode_inv h
    exact conversation_of_read DeliveryReceipt.conversation Prod.fst (first_of_read (by decide))
      (fun _ => rfl) (fun _ => rfl) hm
  | pollSetup m =>
    obtain ⟨m', rfl, hm⟩ := decode_inv h
    exact conversation_of_read PollSetup.conversation Prod.fst (first_of_read (by decide))
      (fun _ => rfl) (fun _ => rfl) hm
  | pollVote m =>
    obtain ⟨m', rfl, hm⟩ := decode_inv h
    exact conversation_of_read PollVote.conversation Prod.fst (first_of_read (by decide))
      (fun _ => rfl) (fun _ => rfl) hm

/-! ## 4. Foreign tags -/

namespace ForeignTagLemmas

variable {e : Envelope} {kind : ReflectedKind} {scope : Scope}

theorem handle_of_decode_error {cause : WireError} (tag : dispatch e.tag = .handle kind scope)
    (decode : Payload.decode kind e.payload = .error cause) (me : Identity) :
    e.handle me = .done (.ok (.skipped (.decode cause.toText))) := by
  simp only [Envelope.handle, tag, Envelope.process, decode]
  rfl

theorem handle_of_other_scope {q : Payload} (tag : dispatch e.tag = .handle kind scope)
    (decode : Payload.decode kind e.payload = .ok q) (other : q.conversation.scope ≠ scope)
    (me : Identity) : e.handle me =
      .done (.ok (.skipped (.decode "conversation scope does not match message type"))) := by
  simp only [Envelope.handle, tag, Envelope.process, decode, if_pos other]
  rfl

theorem handle_foreign {c : Content} (payload : e.payload = c.encode) (foreign : ¬ c.BelongsTo e.tag)
    (me : Identity) : ∃ cause, ((∃ reason, cause = .dispatch reason) ∨ ∃ text, cause = .decode text) ∧
      e.handle me = .done (.ok (.skipped cause)) := by
  cases htag : dispatch e.tag with
  | skip reason =>
    refine ⟨.dispatch reason, .inl ⟨reason, rfl⟩, ?_⟩
    simp only [Envelope.handle, htag]
    rfl
  | handle kind scope =>
    cases c with
    | answer a =>
      obtain ⟨cause, hrefused⟩ := a.refused kind
      have hdecode : Payload.decode kind e.payload = .error cause := by rw [payload]; exact hrefused
      exact ⟨_, .inr ⟨_, rfl⟩, handle_of_decode_error htag hdecode me⟩
    | message p =>
      by_cases hkind : p.kind = kind
      -- Of the right kind, it is about another kind of conversation than the tag says.
      · subst hkind
        cases hdecode : Payload.decode p.kind e.payload with
        | error cause => exact ⟨_, .inr ⟨_, rfl⟩, handle_of_decode_error htag hdecode me⟩
        | ok q =>
          have hread : Payload.decode p.kind p.encode = .ok q := by rw [← hdecode, payload]; rfl
          have hscope : q.conversation.scope ≠ scope := by
            rw [Payload.conversation_of_decode hread]
            rintro rfl
            exact foreign htag
          exact ⟨_, .inr ⟨_, rfl⟩, handle_of_other_scope htag hdecode hscope me⟩
      · obtain ⟨cause, hrefused⟩ := Payload.refused_of_kind hkind
        have hdecode : Payload.decode kind e.payload = .error cause := by rw [payload]; exact hrefused
        exact ⟨_, .inr ⟨_, rfl⟩, handle_of_decode_error htag hdecode me⟩

end ForeignTagLemmas

/-- Whatever a message is about, and whatever its texts and lists are: under any tag but the one for its
kind and the kind of its conversation, and under any tag at all if it is the answer to a call, it is
passed over because of its tag or of what is in it. All that is done is sending the acknowledgement:
no service is called and no nonce is recorded. -/
theorem foreign_message_is_passed_over {e : Envelope} {c : Content} (payload : e.payload = c.encode)
    (foreign : ¬ c.BelongsTo e.tag) (me : Identity) (w : Workspace) :
    ∃ cause, ((∃ reason, cause = .dispatch reason) ∨ ∃ text, cause = .decode text) ∧
      (e.handle me).run w = (.ok (.skipped cause), w) ∧
      (e.attempt me).run w =
        (((w.connection.send e.acknowledgement).1.mapError .ofTransport).map fun () => .skipped cause,
          { w with connection := (w.connection.send e.acknowledgement).2 }) := by
  obtain ⟨cause, hunread, hhandle⟩ := handle_foreign payload foreign me
  refine ⟨cause, hunread, by rw [hhandle]; rfl, ?_⟩
  rw [Envelope.attempt_eq, hhandle]
  rfl

namespace Sample

/-- A vote under the tag of a deletion, with a nonce. -/
def mislabelledVote : Envelope :=
  { voteEnvelope 1 [nonce 0] with tag := MessageType.deleteMessage.tag }

end Sample

open Sample in
/-- The vote is not cast, and its nonce is not recorded. -/
theorem mislabelled_vote_is_passed_over : ∃ cause,
    ((mislabelledVote.attempt owner).run fresh).1 = .ok (.skipped cause) ∧
    ((mislabelledVote.attempt owner).run fresh).2.nonces = fresh.nonces ∧
    ((mislabelledVote.attempt owner).run fresh).2.services = fresh.services := by
  have payload : mislabelledVote.payload = (Content.message (.pollVote vote)).encode := rfl
  have foreign : ¬ (Content.message (.pollVote vote)).BelongsTo mislabelledVote.tag := by
    show ¬ dispatch _ = _
    decide
  obtain ⟨cause, -, -, hrun⟩ := foreign_message_is_passed_over payload foreign owner fresh
  rw [hrun]
  exact ⟨cause, rfl, rfl, rfl⟩

end DeviceSync
