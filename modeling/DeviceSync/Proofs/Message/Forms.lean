import DeviceSync.Proofs.Message.RoundTrip

/-!
# Messages in the forms that peers choose

A peer may leave the order of fields, the choice between a list and a table, and names or positions to
its encoder, and a newer one may add fields. None of this changes what is decoded; only a field that is
missing or given twice does.

1. `Encoded.Form` and `Encoded.Faulty`: the forms of a value of any type that travels, and those with
   such a fault. What this library writes is a form (`Encoded.form_encode`).
2. `every_form_is_decoded`: all types that travel or are stored.
3. `mixed_answer_is_decoded`: an answer to a call with the fields in another order, under names and
   positions, with an unknown field; and the same answer with a field missing, or given twice.
-/

namespace DeviceSync

open Wire RoundTripLemmas

/-! ## 1. Forms of a type -/

namespace Encoded

variable {α : Type} [Encoded α]

/-- How deep a value may nest that is sent under a name this library does not know. -/
def unknownDepth : Nat := 1000

/-- The octets are a form of the value. -/
def Form (a : α) (bs : Bytes) : Prop := (shape α).Form unknownDepth (some (toValue a)) bs

variable (α) in
/-- The octets are a form of a value but for tables in which a field is missing or given twice. -/
def Faulty (bs : Bytes) : Prop := (shape α).Form unknownDepth none bs

/-- What this library writes for a value is one of its forms. -/
theorem form_encode [LawfulEncoded α] {a : α} (fits : Fits a) : Form a (encode a) :=
  (shape α).form_write LawfulEncoded.legible (toValue a) fits

variable (α) in
/-- Each form of a value is decoded as this value, and a faulty one is refused; octets after it are
ignored. -/
def DecodesForms : Prop :=
  (∀ {a : α} {bs : Bytes}, Form a bs → ∀ rest, decode α (bs ++ rest) = .ok a) ∧
  ∀ {bs : Bytes}, Faulty α bs → ∀ rest, decode α (bs ++ rest) = .error .malformed

/-- A type whose own values leave enough levels for the unknown ones. -/
theorem decodesForms [LawfulEncoded α]
    (shallow : (shape α).legible (maxLevels - unknownDepth) = true) : DecodesForms α := by
  have hread {o bs} (form : (shape α).Form unknownDepth o bs) :
      ((shape α).read maxLevels).Yields bs o :=
    (shape α).yields_form shallow form
  constructor
  · intro a bs form rest
    rw [decode, Shape.decode, hread form rest]
    exact congrArg Except.ok (LawfulEncoded.ofValue_toValue a)
  · intro bs form rest
    rw [decode, Shape.decode, hread form rest]

end Encoded

/-! ## 2. All types -/

/-- Decoding ignores what it does not know, and nothing else: for each type that travels or is stored,
all forms of a value are decoded as this value, and a record without one of its fields, or with one of
them twice, is refused. -/
theorem every_form_is_decoded :
    Encoded.DecodesForms DeleteMessage ∧ Encoded.DecodesForms DeliveryReceipt ∧
    Encoded.DecodesForms PollSetup ∧ Encoded.DecodesForms PollVote ∧
    Encoded.DecodesForms CallAnswer ∧ Encoded.DecodesForms Envelope ∧ Encoded.DecodesForms Frame ∧
    Encoded.DecodesForms TaskData := by
  refine ⟨?_, ?_, ?_, ?_, ?_, ?_, ?_, ?_⟩ <;> exact Encoded.decodesForms (by decide)

/-! ## 3. An answer in strange forms -/

namespace Sample

/-- An entry under a name. -/
def named (name : String) (value : Bytes) : TableEntry :=
  ⟨.name (Bytes.ofText name), writeText name, value⟩

/-- An entry under a position. -/
def placed (n : Nat) (value : Bytes) : TableEntry := ⟨.position n, Head.writeWhole n, value⟩

/-- A table of less than sixteen entries. -/
def tableOf (entries : List TableEntry) : Bytes :=
  UInt8.ofNat (0x80 + entries.length) :: entries.flatMap TableEntry.octets

theorem form_tableOf {deep : Nat} {fs : Fields} {o : Option fs.Values} {entries : List TableEntry}
    (few : entries.length < 16) (keys : ∀ e ∈ entries, e.key.Form e.keyOctets)
    (unknown : ∀ e ∈ entries, e.key.place? fs.names = none → WellFormed deep e.value)
    (filled : fs.Filled deep (TableEntry.given fs.names entries) o) :
    RecordForm deep fs (fs.Listed deep) (fs.Filled deep) o (tableOf entries) :=
  .inr ⟨_, entries, .shortTable few, keys, unknown, filled, rfl⟩

/-- The call is declined for reason 5. -/
def declined : (Encoded.shape CallAction).Value := .inr (.inl (5, ()))

/-- The variant by its name, and the reason by its position. -/
def declinedOctets : Bytes := tableOfOne :: writeText "Reject" ++ tableOf [placed 0 [0x05]]

theorem form_declined {deep : Nat} :
    (Encoded.shape CallAction).Form deep (some declined) declinedOctets := by
  have hgiven : TableEntry.given ["reason"] [placed 0 [0x05]] 0 = [[0x05]] := by decide
  have hreason : GivenOnce (octetShape.Form deep)
      (TableEntry.given ["reason"] [placed 0 [0x05]] 0) (some 5) := by
    rw [hgiven]
    exact ⟨5, rfl, .inl (.shortWhole (n := 5) (by decide))⟩
  have hkeys : ∀ e ∈ [placed 0 [0x05]], e.key.Form e.keyOctets :=
    List.forall_mem_singleton.mpr (.position (Head.form_writeWhole (by decide)))
  have hfields : RecordForm deep (.field "reason" octetShape .empty) _ _ (some (5, ()))
      (tableOf [placed 0 [0x05]]) :=
    form_tableOf (by decide) hkeys (List.forall_mem_singleton.mpr fun h => absurd h (by decide))
      ⟨some 5, some (), hreason, rfl, rfl⟩
  exact .inl ⟨_, _, _, 1, _, .shortTable (n := 1) (by decide), form_writeName (by decide), by decide,
    ⟨_, ⟨_, hfields, rfl⟩, rfl⟩, rfl⟩

/-- The last field first, the first one by its position, and a note that this library does not know. -/
def mixed : List TableEntry :=
  [named "flags" [0x00], placed 0 [0x07], named "note" [0x92, 0xc0, 0x91, 0xc3],
    named "action" declinedOctets]

theorem keys_mixed : ∀ e ∈ mixed, e.key.Form e.keyOctets := by
  simp only [mixed, List.forall_mem_cons]
  exact ⟨form_writeName (by decide), .position (Head.form_writeWhole (by decide)),
    form_writeName (by decide), form_writeName (by decide), List.forall_mem_nil _⟩

theorem wellFormed_note {depth : Nat} : WellFormed (depth + 2) [0x92, 0xc0, 0x91, 0xc3] := by
  have hflag : WellFormed depth [0xc3] := .scalar (.flag true) rfl
  have hlist : WellFormed (depth + 1) [0x91, 0xc3] :=
    @WellFormed.list depth [0x91] [[0xc3]] (.shortList (n := 1) (by decide))
      (List.forall_mem_singleton.mpr hflag)
  have hboth : ∀ item ∈ [[0xc0], [0x91, 0xc3]], WellFormed (depth + 1) item :=
    List.forall_mem_cons.mpr ⟨.scalar .nil rfl, List.forall_mem_singleton.mpr hlist⟩
  exact @WellFormed.list (depth + 1) [0x92] [[0xc0], [0x91, 0xc3]]
    (.shortList (n := 2) (by decide)) hboth

/-- The names of the fields of an answer. -/
def answerFields : List String := ["call_id", "action", "flags"]

theorem unknown_mixed : ∀ e ∈ mixed, e.key.place? answerFields = none →
    WellFormed Encoded.unknownDepth e.value := by
  simp only [mixed, List.forall_mem_cons]
  exact ⟨fun h => absurd h (by decide), fun h => absurd h (by decide), fun _ => wellFormed_note,
    fun h => absurd h (by decide), List.forall_mem_nil _⟩

/-- Whether the octets are a form of the answer or a fault of it is up to the flags. -/
theorem form_answer {entries : List TableEntry} {o : Option UInt8} (few : entries.length < 16)
    (keys : ∀ e ∈ entries, e.key.Form e.keyOctets)
    (unknown : ∀ e ∈ entries, e.key.place? answerFields = none →
      WellFormed Encoded.unknownDepth e.value)
    (callId : TableEntry.given answerFields entries 0 = [[0x07]])
    (action : TableEntry.given answerFields entries 1 = [declinedOctets])
    (flags : GivenOnce (octetShape.Form Encoded.unknownDepth)
      (TableEntry.given answerFields entries 2) o) :
    (Encoded.shape CallAnswer).Form Encoded.unknownDepth (o.map fun f => (7, declined, f, ()))
      (tableOf entries) := by
  have hid : GivenOnce ((Shape.number .word).Form Encoded.unknownDepth)
      (TableEntry.given answerFields entries 0) (some 7) := by
    rw [callId]
    exact ⟨7, rfl, .inl (.shortWhole (n := 7) (by decide))⟩
  have haction : GivenOnce ((Encoded.shape CallAction).Form Encoded.unknownDepth)
      (TableEntry.given answerFields entries 1) (some declined) := by
    rw [action]
    exact form_declined
  refine form_tableOf few keys unknown ⟨_, o.map fun f => (declined, f, ()), hid,
    ⟨_, o.map fun f => (f, ()), haction, ⟨o, some (), flags, rfl, ?_⟩, ?_⟩, ?_⟩
  all_goals cases o <;> rfl

/-- The flags of the answer are missing. -/
def withoutFlags : List TableEntry := mixed.tail

/-- The flags of the answer are given by name and by position. -/
def flagsTwice : List TableEntry := mixed ++ [placed 2 [0x00]]

theorem form_plain : octetShape.Form Encoded.unknownDepth (some 0) [0x00] :=
  ⟨0, rfl, .inl (.shortWhole (n := 0) (by decide))⟩

theorem form_mixed : Encoded.Form (⟨7, .reject 5, .plain⟩ : CallAnswer) (tableOf mixed) :=
  form_answer (o := some 0) (by decide) keys_mixed unknown_mixed (by decide) (by decide) form_plain

theorem faulty_withoutFlags : Encoded.Faulty CallAnswer (tableOf withoutFlags) :=
  form_answer (o := none) (by decide) (fun e he => keys_mixed e (List.mem_of_mem_tail he))
    (fun e he => unknown_mixed e (List.mem_of_mem_tail he)) (by decide) (by decide) rfl

theorem faulty_flagsTwice : Encoded.Faulty CallAnswer (tableOf flagsTwice) := by
  refine form_answer (o := none) (by decide) ?_ ?_ (by decide) (by decide)
    ⟨rfl, _, form_plain⟩
  · refine List.forall_mem_append.mpr ⟨keys_mixed, List.forall_mem_singleton.mpr ?_⟩
    exact .position (Head.form_writeWhole (by decide))
  · refine List.forall_mem_append.mpr ⟨unknown_mixed, List.forall_mem_singleton.mpr ?_⟩
    exact fun h => absurd h (by decide)

end Sample

/-- An answer is decoded from a table in a strange order with a note in it, and refused when its flags
are missing or given twice. -/
theorem mixed_answer_is_decoded :
    Encoded.decode CallAnswer (Sample.tableOf Sample.mixed ++ [0xc1]) = .ok ⟨7, .reject 5, .plain⟩ ∧
    Encoded.decode CallAnswer (Sample.tableOf Sample.withoutFlags ++ []) = .error .malformed ∧
    Encoded.decode CallAnswer (Sample.tableOf Sample.flagsTwice ++ []) = .error .malformed :=
  ⟨every_form_is_decoded.2.2.2.2.1.1 Sample.form_mixed _,
    every_form_is_decoded.2.2.2.2.1.2 Sample.faulty_withoutFlags _,
    every_form_is_decoded.2.2.2.2.1.2 Sample.faulty_flagsTwice _⟩

end DeviceSync
