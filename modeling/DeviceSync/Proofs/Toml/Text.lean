import DeviceSync.Proofs.Text.Scan
import DeviceSync.Toml.Number
import DeviceSync.Toml.Text
import Mathlib.Tactic.SplitIfs

/-!
# Texts read back

A text is written in one of several forms. Each of them gives the text back to the reader.

1. `EscapeForm`: what stands after a backslash for a character.
2. `BodyForm`: what stands between the quotes. By induction on it, a body is read on one line
   (`BodyForm.readLine`) and on several (`BodyForm.readLines`).
3. The bodies that are written: with escapes (`bodyForm_escaped`), or as they are (`bodyForm_self`).
4. `takes_quoteChars`: every text, whichever form is chosen for it.
-/

namespace DeviceSync.Toml

open DeviceSync.Text
open Scan (Takes)

/-! ## 1. Escapes -/

/-- The characters that have an escape of their own, after the mark of each. -/
def escapeMarks : List (Char × Char) :=
  [('b', '\x08'), ('t', '\t'), ('n', '\n'), ('f', '\x0c'), ('r', '\r'), ('"', '"'), ('\\', '\\')]

/-- What stands after a backslash for a character: its mark, or four digits of its code point. -/
inductive EscapeForm : List Char → Char → Prop
  | mark {m c : Char} : (m, c) ∈ escapeMarks → EscapeForm [m] c
  | code {ds : List Char} {c : Char} : ds.length = 4 →
      (ds.mapM Bytes.hexValue?).map (ofDigits 16) = some c.toNat → EscapeForm ('u' :: ds) c

theorem takes_hexNumber {ds : List Char} {values : List Nat}
    (h : ds.mapM Bytes.hexValue? = some values) (value : Nat) (rest : List Char) :
    (hexNumber ds.length value).Takes ds (values.foldl (fun n d => 16 * n + d) value) rest := by
  induction ds generalizing values value with
  | nil =>
    obtain rfl : values = [] := by simpa using h.symm
    rfl
  | cons d ds ih =>
    simp only [List.mapM_cons, Option.bind_eq_bind, Option.pure_def, Option.bind_eq_some_iff] at h
    obtain ⟨v, hv, vs, hvs, hcons⟩ := h
    obtain rfl := Option.some.inj hcons
    have hrest := ih hvs (16 * value + v)
    unfold Takes at *
    simp only [List.length_cons, hexNumber, List.cons_append, List.foldl_cons]
    rw [Scan.bind_eq (p := Scan.anyChar) rfl, hv]
    exact hrest

theorem charOf?_toNat (c : Char) : charOf? c.toNat = some c := by
  have hvalid : c.toNat.isValidChar := c.valid
  rw [charOf?, if_pos hvalid, Char.ofNat_toNat]

theorem EscapeForm.takes {cs : List Char} {c : Char} (h : EscapeForm cs c) (rest : List Char) :
    escape.Takes cs c rest := by
  cases h with
  | mark hmark =>
    simp only [escapeMarks, List.mem_cons, Prod.mk.injEq, List.not_mem_nil, or_false] at hmark
    rcases hmark with ⟨rfl, rfl⟩ | ⟨rfl, rfl⟩ | ⟨rfl, rfl⟩ | ⟨rfl, rfl⟩ | ⟨rfl, rfl⟩ | ⟨rfl, rfl⟩ |
      ⟨rfl, rfl⟩
    all_goals rfl
  | @code ds _ hlength hvalue =>
    obtain ⟨values, hvalues, hcode⟩ := Option.map_eq_some_iff.mp hvalue
    have hnumber := takes_hexNumber hvalues 0 rest
    rw [hlength] at hnumber
    show (hexNumber 4 0 >>= fun n => Scan.some? (charOf? n)) (ds ++ rest) = some (c, rest)
    rw [Scan.bind_eq hnumber]
    show Scan.some? (charOf? (ofDigits 16 values)) rest = some (c, rest)
    rw [hcode, charOf?_toNat]
    rfl

/-- What begins an escape is not the end of a line. -/
theorem EscapeForm.joint_none {cs : List Char} {c : Char} (h : EscapeForm cs c) (rest : List Char) :
    joint (cs ++ rest) = none := by
  cases h with
  | mark hmark =>
    simp only [escapeMarks, List.mem_cons, Prod.mk.injEq, List.not_mem_nil, or_false] at hmark
    rcases hmark with ⟨rfl, rfl⟩ | ⟨rfl, rfl⟩ | ⟨rfl, rfl⟩ | ⟨rfl, rfl⟩ | ⟨rfl, rfl⟩ | ⟨rfl, rfl⟩ |
      ⟨rfl, rfl⟩
    all_goals rfl
  | code => rfl

/-! ## 2. What stands between the quotes -/

/-- How many quotes may stand one after another in a text as they are. -/
def allowedRun (lines : Bool) : Nat := if lines then 2 else 0

/-- What stands between the quotes `q` for a text. `escapes` says that a backslash begins an escape, and
`lines` that line ends and one or two quotes stand as they are; `run` counts the quotes just before. -/
inductive BodyForm (q : Char) (escapes lines : Bool) : (run : Nat) → (body cs : List Char) → Prop
  | nil {run : Nat} : BodyForm q escapes lines run [] []
  | quote {run : Nat} {body cs : List Char} : run < allowedRun lines →
      BodyForm q escapes lines (run + 1) body cs → BodyForm q escapes lines run (q :: body) (q :: cs)
  | plain {run : Nat} {c : Char} {body cs : List Char} : c ≠ q → (escapes && c = '\\') = false →
      isPlain c = true → BodyForm q escapes lines 0 body cs →
      BodyForm q escapes lines run (c :: body) (c :: cs)
  | newline {run : Nat} {body cs : List Char} : lines = true → BodyForm q escapes lines 0 body cs →
      BodyForm q escapes lines run ('\n' :: body) ('\n' :: cs)
  | escape {run : Nat} {c : Char} {mark body cs : List Char} : escapes = true → EscapeForm mark c →
      BodyForm q escapes lines 0 body cs → BodyForm q escapes lines run ('\\' :: (mark ++ body)) (c :: cs)

variable {q : Char} {escapes : Bool} {run n : Nat} {body cs mark rest : List Char} {c : Char}

/-! ### On one line -/

theorem restOfLine_close : restOfLine q escapes (n + 1) (q :: rest) = some ([], rest) := by
  unfold restOfLine
  rw [Scan.bind_eq (p := Scan.anyChar) rfl, if_pos rfl]
  rfl

theorem restOfLine_plain {tail : List Char} (hquote : c ≠ q) (hescape : (escapes && c = '\\') = false)
    (hplain : isPlain c = true) (h : restOfLine q escapes n tail = some (cs, rest)) :
    restOfLine q escapes (n + 1) (c :: tail) = some (c :: cs, rest) := by
  unfold restOfLine
  rw [Scan.bind_eq (p := Scan.anyChar) rfl, if_neg hquote, if_neg (by simp [hescape]), if_pos hplain,
    Scan.bind_eq h]
  rfl

theorem restOfLine_escape {tail : List Char} (hquote : q ≠ '\\') (hmark : EscapeForm mark c)
    (h : restOfLine q true n tail = some (cs, rest)) :
    restOfLine q true (n + 1) ('\\' :: (mark ++ tail)) = some (c :: cs, rest) := by
  unfold restOfLine
  rw [Scan.bind_eq (p := Scan.anyChar) rfl, if_neg hquote.symm, if_pos (by simp),
    Scan.bind_eq (hmark.takes tail), Scan.bind_eq h]
  rfl

theorem BodyForm.readLine (h : BodyForm q escapes false run body cs) (hquote : q ≠ '\\')
    (enough : body.length < n) (rest : List Char) :
    restOfLine q escapes n (body ++ q :: rest) = some (cs, rest) := by
  obtain ⟨n, rfl⟩ := Nat.exists_eq_succ_of_ne_zero (Nat.ne_zero_of_lt enough)
  induction h generalizing n with
  | nil => exact restOfLine_close
  | quote hrun => exact absurd hrun (by simp [allowedRun])
  | newline hlines => exact nomatch hlines
  | @plain _ c body cs hc hescape hplain _ ih =>
    simp only [List.length_cons] at enough
    obtain ⟨n, rfl⟩ := Nat.exists_eq_succ_of_ne_zero (n := n) (by omega)
    exact restOfLine_plain hc hescape hplain (ih n (by omega))
  | @escape _ c mark body cs hescapes hmark _ ih =>
    simp only [List.length_cons, List.length_append] at enough
    obtain ⟨n, rfl⟩ := Nat.exists_eq_succ_of_ne_zero (n := n) (by omega)
    subst hescapes
    rw [List.cons_append, List.append_assoc]
    exact restOfLine_escape hquote hmark (ih n (by omega))

/-! ### On several lines -/

theorem restOfLines_run (hrun : run ≤ 2) (hhead : rest.head? ≠ some q) {as after : List Char} {k : Nat}
    (h : ∀ m, k < m → restOfLines q escapes m rest = some (as, after)) (enough : run + k < n) :
    restOfLines q escapes n (List.replicate run q ++ rest) =
      some (List.replicate run q ++ as, after) := by
  cases run with
  | zero => exact h n (by omega)
  | succ run =>
    obtain ⟨n, rfl⟩ := Nat.exists_eq_succ_of_ne_zero (Nat.ne_zero_of_lt enough)
    have hspan : (Scan.span (· = q)).Takes (List.replicate (run + 1) q)
        (List.replicate (run + 1) q) rest :=
      Scan.takes_span (by simp) (fun c hc => decide_eq_false fun heq => hhead (heq ▸ hc))
    unfold restOfLines
    rw [Scan.bind_eq (p := Scan.peek) rfl]
    simp only [List.replicate_succ, List.cons_append, List.head?_cons, if_true]
    rw [← List.cons_append, ← List.replicate_succ, Scan.bind_eq hspan, List.length_replicate, if_pos hrun,
      Scan.bind_eq (h n (by omega))]
    rfl

theorem restOfLines_close (hrun : run ≤ 2) (hhead : rest.head? ≠ some q) :
    restOfLines q escapes (n + 1) (List.replicate run q ++ q :: q :: q :: rest) =
      some (List.replicate run q, rest) := by
  have hspan : (Scan.span (· = q)).Takes (List.replicate (run + 3) q)
      (List.replicate (run + 3) q) rest :=
    Scan.takes_span (by simp) (fun c hc => decide_eq_false fun heq => hhead (heq ▸ hc))
  have hclose : List.replicate run q ++ q :: q :: q :: rest = List.replicate (run + 3) q ++ rest := by
    rw [← List.replicate_append_replicate, List.append_assoc]
    rfl
  rw [hclose]
  unfold restOfLines
  rw [Scan.bind_eq (p := Scan.peek) rfl]
  simp only [List.replicate_succ, List.cons_append, List.head?_cons, if_true]
  simp only [← List.cons_append, ← List.replicate_succ]
  rw [Scan.bind_eq hspan, List.length_replicate, if_neg (by omega), if_pos (by omega), List.drop_replicate]
  rfl

theorem restOfLines_plain {tail : List Char} (hquote : c ≠ q) (hescape : (escapes && c = '\\') = false)
    (hplain : isPlain c = true) (h : restOfLines q escapes n tail = some (cs, rest)) :
    restOfLines q escapes (n + 1) (c :: tail) = some (c :: cs, rest) := by
  unfold restOfLines
  rw [Scan.bind_eq (p := Scan.peek) rfl]
  simp only [List.head?_cons]
  rw [if_neg hquote, if_neg (by simp [hescape]), if_pos hplain, Scan.bind_eq (p := Scan.anyChar) rfl,
    Scan.bind_eq h]
  rfl

theorem restOfLines_newline {tail : List Char} (hquote : q ≠ '\n')
    (h : restOfLines q escapes n tail = some (cs, rest)) :
    restOfLines q escapes (n + 1) ('\n' :: tail) = some ('\n' :: cs, rest) := by
  unfold restOfLines
  rw [Scan.bind_eq (p := Scan.peek) rfl]
  simp only [List.head?_cons]
  rw [if_neg hquote.symm, if_neg (by simp), if_neg (by decide), Scan.bind_eq (p := newline) rfl,
    Scan.bind_eq h]
  rfl

theorem restOfLines_escape {tail : List Char} (hquote : q ≠ '\\') (hmark : EscapeForm mark c)
    (h : restOfLines q true n tail = some (cs, rest)) :
    restOfLines q true (n + 1) ('\\' :: (mark ++ tail)) = some (c :: cs, rest) := by
  unfold restOfLines
  rw [Scan.bind_eq (p := Scan.peek) rfl]
  simp only [List.head?_cons]
  rw [if_neg hquote.symm, if_pos (by simp), Scan.bind_eq (p := Scan.literal ['\\']) rfl,
    Scan.bind_eq (Scan.optional_none (hmark.joint_none tail))]
  exact (Scan.bind_eq (hmark.takes tail)).trans (Scan.bind_eq h)

theorem BodyForm.readLines (h : BodyForm q escapes true run body cs) (hescape : q ≠ '\\')
    (hnewline : q ≠ '\n') (hrun : run ≤ 2) (enough : run + body.length < n)
    (hrest : rest.head? ≠ some q) :
    restOfLines q escapes n (List.replicate run q ++ (body ++ q :: q :: q :: rest)) =
      some (List.replicate run q ++ cs, rest) := by
  induction h generalizing n with
  | nil =>
    obtain ⟨n, rfl⟩ := Nat.exists_eq_succ_of_ne_zero (Nat.ne_zero_of_lt enough)
    rw [List.append_nil]
    exact restOfLines_close hrun hrest
  | quote hless _ ih =>
    simp only [allowedRun, if_true] at hless
    rw [List.length_cons] at enough
    have hmore := ih (n := n) hless (by omega)
    rw [List.replicate_succ', List.append_assoc, List.append_assoc] at hmore
    exact hmore
  | @plain _ c body cs hc hplainescape hplain _ ih =>
    refine restOfLines_run hrun (k := body.length + 1) (by simpa using hc) (fun m hm => ?_) enough
    obtain ⟨m, rfl⟩ := Nat.exists_eq_succ_of_ne_zero (Nat.ne_zero_of_lt hm)
    exact restOfLines_plain hc hplainescape hplain (ih (Nat.zero_le 2) (by omega))
  | @newline _ body cs _ _ ih =>
    refine restOfLines_run hrun (k := body.length + 1) (by simpa using hnewline.symm) (fun m hm => ?_) enough
    obtain ⟨m, rfl⟩ := Nat.exists_eq_succ_of_ne_zero (Nat.ne_zero_of_lt hm)
    exact restOfLines_newline hnewline (ih (Nat.zero_le 2) (by omega))
  | @escape _ c mark body cs hescapes hmark _ ih =>
    subst hescapes
    rw [List.length_cons, List.length_append] at enough
    refine restOfLines_run hrun (k := body.length + 1) (by simpa using hescape.symm) (fun m hm => ?_) (by omega)
    obtain ⟨m, rfl⟩ := Nat.exists_eq_succ_of_ne_zero (Nat.ne_zero_of_lt hm)
    rw [List.cons_append, List.append_assoc]
    exact restOfLines_escape hescape hmark (ih (Nat.zero_le 2) (by omega))

/-! ## 3. Bodies that are written -/

theorem fourDigits_spec : ∀ n < 128, (fourDigits n).length = 4 ∧
    ((fourDigits n).mapM Bytes.hexValue?).map (ofDigits 16) = some n := by
  decide

theorem toNat_lt_of_isCoded (h : isCoded c = true) : c.toNat < 128 := by
  simp only [isCoded, isPlain, Bool.and_eq_true, Bool.not_eq_true', Bool.or_eq_false_iff,
    Bool.and_eq_false_iff, decide_eq_false_iff_not] at h
  rcases h.1.2 with hlow | hdel
  · have : c.toNat < ' '.toNat := Nat.lt_of_not_le hlow
    exact Nat.lt_trans this (by decide)
  · obtain rfl : c = '\x7f' := by simpa using hdel
    decide

/-- A character other than a quote is escaped, or it stays as it is. -/
theorem written_cases (lines : Bool) (c : Char) :
    (∃ mark, written lines c = '\\' :: mark ∧ EscapeForm mark c) ∨
    (written lines c = [c] ∧ lines = true ∧ c = '\n') ∨
    (written lines c = [c] ∧ isPlain c = true ∧ c ≠ '\\') := by
  unfold written
  split_ifs with hb ht hf hr hbackslash hn hlines hcoded
  · exact .inl ⟨_, rfl, .mark (by simp [hb, escapeMarks])⟩
  · exact .inl ⟨_, rfl, .mark (by simp [ht, escapeMarks])⟩
  · exact .inl ⟨_, rfl, .mark (by simp [hf, escapeMarks])⟩
  · exact .inl ⟨_, rfl, .mark (by simp [hr, escapeMarks])⟩
  · exact .inl ⟨_, rfl, .mark (by simp [hbackslash, escapeMarks])⟩
  · exact .inr (.inl ⟨by rw [hn], hlines, hn⟩)
  · exact .inl ⟨_, rfl, .mark (by simp [hn, escapeMarks])⟩
  · obtain ⟨hlength, hvalue⟩ := fourDigits_spec c.toNat (toNat_lt_of_isCoded hcoded)
    exact .inl ⟨_, rfl, .code hlength hvalue⟩
  · refine .inr (.inr ⟨rfl, ?_, hbackslash⟩)
    simpa [isCoded, hn] using hcoded

theorem bodyForm_escaped (lines : Bool) (run : Nat) (cs : List Char) :
    BodyForm '"' true lines run (escaped lines (allowedRun lines) run cs) cs := by
  induction cs generalizing run with
  | nil => exact .nil
  | cons c cs ih =>
    unfold escaped
    split_ifs with hquote hrun
    · subst hquote
      exact .quote hrun (ih (run + 1))
    · subst hquote
      exact .escape rfl (.mark (by simp [escapeMarks])) (ih 0)
    · rcases written_cases lines c with ⟨mark, hwritten, hmark⟩ | ⟨hwritten, hlines, rfl⟩ |
          ⟨hwritten, hplain, hbackslash⟩
      · rw [hwritten]
        exact .escape rfl hmark (ih 0)
      · rw [hwritten]
        exact .newline hlines (ih 0)
      · rw [hwritten]
        exact .plain hquote (by simpa using hbackslash) hplain (ih 0)

theorem le_longestRun (q : Char) (run : Nat) (cs : List Char) : run ≤ longestRun q run cs := by
  induction cs generalizing run with
  | nil => exact Nat.le_refl run
  | cons c cs ih =>
    unfold longestRun
    split_ifs
    · exact Nat.le_of_succ_le (ih (run + 1))
    · exact Nat.le_max_left _ _

theorem longestRun_of_not_mem (h : q ∉ cs) (run : Nat) : longestRun q run cs = run := by
  induction cs generalizing run with
  | nil => rfl
  | cons c cs ih =>
    obtain ⟨hc, hcs⟩ := not_or.mp (mt List.mem_cons.mpr h)
    unfold longestRun
    rw [if_neg (Ne.symm hc), ih hcs, Nat.max_zero]

/-- A text in which nothing must be escaped may stand as it is. -/
theorem bodyForm_self {lines : Bool} (hcoded : ∀ c ∈ cs, isCoded c = false)
    (hlines : '\n' ∈ cs → lines = true) (hrun : longestRun q run cs ≤ allowedRun lines) :
    BodyForm q false lines run cs cs := by
  induction cs generalizing run with
  | nil => exact .nil
  | cons c cs ih =>
    obtain ⟨hc, hcs⟩ := List.forall_mem_cons.mp hcoded
    have hrest : '\n' ∈ cs → lines = true := fun h => hlines (List.mem_cons_of_mem c h)
    unfold longestRun at hrun
    split_ifs at hrun with hquote
    · subst hquote
      have hless := le_longestRun c (run + 1) cs
      exact .quote (by omega) (ih hcs hrest hrun)
    · have htail := ih hcs hrest (Nat.le_trans (Nat.le_max_right _ _) hrun)
      by_cases hnewline : c = '\n'
      · subst hnewline
        exact .newline (hlines List.mem_cons_self) htail
      · exact .plain hquote rfl (by simpa [isCoded, hnewline] using hc) htail

/-! ## 4. Texts with their quotes -/

def IsQuote (q : Char) : Prop := q = '"' ∨ q = '\''

theorem IsQuote.ne_special (h : IsQuote q) (hc : c = '\\' ∨ c = '\n' ∨ c = '\r') : q ≠ c := by
  rcases h with rfl | rfl <;> rcases hc with rfl | rfl | rfl <;> decide

theorem BodyForm.takes_lineText (h : BodyForm q escapes false 0 body cs) (hq : IsQuote q)
    (rest : List Char) : (lineText q escapes).Takes ([q] ++ (body ++ [q])) (String.ofList cs) rest := by
  have hbody : Takes (fun cs => (String.ofList <$> restOfLine q escapes cs.length) cs)
      (body ++ [q]) (String.ofList cs) rest := by
    unfold Takes
    rw [List.append_assoc]
    have hread := h.readLine (n := (body ++ ([q] ++ rest)).length) (hq.ne_special (.inl rfl))
      (by simp) rest
    exact Scan.bind_eq hread
  exact (Scan.takes_literal [q] _).bind hbody

/-- What is written for a text without line ends does not begin with one. -/
theorem BodyForm.newline_none (h : BodyForm q escapes lines run body cs) (hq : IsQuote q)
    (hnewline : '\n' ∉ cs) (rest : List Char) : Toml.newline (body ++ q :: rest) = none := by
  have hfirst {c : Char} {tail : List Char} (hn : c ≠ '\n') (hr : c ≠ '\r') :
      Toml.newline (c :: tail) = none := by
    unfold Toml.newline
    rw [Scan.orElse_right (Scan.literal_none (by simpa using hn)),
      Scan.literal_none (by simpa using hr)]
  cases h with
  | nil => exact hfirst (hq.ne_special (.inr (.inl rfl))) (hq.ne_special (.inr (.inr rfl)))
  | quote => exact hfirst (hq.ne_special (.inr (.inl rfl))) (hq.ne_special (.inr (.inr rfl)))
  | plain _ _ hplain =>
    refine hfirst ?_ ?_
    · rintro rfl
      exact absurd hplain (by decide)
    · rintro rfl
      exact absurd hplain (by decide)
  | newline => exact absurd List.mem_cons_self hnewline
  | escape => exact hfirst (by decide) (by decide)

theorem BodyForm.takes_linesText (h : BodyForm q escapes true 0 body cs) (hq : IsQuote q)
    (hrest : rest.head? ≠ some q) :
    (linesText q escapes).Takes ([q, q, q] ++ (opening cs ++ (body ++ [q, q, q])))
      (String.ofList cs) rest := by
  have hbody : Takes (fun cs => (String.ofList <$> restOfLines q escapes cs.length) cs)
      (body ++ [q, q, q]) (String.ofList cs) rest := by
    unfold Takes
    rw [List.append_assoc]
    have hread := h.readLines (n := (body ++ ([q, q, q] ++ rest)).length)
      (hq.ne_special (.inl rfl)) (hq.ne_special (.inr (.inl rfl))) (Nat.zero_le 2) (by simp) hrest
    exact Scan.bind_eq hread
  have hopening : ∃ found, (Scan.optional Toml.newline).Takes (opening cs) found
      (body ++ [q, q, q] ++ rest) := by
    unfold opening
    split_ifs with hnewline
    · exact ⟨some (), Scan.optional_some rfl⟩
    · refine ⟨none, Scan.optional_none ?_⟩
      rw [List.nil_append, List.append_assoc]
      exact h.newline_none hq (by simpa using hnewline) _
  obtain ⟨found, hopening⟩ := hopening
  exact (Scan.takes_literal [q, q, q] _).bind (hopening.bind hbody)

theorem linesText_none (h : Scan.literal [q, q, q] cs = none) : linesText q escapes cs = none :=
  Scan.bind_none h

theorem lineText_none (h : cs.head? ≠ some q) : lineText q escapes cs = none :=
  Scan.bind_none (Scan.literal_none h)

/-- A text on one line does not begin with three quotes. -/
theorem BodyForm.linesText_none (h : BodyForm q escapes false run body cs) (hq : IsQuote q)
    (hrest : rest.head? ≠ some q) :
    linesText q escapes ([q] ++ (body ++ [q]) ++ rest) = none := by
  refine Toml.linesText_none ?_
  cases h with
  | nil =>
    show Scan.literal [q, q, q] (q :: q :: rest) = none
    rw [Scan.literal_cons, Scan.literal_cons, Scan.literal_none hrest]
  | quote hrun => exact absurd hrun (by simp [allowedRun])
  | newline hlines => exact absurd hlines Bool.false_ne_true
  | plain hc =>
    rw [List.append_assoc, List.singleton_append, Scan.literal_cons]
    exact Scan.literal_none (by simpa using hc)
  | escape =>
    rw [List.append_assoc, List.singleton_append, Scan.literal_cons]
    exact Scan.literal_none (by simpa using (hq.ne_special (.inl rfl)).symm)

theorem anyText_of_single (h : cs.head? ≠ some '"') :
    anyText cs = (linesText '\'' false <|> lineText '\'' false) cs := by
  unfold anyText
  rw [Scan.orElse_right (linesText_none (Scan.literal_none h)), Scan.orElse_right (lineText_none h)]

theorem takes_doubleLine (h : BodyForm '"' true false 0 body cs) (hrest : rest.head? ≠ some '"') :
    anyText.Takes (['"'] ++ (body ++ ['"'])) (String.ofList cs) rest := by
  unfold Takes anyText
  rw [Scan.orElse_right (h.linesText_none (.inl rfl) hrest)]
  exact Scan.orElse_left (h.takes_lineText (.inl rfl) rest)

theorem takes_doubleLines (h : BodyForm '"' true true 0 body cs) (hrest : rest.head? ≠ some '"') :
    anyText.Takes (['"', '"', '"'] ++ (opening cs ++ (body ++ ['"', '"', '"']))) (String.ofList cs) rest :=
  Scan.orElse_left (h.takes_linesText (.inl rfl) hrest)

theorem takes_singleLine (h : BodyForm '\'' false false 0 body cs) (hrest : rest.head? ≠ some '\'') :
    anyText.Takes (['\''] ++ (body ++ ['\''])) (String.ofList cs) rest := by
  unfold Takes
  rw [anyText_of_single (by simp), Scan.orElse_right (h.linesText_none (.inr rfl) hrest)]
  exact h.takes_lineText (.inr rfl) rest

theorem takes_singleLines (h : BodyForm '\'' false true 0 body cs) (hrest : rest.head? ≠ some '\'') :
    anyText.Takes (['\'', '\'', '\''] ++ (opening cs ++ (body ++ ['\'', '\'', '\''])))
      (String.ofList cs) rest := by
  unfold Takes
  rw [anyText_of_single (by simp)]
  exact Scan.orElse_left (h.takes_linesText (.inr rfl) hrest)

/-- Every text is read back from the form in which it is written. -/
theorem takes_quoteChars (cs : List Char) (hrest : ∀ q, IsQuote q → rest.head? ≠ some q) :
    anyText.Takes (quoteChars cs) (String.ofList cs) rest := by
  have hdouble := hrest '"' (.inl rfl)
  have hsingle := hrest '\'' (.inr rfl)
  have hline := takes_doubleLine (bodyForm_escaped false 0 cs) hdouble
  have hlines := takes_doubleLines (bodyForm_escaped true 0 cs) hdouble
  have huncoded (h : cs.any isCoded = false) : ∀ c ∈ cs, isCoded c = false := by simpa using h
  unfold quoteChars
  simp only [List.append_assoc]
  split_ifs with _ hraw _ hruns _
  · exact hline
  · simp only [Bool.and_eq_true, Bool.not_eq_true', List.contains_eq_mem, decide_eq_false_iff_not] at hraw
    refine takes_singleLine (bodyForm_self (huncoded hraw.1.1) (absurd · hraw.2) ?_) hsingle
    exact Nat.le_of_eq (longestRun_of_not_mem hraw.1.2 0)
  · exact hlines
  · simp only [Bool.and_eq_true, Bool.not_eq_true', decide_eq_true_eq] at hruns
    exact takes_singleLines (bodyForm_self (huncoded hruns.1) (fun _ => rfl) hruns.2) hsingle
  · exact hlines
  · exact hline

theorem takes_quote (s : String) (hrest : ∀ q, IsQuote q → rest.head? ≠ some q) :
    anyText.Takes (quote s).toList s rest := by
  have h := takes_quoteChars s.toList hrest
  rw [String.ofList_toList] at h
  rw [quote, String.toList_ofList]
  exact h

end DeviceSync.Toml
