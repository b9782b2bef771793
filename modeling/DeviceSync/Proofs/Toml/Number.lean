import DeviceSync.Proofs.Text.Scan
import DeviceSync.Toml.Number

/-!
# Integers read back

1. `Numeral`: digits, then the end of the line. Nothing that holds another character stands at its front.
2. What else a number could be is refused: a numeral is no date, no time and no fraction
   (`Numeral.anyMoment_none`, `anyFloat_none`).
3. A natural number is read back from its digits (`takes_integerText`).
-/

namespace DeviceSync.Toml

open DeviceSync.Text
open Scan (Takes)

variable {cs ds ls after rest : List Char} {n : Nat}

/-! ## 1. Numerals -/

/-- Digits, then the end of the line. -/
def Numeral (cs : List Char) : Prop :=
  ∃ ds rest : List Char, (∀ d ∈ ds, d.isDigit = true) ∧ cs = ds ++ '\n' :: rest

theorem Numeral.tail {c : Char} (h : Numeral (c :: cs)) (hc : c ≠ '\n') :
    c.isDigit = true ∧ Numeral cs := by
  obtain ⟨ds, rest, hds, heq⟩ := h
  cases ds with
  | nil => exact absurd (List.cons.inj heq).1 hc
  | cons d ds =>
    obtain ⟨rfl, rfl⟩ := List.cons.inj heq
    obtain ⟨hd, hds⟩ := List.forall_mem_cons.mp hds
    exact ⟨hd, ds, rest, hds, rfl⟩

theorem Numeral.literal_none (h : Numeral cs) (hline : '\n' ∉ ls)
    (hother : ls.any (fun l => !l.isDigit) = true) : Scan.literal ls cs = none := by
  induction ls generalizing cs with
  | nil => exact nomatch hother
  | cons l ls ih =>
    cases cs with
    | nil => rfl
    | cons c cs =>
      unfold Scan.literal
      split
      · rename_i heq
        subst heq
        obtain ⟨hdigit, htail⟩ := h.tail fun hl => hline (hl ▸ List.mem_cons_self)
        rw [List.any_cons, hdigit] at hother
        exact ih htail (fun hls => hline (List.mem_cons_of_mem l hls)) hother
      · rfl

theorem Numeral.head_ne {c : Char} (h : Numeral cs) (hline : c ≠ '\n') (hother : c.isDigit = false) :
    cs.head? ≠ some c := by
  cases cs with
  | nil => exact nofun
  | cons c' cs =>
    intro hc
    obtain rfl := Option.some.inj hc
    exact nomatch (h.tail hline).1.symm.trans hother

theorem hexValue?_of_isDigit {c : Char} (h : c.isDigit = true) :
    Bytes.hexValue? c = some (c.toNat - 48) ∧ c.toNat - 48 < 10 := by
  simp only [Char.isDigit, Bool.and_eq_true, decide_eq_true_eq] at h
  have hlow : '0' ≤ c := h.1
  have hhigh : c ≤ '9' := h.2
  refine ⟨if_pos ⟨hlow, hhigh⟩, ?_⟩
  have : c.toNat ≤ 57 := hhigh
  omega

theorem digit_eq_some {base d : Nat} (h : digit base cs = some (d, after)) :
    ∃ c, cs = c :: after ∧ Bytes.hexValue? c = some d := by
  obtain ⟨c, mid, hchar, h⟩ := Scan.bind_eq_some_iff.mp h
  obtain ⟨v, mid', hvalue, h⟩ := Scan.bind_eq_some_iff.mp h
  obtain ⟨_, mid'', hless, hdone⟩ := Scan.bind_eq_some_iff.mp h
  cases cs with
  | nil => exact nomatch hchar
  | cons c' cs =>
    obtain ⟨rfl, rfl⟩ := Prod.mk.inj (Option.some.inj hchar)
    obtain ⟨hsome, rfl⟩ := Scan.some?_eq_some hvalue
    obtain rfl := Scan.guard_eq_some hless
    obtain ⟨rfl, rfl⟩ := Prod.mk.inj (Option.some.inj hdone)
    exact ⟨c', rfl, hsome⟩

theorem Numeral.fixedDigits {m value : Nat} (h : Numeral cs)
    (hread : fixedDigits n value cs = some (m, after)) : Numeral after := by
  induction n generalizing cs value with
  | zero =>
    obtain ⟨-, rfl⟩ := Prod.mk.inj (Option.some.inj hread)
    exact h
  | succ n ih =>
    obtain ⟨d, mid, hdigit, hrest⟩ := Scan.bind_eq_some_iff.mp hread
    obtain ⟨c, rfl, hc⟩ := digit_eq_some hdigit
    have hline : c ≠ '\n' := by
      rintro rfl
      exact nomatch hc
    exact ih (h.tail hline).2 hrest

/-! ## 2. What a numeral is not -/

theorem Numeral.pair {low high m : Nat} (h : Numeral cs) (hread : pair low high cs = some (m, after)) :
    Numeral after := by
  obtain ⟨n, mid, hdigits, hread⟩ := Scan.bind_eq_some_iff.mp hread
  obtain ⟨_, mid', hguard, hdone⟩ := Scan.bind_eq_some_iff.mp hread
  obtain rfl := Scan.guard_eq_some hguard
  obtain ⟨-, rfl⟩ := Prod.mk.inj (Option.some.inj hdone)
  exact h.fixedDigits hdigits

theorem Numeral.date_none (h : Numeral cs) : date cs = none := by
  refine Scan.bind_none_of_next fun year after hyear => Scan.bind_none ?_
  exact (h.fixedDigits hyear).literal_none (by decide) (by decide)

theorem Numeral.time_none (h : Numeral cs) : time cs = none := by
  refine Scan.bind_none_of_next fun hour after hhour => Scan.bind_none ?_
  exact (h.pair hhour).literal_none (by decide) (by decide)

theorem Numeral.anyMoment_none (h : Numeral cs) : anyMoment cs = none := by
  unfold anyMoment
  rw [Scan.orElse_right (Scan.bind_none h.date_none), Scan.bind_none h.time_none]

theorem Numeral.sign (h : Numeral cs) : sign cs = some (false, cs) := by
  unfold Toml.sign
  rw [Scan.orElse_right (Scan.bind_none (h.literal_none (by decide) (by decide))),
    Scan.orElse_right (Scan.bind_none (h.literal_none (by decide) (by decide)))]
  rfl

/-! ## 3. Digits read back -/

theorem numeral_toDigits (n : Nat) (rest : List Char) : Numeral (Nat.toDigits 10 n ++ '\n' :: rest) :=
  ⟨Nat.toDigits 10 n, rest, fun _ hd => Nat.isDigit_of_mem_toDigits (by decide) (by decide) hd, rfl⟩

/-- Only zero begins with a zero. -/
theorem eq_zero_of_head_toDigits (h : (Nat.toDigits 10 n).head? = some '0') : n = 0 := by
  induction n using Nat.strongRecOn with
  | ind n ih =>
    by_cases hsmall : n < 10
    · have hone : ∀ m < 10, [m.digitChar].head? = some '0' → m = 0 := by decide
      rw [Nat.toDigits_of_lt_base hsmall] at h
      exact hone n hsmall h
    · rw [Nat.toDigits_of_base_le (by decide) (Nat.le_of_not_lt hsmall)] at h
      have hzero : n / 10 = 0 := by
        refine ih (n / 10) (by omega) ?_
        cases hfirst : Nat.toDigits 10 (n / 10) with
        | nil => exact absurd hfirst Nat.toDigits_ne_nil
        | cons d ds => rwa [hfirst] at h
      omega

theorem takes_digit {d : Char} (h : d.isDigit = true) (rest : List Char) :
    (digit 10).Takes [d] (d.toNat - 48) rest := by
  obtain ⟨hvalue, hless⟩ := hexValue?_of_isDigit h
  unfold Takes digit
  rw [List.singleton_append, Scan.bind_eq (p := Scan.anyChar) rfl, hvalue,
    Scan.bind_eq (p := Scan.some? (some (d.toNat - 48))) rfl, decide_eq_true hless]
  rfl

theorem repeats_digits (hds : ∀ d ∈ ds, d.isDigit = true) (rest : List Char) :
    Scan.Repeats (digit 10 <|> do Scan.literal ['_']; digit 10) ('\n' :: rest) ds
      (ds.map fun d => d.toNat - 48) := by
  induction ds with
  | nil => exact .stop rfl
  | cons d ds ih =>
    obtain ⟨hd, hds⟩ := List.forall_mem_cons.mp hds
    exact .next (Scan.orElse_left (takes_digit hd _)) (List.cons_ne_nil d []) (ih hds)

theorem takes_digits (hne : ds ≠ []) (hds : ∀ d ∈ ds, d.isDigit = true) (rest : List Char) :
    (digits 10).Takes ds (ds.map fun d => d.toNat - 48) ('\n' :: rest) := by
  cases ds with
  | nil => exact absurd rfl hne
  | cons d ds =>
    obtain ⟨hd, hds⟩ := List.forall_mem_cons.mp hds
    exact (takes_digit hd _).bind ((repeats_digits hds rest).many.bind_nil (Scan.takes_pure _ _))

theorem ofDigits_toDigits (n : Nat) :
    ofDigits 10 ((Nat.toDigits 10 n).map fun d => d.toNat - 48) = n := by
  rw [ofDigits, List.foldl_map]
  exact Nat.ofDigitChars_ten_toDigits

theorem wholeDigits_of_head (h : cs.head? ≠ some '0') : wholeDigits cs = digits 10 cs := by
  unfold wholeDigits
  rw [Scan.bind_eq (p := Scan.peek) rfl]
  refine congrFun (?_ : _ = digits 10) cs
  split
  · contradiction
  · rfl

theorem takes_wholeDigits (n : Nat) (rest : List Char) :
    ∃ ds, wholeDigits.Takes (Nat.toDigits 10 n) ds ('\n' :: rest) ∧ ofDigits 10 ds = n := by
  by_cases hzero : n = 0
  · subst hzero
    exact ⟨[0], rfl, rfl⟩
  · refine ⟨_, ?_, ofDigits_toDigits n⟩
    have hhead : (Nat.toDigits 10 n ++ '\n' :: rest).head? ≠ some '0' := by
      cases hdigits : Nat.toDigits 10 n with
      | nil => exact absurd hdigits Nat.toDigits_ne_nil
      | cons d ds =>
        intro hd
        exact hzero (eq_zero_of_head_toDigits (hdigits ▸ hd))
    unfold Takes
    rw [wholeDigits_of_head hhead]
    exact takes_digits Nat.toDigits_ne_nil
      (fun _ => Nat.isDigit_of_mem_toDigits (by decide) (by decide)) rest

theorem anyFloat_none (n : Nat) (rest : List Char) :
    anyFloat (Nat.toDigits 10 n ++ '\n' :: rest) = none := by
  have hnumeral := numeral_toDigits n rest
  obtain ⟨ds, hwhole, -⟩ := takes_wholeDigits n rest
  have hdecimal : decimalFloat (Nat.toDigits 10 n ++ '\n' :: rest) = none := by
    unfold decimalFloat
    rw [Scan.bind_eq hnumeral.sign, Scan.bind_eq hwhole]
    exact Scan.bind_none rfl
  unfold anyFloat
  rw [Scan.orElse_right hdecimal, Scan.bind_eq hnumeral.sign]
  refine Scan.bind_none ?_
  rw [Scan.orElse_right (hnumeral.literal_none (by decide) (by decide)),
    hnumeral.literal_none (by decide) (by decide)]

theorem takes_anyInteger (h : isInteger n = true) (rest : List Char) :
    anyInteger.Takes (Nat.toDigits 10 n) (.integer n) ('\n' :: rest) := by
  have hnumeral := numeral_toDigits n rest
  obtain ⟨ds, hwhole, hvalue⟩ := takes_wholeDigits n rest
  have hmark {mark : Char} (hline : '\n' ∉ ['0', mark]) (hother : mark.isDigit = false) :
      Scan.literal ['0', mark] (Nat.toDigits 10 n ++ '\n' :: rest) = none :=
    hnumeral.literal_none hline (by simp [hother])
  unfold Takes anyInteger
  rw [Scan.orElse_right (Scan.bind_none (hmark (by decide) (by decide))),
    Scan.orElse_right (Scan.bind_none (hmark (by decide) (by decide))),
    Scan.orElse_right (Scan.bind_none (hmark (by decide) (by decide))),
    Scan.bind_eq hnumeral.sign, Scan.bind_eq hwhole, hvalue]
  unfold integer?
  rw [if_neg Bool.false_ne_true, if_pos h]
  rfl

theorem integerText?_eq_some {s : String} (h : integerText? n = some s) :
    isInteger n = true ∧ s.toList = Nat.toDigits 10 n := by
  unfold integerText? at h
  split at h
  · rename_i hinteger
    obtain rfl := Option.some.inj h
    refine ⟨hinteger, ?_⟩
    rw [Nat.toString_eq_repr, Nat.toList_repr]
  · exact nomatch h

theorem takes_integerText {s : String} (h : integerText? n = some s) (rest : List Char) :
    anyNumber.Takes s.toList (.integer n) ('\n' :: rest) := by
  obtain ⟨hinteger, hdigits⟩ := integerText?_eq_some h
  unfold Takes anyNumber
  rw [hdigits, Scan.orElse_right (numeral_toDigits n rest).anyMoment_none,
    Scan.orElse_right (anyFloat_none n rest)]
  exact takes_anyInteger hinteger rest

end DeviceSync.Toml
