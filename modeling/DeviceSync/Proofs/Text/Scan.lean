import DeviceSync.Text.Scan

/-!
# Scans of written text

1. `Scan.Takes p written a rest`: before `rest`, the scan takes exactly the characters `written` for `a`.
   What follows matters, for many scans take as much as they can.
2. `Scan.Repeats`: the texts that a repeated scan takes one after another. As each of them holds a
   character, the repetition never runs out (`Scan.Repeats.many`).
-/

namespace DeviceSync.Text.Scan

variable {α β : Type} {p q : Scan α} {f : α → Scan β} {a : α} {b : β}
  {written more rest cs : List Char}

/-! ## 1. One scan after another -/

/-- The scan takes exactly these characters for the value, where `rest` follows them. -/
def Takes (p : Scan α) (written : List Char) (a : α) (rest : List Char) : Prop :=
  p (written ++ rest) = some (a, rest)

theorem takes_pure (a : α) (rest : List Char) : (Pure.pure a : Scan α).Takes [] a rest := rfl

theorem Takes.bind (hp : p.Takes written a (more ++ rest)) (hf : (f a).Takes more b rest) :
    (p >>= f).Takes (written ++ more) b rest := by
  unfold Takes at *
  rw [List.append_assoc, bind_eq hp, hf]

/-- What comes second may take no characters. -/
theorem Takes.bind_nil (hp : p.Takes written a rest) (hf : (f a).Takes [] b rest) :
    (p >>= f).Takes written b rest := by
  unfold Takes at *
  rw [bind_eq hp]
  exact hf

theorem bind_none (h : p cs = none) : (p >>= f) cs = none := by
  simp [Bind.bind, Scan.bind, h]

theorem bind_eq_some_iff {r : β × List Char} :
    (p >>= f) cs = some r ↔ ∃ a mid, p cs = some (a, mid) ∧ f a mid = some r := by
  show Scan.bind p f cs = some r ↔ _
  unfold Scan.bind
  cases hp : p cs with
  | none => simp
  | some found =>
    obtain ⟨a, mid⟩ := found
    constructor
    · exact fun h => ⟨a, mid, rfl, h⟩
    · rintro ⟨_, _, hfound, h⟩
      obtain ⟨rfl, rfl⟩ := Prod.mk.inj (Option.some.inj hfound)
      exact h

/-- A scan fails if what comes second fails wherever the first part ends. -/
theorem bind_none_of_next (h : ∀ a mid, p cs = some (a, mid) → f a mid = none) : (p >>= f) cs = none := by
  rw [Option.eq_none_iff_forall_ne_some]
  intro r hr
  obtain ⟨a, mid, hp, hf⟩ := bind_eq_some_iff.mp hr
  exact nomatch (h a mid hp).symm.trans hf

theorem some?_eq_some {o : Option α} (h : some? o cs = some (a, rest)) : o = some a ∧ rest = cs := by
  cases o with
  | none => exact nomatch h
  | some a' =>
    obtain ⟨rfl, rfl⟩ := Prod.mk.inj (Option.some.inj h)
    exact ⟨rfl, rfl⟩

theorem guard_eq_some {holds : Bool} {u : Unit} (h : guard holds cs = some (u, rest)) : rest = cs := by
  cases holds with
  | false => exact nomatch h
  | true => exact (Prod.mk.inj (Option.some.inj h)).2.symm

theorem orElse_left (h : p.Takes written a rest) : (p <|> q).Takes written a rest := by
  show Scan.orElse p (fun _ => q) (written ++ rest) = _
  rw [Scan.orElse, h]

theorem orElse_right (h : p cs = none) : (p <|> q) cs = q cs := by
  show Scan.orElse p (fun _ => q) cs = _
  rw [Scan.orElse, h]

theorem takes_literal (l rest : List Char) : (literal l).Takes l () rest := literal_append l rest

theorem literal_cons (l : Char) (ls cs : List Char) : literal (l :: ls) (l :: cs) = literal ls cs := if_pos rfl

theorem literal_none {l : Char} {ls : List Char} (h : cs.head? ≠ some l) :
    literal (l :: ls) cs = none := by
  cases cs with
  | nil => rfl
  | cons c cs => exact if_neg fun heq => h (congrArg some heq.symm)

theorem takes_span {p : Char → Bool} (hwritten : ∀ c ∈ written, p c = true)
    (hrest : ∀ c, rest.head? = some c → p c = false) : (span p).Takes written written rest :=
  span_append hwritten hrest

theorem span1_none {p : Char → Bool} (h : ∀ c, cs.head? = some c → p c = false) :
    span1 p cs = none := by
  cases cs with
  | nil => rfl
  | cons c cs => simp [span1, h c rfl]

theorem takes_span1 {p : Char → Bool} (hne : written ≠ []) (hwritten : ∀ c ∈ written, p c = true)
    (hrest : ∀ c, rest.head? = some c → p c = false) : (span1 p).Takes written written rest := by
  have hspan := takes_span hwritten hrest
  have htaken : (written ++ rest).takeWhile p = written := (Prod.mk.inj (Option.some.inj hspan)).1
  unfold Takes span1
  rw [htaken, if_neg hne, hspan]

theorem optional_some (h : p.Takes written a rest) : (optional p).Takes written (some a) rest := by
  unfold Takes optional
  rw [h]

theorem optional_none (h : p cs = none) : optional p cs = some (none, cs) := by
  rw [optional, h]

/-! ## 2. Repeated scans -/

/-- The texts that a repeated scan takes for values, one after another, before it stops at `rest`. -/
inductive Repeats (p : Scan α) (rest : List Char) : List Char → List α → Prop
  | stop : p rest = none → Repeats p rest [] []
  | next {written more : List Char} {a : α} {as : List α} : p.Takes written a (more ++ rest) →
      written ≠ [] → Repeats p rest more as → Repeats p rest (written ++ more) (a :: as)

theorem Repeats.times {as : List α} (h : Repeats p rest written as) {n : Nat}
    (enough : written.length ≤ n) : times p n (written ++ rest) = some (as, rest) := by
  induction h generalizing n with
  | stop hnone =>
    cases n with
    | zero => rfl
    | succ n => rw [List.nil_append, Scan.times, hnone]
  | @next written more a as htakes hne _ ih =>
    have hpos := List.length_pos_iff.mpr hne
    rw [List.length_append] at enough
    obtain ⟨n, rfl⟩ := Nat.exists_eq_succ_of_ne_zero (n := n) (by omega)
    rw [List.append_assoc, Scan.times, htakes]
    dsimp only
    rw [ih (by omega)]

theorem Repeats.many {as : List α} (h : Repeats p rest written as) : (many p).Takes written as rest :=
  h.times (by simp)

end DeviceSync.Text.Scan
