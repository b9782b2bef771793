import DeviceSync.Config.Basic
import Mathlib.Algebra.Group.Nat.Defs
import Mathlib.Order.Monotone.Defs
import Mathlib.Order.Nat

/-!
# Delays before retries

The delay before a retry is to be the first delay, doubled with each retry before this one, up to a
bound.

1. `RetryPolicy.nanos_baseDelay`: what the delay is in exact arithmetic. That a product stays at the
   longest duration is never seen, since the bound is no longer than that.
2. `baseDelay_follows_formula_iff`: the delay is doubled sixteen times at most, so that it falls short
   of the formula from the eighteenth retry on, if the bound has not been reached by then.
3. `RetryPolicy.checkedBackoff?`: the delay with its random part, with every step checked that could
   leave the width of its result. `configured_backoff_is_bounded`: for the policy of a configuration
   no check fails, and the random part is at most half of the delay. So such a policy is `Steady`: its
   delays are durations.
-/

namespace DeviceSync

/-! ## 1. The delay in exact arithmetic -/

namespace Duration

@[simp] theorem nanos_shorter (a b : Duration) : (a.shorter b).nanos = min a.nanos b.nanos := by
  rw [shorter]
  split <;> omega

@[simp] theorem nanos_saturate (n : Nat) :
    (saturate n).nanos = min n (UInt64.size * nanosPerSecond - 1) := rfl

/-- A multiple of a duration is only seen up to a bound that is itself a duration. -/
theorem nanos_shorter_scale (d bound : Duration) (k : Nat) :
    ((d.scale k).shorter bound).nanos = min bound.nanos (d.nanos * k) := by
  have hlongest := bound.nanos_lt
  rw [nanos_shorter, scale, nanos_saturate]
  omega

@[simp] theorem nanos_ofMillis (ms : UInt64) : (ofMillis ms).nanos = ms.toNat * nanosPerMilli := rfl

theorem add?_eq_none_iff {a b : Duration} :
    a.add? b = none ↔ UInt64.size * nanosPerSecond ≤ a.nanos + b.nanos := by
  rw [add?, ofNanos?, dite_eq_right_iff]
  simp

end Duration

namespace RetryPolicy

theorem nanos_baseDelay (p : RetryPolicy) (attempt : Nat) : (p.baseDelay attempt).nanos =
    min p.max.nanos (p.initial.nanos * 2 ^ min (attempt - 1) 16) := by
  rw [baseDelay, Duration.nanos_shorter_scale, Nat.one_shiftLeft]

theorem baseDelay_le_max (p : RetryPolicy) (attempt : Nat) :
    (p.baseDelay attempt).nanos ≤ p.max.nanos := by
  rw [nanos_baseDelay]
  exact Nat.min_le_left _ _

/-- A later retry does not come sooner. -/
theorem baseDelay_monotone (p : RetryPolicy) : Monotone fun n => (p.baseDelay n).nanos := by
  intro m n hmn
  show (p.baseDelay m).nanos ≤ (p.baseDelay n).nanos
  have hdoublings : 2 ^ min (m - 1) 16 ≤ 2 ^ min (n - 1) 16 :=
    Nat.pow_le_pow_right (by omega) (by omega)
  have hproduct := Nat.mul_le_mul_left p.initial.nanos hdoublings
  rw [nanos_baseDelay, nanos_baseDelay]
  omega

end RetryPolicy

/-! ## 2. Where the doubling stops -/

/-- The delay before a retry is the first delay doubled with each of the `k` retries before it, up to
the bound, exactly if there were at most sixteen, or there is no delay, or the bound is reached by
then. Retries after the seventeenth are delayed as that one is. -/
theorem baseDelay_follows_formula_iff (p : RetryPolicy) (k : Nat) :
    ((p.baseDelay (k + 1)).nanos = min p.max.nanos (p.initial.nanos * 2 ^ k) ↔
      k ≤ 16 ∨ p.initial.nanos = 0 ∨ p.max.nanos ≤ p.initial.nanos * 2 ^ 16) ∧
    p.baseDelay (k + 1) = p.baseDelay (min k 16 + 1) := by
  have hvalue := p.nanos_baseDelay (k + 1)
  rw [Nat.add_sub_cancel] at hvalue
  refine ⟨?_, Duration.ext ?_⟩
  · by_cases hfew : k ≤ 16
    · rw [Nat.min_eq_left hfew] at hvalue
      exact iff_of_true hvalue (.inl hfew)
    have hmany : 16 < k := Nat.lt_of_not_le hfew
    have hzero : p.initial.nanos = 0 → p.initial.nanos * 2 ^ k = 0 := fun h => by
      rw [h, Nat.zero_mul]
    have hdoubled : 2 * (p.initial.nanos * 2 ^ 16) ≤ p.initial.nanos * 2 ^ k := by
      calc 2 * (p.initial.nanos * 2 ^ 16) = p.initial.nanos * 2 ^ 17 := by omega
        _ ≤ p.initial.nanos * 2 ^ k :=
          Nat.mul_le_mul_left _ (Nat.pow_le_pow_right (by omega) hmany)
    rw [Nat.min_eq_right (Nat.le_of_lt hmany)] at hvalue
    rw [hvalue]
    omega
  · rw [hvalue, p.nanos_baseDelay, Nat.add_sub_cancel, Nat.min_assoc, Nat.min_self]

namespace Sample

/-- A policy that waits for up to an hour, but for a millisecond at first. -/
def patient : RetryPolicy := ⟨20, .ofMillis 1, .ofMillis 3600000⟩

end Sample

/-- Before the eighteenth retry the patient policy waits as long as before the seventeenth, and half as
long as the formula says. -/
theorem delay_stops_doubling :
    (Sample.patient.baseDelay 18).nanos = 65536 * nanosPerMilli ∧
    (Sample.patient.baseDelay 18).nanos ≠
      min Sample.patient.max.nanos (Sample.patient.initial.nanos * 2 ^ (18 - 1)) := by
  decide

/-! ## 3. The random part -/

/-- The number, if it is below a bound. -/
def fitting? (bound n : Nat) : Option Nat := if n < bound then some n else none

theorem fitting?_of_lt {bound n : Nat} (h : n < bound) : fitting? bound n = some n := if_pos h

/-- The delay before a retry, where every step is checked: none if the factor does not have 32 bits, if
the milliseconds of the base delay, the number of random parts or the random part do not have 64 bits,
or if the sum is longer than any duration. -/
def RetryPolicy.checkedBackoff? (p : RetryPolicy) (attempt : Nat) (draw : UInt64) :
    Option Duration := do
  let factor ← fitting? UInt32.size (2 ^ min (attempt - 1) 16)
  let base := (p.initial.scale factor).shorter p.max
  let millis ← fitting? UInt64.size base.millis
  if millis / 2 = 0 then return base
  let parts ← fitting? UInt64.size (millis / 2 + 1)
  let part ← fitting? UInt64.size (draw.toNat % parts)
  base.add? (.ofMillis (UInt64.ofNat part))

namespace BackoffLemmas

/-- The random part that is drawn for a delay. -/
def randomPart (base : Duration) (draw : UInt64) : Nat := draw.toNat % (base.millis / 2 + 1)

theorem randomPart_le (base : Duration) (draw : UInt64) : randomPart base draw ≤ base.millis / 2 :=
  Nat.le_of_lt_succ (Nat.mod_lt _ (Nat.succ_pos _))

/-- The random part makes up at most half of the delay. -/
theorem nanos_randomPart_le (base : Duration) (draw : UInt64) :
    2 * (randomPart base draw * nanosPerMilli) ≤ base.nanos := by
  have hpart := randomPart_le base draw
  rw [Duration.millis] at hpart
  simp only [nanosPerMilli] at hpart ⊢
  omega

theorem nanos_ofMillis_randomPart {base : Duration} (short : base.millis < UInt64.size)
    (draw : UInt64) : (Duration.ofMillis (UInt64.ofNat (randomPart base draw))).nanos =
      randomPart base draw * nanosPerMilli := by
  have hpart := randomPart_le base draw
  rw [Duration.nanos_ofMillis, UInt64.toNat_ofNat_of_lt' (by omega)]

/-- Half as much again is still a duration, where the milliseconds have 64 bits. -/
theorem add?_randomPart {base : Duration} (short : base.millis < UInt64.size) (draw : UInt64) :
    ∃ delay, base.add? (.ofMillis (UInt64.ofNat (randomPart base draw))) = some delay ∧
      delay.nanos = base.nanos + randomPart base draw * nanosPerMilli := by
  have hpart := nanos_randomPart_le base draw
  have hfits : base.nanos + randomPart base draw * nanosPerMilli <
      UInt64.size * nanosPerSecond := by
    simp only [Duration.millis, nanosPerMilli, nanosPerSecond, UInt64.size] at short hpart ⊢
    omega
  refine ⟨⟨_, hfits⟩, ?_, rfl⟩
  rw [Duration.add?, nanos_ofMillis_randomPart short, Duration.ofNanos?, dif_pos hfits]

variable {p : RetryPolicy} {attempt : Nat}

theorem backoff?_eq (short : (p.baseDelay attempt).millis < UInt64.size) (draw : UInt64) :
    p.backoff? attempt draw = (p.baseDelay attempt).add?
      (.ofMillis (UInt64.ofNat (randomPart (p.baseDelay attempt) draw))) := by
  rw [RetryPolicy.backoff?, RetryPolicy.maxJitter, Nat.mod_eq_of_lt short]
  rfl

/-- Where the milliseconds of the base delay have 64 bits, every check succeeds. -/
theorem checkedBackoff?_eq (short : (p.baseDelay attempt).millis < UInt64.size) (draw : UInt64) :
    p.checkedBackoff? attempt draw = p.backoff? attempt draw := by
  have hfactor : 2 ^ min (attempt - 1) 16 < UInt32.size :=
    Nat.lt_of_le_of_lt (Nat.pow_le_pow_right (by decide) (Nat.min_le_right _ 16)) (by decide)
  have hbase : (p.initial.scale (2 ^ min (attempt - 1) 16)).shorter p.max = p.baseDelay attempt := by
    rw [RetryPolicy.baseDelay, Nat.one_shiftLeft]
  have hpart := randomPart_le (p.baseDelay attempt) draw
  rw [RetryPolicy.checkedBackoff?, backoff?_eq short]
  simp only [fitting?_of_lt hfactor, Option.bind_eq_bind, Option.bind_some, hbase,
    fitting?_of_lt short]
  split
  · -- Without a random part the delay is the base delay.
    rename_i hnone
    have hzero : randomPart (p.baseDelay attempt) draw = 0 := by omega
    obtain ⟨delay, hsum, hdelay⟩ := add?_randomPart short draw
    rw [hsum]
    refine congrArg some (Duration.ext ?_)
    rw [hdelay, hzero, Nat.zero_mul, Nat.add_zero]
  · have hdrawn : randomPart (p.baseDelay attempt) draw < UInt64.size := by omega
    have hparts : (p.baseDelay attempt).millis / 2 + 1 < UInt64.size := by omega
    rw [fitting?_of_lt hparts, Option.bind_some, ← randomPart, fitting?_of_lt hdrawn,
      Option.bind_some]

/-- The milliseconds of a delay have 64 bits if those of the bound have. -/
theorem millis_baseDelay_lt (short : p.max.millis < UInt64.size) (attempt : Nat) :
    (p.baseDelay attempt).millis < UInt64.size :=
  Nat.lt_of_le_of_lt (Nat.div_le_div_right (p.baseDelay_le_max attempt)) short

theorem millis_ofMillis (ms : UInt64) : (Duration.ofMillis ms).millis = ms.toNat :=
  Nat.mul_div_cancel _ (by decide)

theorem millis_policy_lt (t : TaskSettings) : t.policy.max.millis < UInt64.size := by
  rw [TaskSettings.policy, millis_ofMillis]
  exact t.backoffMax.toNat_lt

end BackoffLemmas

open BackoffLemmas

/-- The longest delay before retry number `attempt` is longer than any duration. -/
def RetryPolicy.Overflows (p : RetryPolicy) (attempt : Nat) : Prop :=
  UInt64.size * nanosPerSecond ≤
    (p.baseDelay attempt).nanos + maxJitter (p.baseDelay attempt) * nanosPerMilli

instance (p : RetryPolicy) (attempt : Nat) : Decidable (p.Overflows attempt) :=
  inferInstanceAs (Decidable (_ ≤ _))

theorem RetryPolicy.exists_backoff?_eq_none_iff {p : RetryPolicy} {attempt : Nat} :
    (∃ draw, p.backoff? attempt draw = none) ↔ p.Overflows attempt := by
  have hjitter : maxJitter (p.baseDelay attempt) < UInt64.size :=
    Nat.lt_of_le_of_lt (Nat.div_le_self _ 2) (Nat.mod_lt _ (by decide))
  constructor
  · rintro ⟨draw, hnone⟩
    have hpart := Nat.mod_lt draw.toNat (Nat.succ_pos (maxJitter (p.baseDelay attempt)))
    rw [backoff?, Duration.add?_eq_none_iff, Duration.nanos_ofMillis,
      UInt64.toNat_ofNat_of_lt' (Nat.lt_of_lt_of_le hpart hjitter)] at hnone
    exact hnone.trans (Nat.add_le_add_left (Nat.mul_le_mul_right _ (Nat.le_of_lt_succ hpart)) _)
  · -- The largest random part is drawn by itself.
    intro overflows
    refine ⟨.ofNat (maxJitter (p.baseDelay attempt)), ?_⟩
    rw [backoff?, Duration.add?_eq_none_iff, Duration.nanos_ofMillis,
      UInt64.toNat_ofNat_of_lt' hjitter, Nat.mod_eq_of_lt (Nat.lt_succ_self _),
      UInt64.toNat_ofNat_of_lt' hjitter]
    exact overflows

/-- Every delay before a retry is a duration, whatever its random part. -/
def RetryPolicy.Steady (p : RetryPolicy) : Prop :=
  ∀ (attempt : Nat) (draw : UInt64), p.backoff? attempt draw ≠ none

theorem RetryPolicy.steady_of_short {p : RetryPolicy} (short : p.max.millis < UInt64.size) :
    p.Steady := by
  intro attempt draw hnone
  have overflows := exists_backoff?_eq_none_iff.mp ⟨draw, hnone⟩
  have hshort := millis_baseDelay_lt short attempt
  rw [Overflows, maxJitter, Nat.mod_eq_of_lt hshort] at overflows
  simp only [Duration.millis, nanosPerMilli, nanosPerSecond, UInt64.size] at overflows hshort
  omega

theorem TaskSettings.policy_steady (t : TaskSettings) : t.policy.Steady :=
  RetryPolicy.steady_of_short (millis_policy_lt t)

/-- For the policy of a configuration, whatever its settings, retries come later and later, and their
delay is the one of exact arithmetic. No check of a step fails, and the random part makes a delay
longer by half of it at most. -/
theorem configured_backoff_is_bounded (t : TaskSettings) :
    (Monotone fun attempt => (t.policy.baseDelay attempt).nanos) ∧
    ∀ (attempt : Nat) (draw : UInt64),
      (t.policy.baseDelay attempt).nanos = min t.policy.max.nanos
        (t.policy.initial.nanos * 2 ^ min (attempt - 1) 16) ∧
      (t.policy.baseDelay attempt).nanos ≤ t.policy.max.nanos ∧
      ∃ delay, t.policy.checkedBackoff? attempt draw = some delay ∧
        t.policy.backoff? attempt draw = some delay ∧
        (t.policy.baseDelay attempt).nanos ≤ delay.nanos ∧
        delay.nanos ≤ (t.policy.baseDelay attempt).nanos * 3 / 2 := by
  refine ⟨t.policy.baseDelay_monotone, fun attempt draw =>
    ⟨t.policy.nanos_baseDelay attempt, t.policy.baseDelay_le_max attempt, ?_⟩⟩
  have hshort := millis_baseDelay_lt (millis_policy_lt t) attempt
  obtain ⟨delay, hsum, hdelay⟩ := add?_randomPart hshort draw
  have hpart := nanos_randomPart_le (t.policy.baseDelay attempt) draw
  have hbackoff := (backoff?_eq hshort draw).trans hsum
  exact ⟨delay, (checkedBackoff?_eq hshort draw).trans hbackoff, hbackoff, by omega, by omega⟩

/-- The longest settings, the last retry and the largest draw: some 877 million years. -/
example : ((TaskSettings.policy ⟨1, 1, 18446744073709551615, 18446744073709551615⟩).backoff?
    4294967295 18446744073709551615).isSome = true := by decide

end DeviceSync
