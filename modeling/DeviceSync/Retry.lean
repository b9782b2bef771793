import DeviceSync.Duration

/-!
# Retrying

A task that may run more than once is tried again after a fault that may pass. The delay before a retry
doubles with each failure up to a bound; a random part of at most half of it is added, so that many
devices do not come back at the same moment.
-/

namespace DeviceSync

/-- When and how soon a task is tried again. -/
structure RetryPolicy where
  /-- Retries after the first attempt. -/
  maxRetries : Nat := 3
  /-- The delay before the first retry. -/
  initial : Duration := .ofMillis 500
  /-- The bound of the delay, before the random part is added. -/
  max : Duration := .ofMillis 30000
deriving DecidableEq

namespace RetryPolicy

def never : RetryPolicy := ⟨0, .zero, .zero⟩

/-- Whether a task may run again after it failed `failures` times. -/
def shouldRetry (p : RetryPolicy) (idempotent : Bool) (failures : Nat) : Bool :=
  idempotent && decide (failures ≤ p.maxRetries)

/-- The delay before retry number `attempt`, counted from one, without its random part. The delay
doubles sixteen times at most. -/
def baseDelay (p : RetryPolicy) (attempt : Nat) : Duration :=
  (p.initial.scale (1 <<< min (attempt - 1) 16)).shorter p.max

/-- The largest random part of a delay, in milliseconds. -/
def maxJitter (base : Duration) : Nat := base.millis % UInt64.size / 2

/-- The delay before retry number `attempt`, with a random part taken from `draw`; none if the sum is
longer than any duration. -/
def backoff? (p : RetryPolicy) (attempt : Nat) (draw : UInt64) : Option Duration :=
  let base := p.baseDelay attempt
  base.add? (.ofMillis (UInt64.ofNat (draw.toNat % (maxJitter base + 1))))

/-- Whether the delay before a retry lies between its base and the longest random part above it. -/
def isWithinBounds (p : RetryPolicy) (attempt : Nat) (draw : UInt64) : Bool :=
  let base := p.baseDelay attempt
  (p.backoff? attempt draw).any fun d =>
    base.nanos ≤ d.nanos && d.nanos ≤ base.nanos + maxJitter base * nanosPerMilli

end RetryPolicy

end DeviceSync
