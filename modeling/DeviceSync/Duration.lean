/-!
# Durations

Spans of time, exact to the nanosecond, below `2 ^ 64` seconds. Multiplication stays at the longest
duration where the product would be longer.
-/

namespace DeviceSync

def nanosPerSecond : Nat := 1000000000

def nanosPerMilli : Nat := 1000000

/-- A span of time. -/
structure Duration where
  nanos : Nat
  nanos_lt : nanos < UInt64.size * nanosPerSecond
deriving DecidableEq

namespace Duration

@[ext] theorem ext {a b : Duration} (h : a.nanos = b.nanos) : a = b := by
  cases a; cases b; simp_all

/-- The duration with this many nanoseconds, if there is one. -/
def ofNanos? (n : Nat) : Option Duration :=
  if h : n < UInt64.size * nanosPerSecond then some ⟨n, h⟩ else none

/-- The duration with this many nanoseconds, or the longest one. -/
def saturate (n : Nat) : Duration :=
  ⟨min n (UInt64.size * nanosPerSecond - 1), by simp only [nanosPerSecond, UInt64.size]; omega⟩

def zero : Duration := ⟨0, by decide⟩

def ofMillis (ms : UInt64) : Duration :=
  ⟨ms.toNat * nanosPerMilli, by
    have := ms.toNat_lt
    simp only [nanosPerMilli, nanosPerSecond, UInt64.size]; omega⟩

def seconds (d : Duration) : Nat := d.nanos / nanosPerSecond

/-- Nanoseconds beyond the whole seconds. -/
def subsecondNanos (d : Duration) : Nat := d.nanos % nanosPerSecond

def millis (d : Duration) : Nat := d.nanos / nanosPerMilli

/-- The multiple of a duration, or the longest duration if that is shorter. -/
def scale (d : Duration) (k : Nat) : Duration := saturate (d.nanos * k)

def shorter (a b : Duration) : Duration := if a.nanos ≤ b.nanos then a else b

/-- The sum of two durations, if it is one. -/
def add? (a b : Duration) : Option Duration := ofNanos? (a.nanos + b.nanos)

end Duration

end DeviceSync
