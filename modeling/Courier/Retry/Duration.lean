/-!
Spans of time: whole seconds in a 64-bit word and nanoseconds below one second. A product that does not
fit is the longest span.
-/
namespace Courier

def nanosPerSecond : Nat := 1000000000

structure Duration where
  seconds : UInt64
  nanos : UInt32
  nanos_lt : nanos.toNat < nanosPerSecond := by decide
  deriving DecidableEq, Repr

namespace Duration

def zero : Duration := ⟨0, 0, by decide⟩

def longest : Duration := ⟨0xffffffffffffffff, 999999999, by decide⟩

def toNanos (d : Duration) : Nat := d.seconds.toNat * nanosPerSecond + d.nanos.toNat

def toMillis (d : Duration) : Nat := d.seconds.toNat * 1000 + d.nanos.toNat / 1000000

def ofMillis (n : UInt64) : Duration where
  seconds := n / 1000
  nanos := UInt32.ofNat (n.toNat % 1000 * 1000000)
  nanos_lt := by
    have h : n.toNat % 1000 < 1000 := Nat.mod_lt _ (by decide)
    rw [UInt32.toNat_ofNat_of_lt' (by simp only [UInt32.size]; omega)]
    simp only [nanosPerSecond]
    omega

/-- Seconds and nanoseconds, the latter carried over into seconds. -/
def ofParts (seconds : UInt64) (nanos : UInt32) : Duration where
  seconds := seconds + (nanos / 1000000000).toUInt64
  nanos := nanos % 1000000000
  nanos_lt := by
    rw [UInt32.toNat_mod]
    exact Nat.mod_lt _ (by decide)

/-- `k` times the span: the nanoseconds carry into the seconds, and what does not fit is the longest
span. -/
def mul (d : Duration) (k : UInt32) : Duration :=
  let nanos := d.nanos.toNat * k.toNat
  let seconds := d.seconds.toNat * k.toNat + nanos / nanosPerSecond
  if seconds < UInt64.size then
    { seconds := UInt64.ofNat seconds
      nanos := UInt32.ofNat (nanos % nanosPerSecond)
      nanos_lt := by
        have h : nanos % nanosPerSecond < nanosPerSecond := Nat.mod_lt _ (by decide)
        rw [UInt32.toNat_ofNat_of_lt' (Nat.lt_trans h (by decide))]
        exact h }
  else longest

/-- The sum; what does not fit is the longest span. -/
def add (d e : Duration) : Duration :=
  let nanos := d.nanos.toNat + e.nanos.toNat
  let seconds := d.seconds.toNat + e.seconds.toNat + nanos / nanosPerSecond
  if seconds < UInt64.size then
    { seconds := UInt64.ofNat seconds
      nanos := UInt32.ofNat (nanos % nanosPerSecond)
      nanos_lt := by
        have h : nanos % nanosPerSecond < nanosPerSecond := Nat.mod_lt _ (by decide)
        rw [UInt32.toNat_ofNat_of_lt' (Nat.lt_trans h (by decide))]
        exact h }
  else longest

def le (d e : Duration) : Bool :=
  d.seconds < e.seconds || (d.seconds == e.seconds && d.nanos ≤ e.nanos)

def min (d e : Duration) : Duration := if d.le e then d else e

end Duration

end Courier
