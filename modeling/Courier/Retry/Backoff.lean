import Courier.Retry.Duration

/-!
Exponential backoff. The pause after the `n`-th failure is the base period doubled `n - 1` times, up to a
ceiling: the configured maximum, or a hundred base periods if that is less. A random part may be added
to it; it never lifts a pause above the ceiling.
-/
namespace Courier

/-- The periods of a backoff. A draw of at most `jitter` is added to every pause. -/
structure Backoff where
  base : Duration
  max : Duration
  jitter : Duration := .zero
  deriving DecidableEq, Repr

namespace Backoff

def ceilingFactor : UInt32 := 100

def maxDoublings : Nat := 31

/-- No pause is longer. -/
def ceiling (b : Backoff) : Duration := b.max.min (b.base.mul ceilingFactor)

/-- The pause after the failure with this number, without a random part. Before the first failure it is
as after it. -/
def plainDelay (b : Backoff) (failures : Nat) : Duration :=
  let doublings := Nat.min (failures - 1) maxDoublings
  (b.base.mul (UInt32.ofNat (Nat.pow 2 doublings))).min b.ceiling

def delayWith (b : Backoff) (drawn : Duration) (failures : Nat) : Duration :=
  ((b.plainDelay failures).add drawn).min b.ceiling

/-- The pause after the failure with this number if nothing is drawn. -/
def delay (b : Backoff) (failures : Nat) : Duration := b.delayWith .zero failures

end Backoff

end Courier
