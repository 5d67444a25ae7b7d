import Courier.Retry.Backoff
import Mathlib.Tactic.Ring

/-!
Spans of time as numbers of nanoseconds. A product or a sum of spans is the exact one, cut off at the longest span
(`Duration.toNanos_mul`, `Duration.toNanos_add`), and spans compare as their numbers do
(`Duration.le_iff`). So a pause of a backoff is the least of three exact numbers: the base period doubled
after each failure but the first, the longest pause, and a hundred base periods (`Backoff.toNanos_delay`).
Neither the limit on the doublings nor the longest span is ever felt, and no word on the way overflows
(`Backoff.delay_in_exact_nanos`).
-/
namespace Courier

namespace Duration

/-- The span of these seconds and nanoseconds, the latter carried over; what does not fit is the longest. -/
def carried (seconds nanos : Nat) : Duration :=
  let whole := seconds + nanos / nanosPerSecond
  if whole < UInt64.size then
    { seconds := UInt64.ofNat whole
      nanos := UInt32.ofNat (nanos % nanosPerSecond)
      nanos_lt := by
        have h : nanos % nanosPerSecond < nanosPerSecond := Nat.mod_lt _ (by decide)
        rw [UInt32.toNat_ofNat_of_lt' (Nat.lt_trans h (by decide))]
        exact h }
  else longest

theorem mul_eq_carried (d : Duration) (k : UInt32) :
    d.mul k = carried (d.seconds.toNat * k.toNat) (d.nanos.toNat * k.toNat) := rfl

theorem add_eq_carried (d e : Duration) :
    d.add e = carried (d.seconds.toNat + e.seconds.toNat) (d.nanos.toNat + e.nanos.toNat) := rfl

theorem toNanos_longest : longest.toNanos = 18446744073709551615999999999 := rfl

theorem toNanos_le_longest (d : Duration) : d.toNanos ≤ longest.toNanos := by
  have seconds := d.seconds.toNat_lt
  have nanos := d.nanos_lt
  rw [toNanos_longest]
  unfold toNanos nanosPerSecond at *
  omega

theorem toNanos_carried (seconds nanos : Nat) :
    (carried seconds nanos).toNanos = Min.min (seconds * nanosPerSecond + nanos) longest.toNanos := by
  rw [toNanos_longest]
  unfold carried
  dsimp only
  split
  · next fits =>
    have below : nanos % nanosPerSecond < nanosPerSecond := Nat.mod_lt _ (by decide)
    have whole := UInt64.toNat_ofNat_of_lt' fits
    have part := UInt32.toNat_ofNat_of_lt' (Nat.lt_trans below (by decide))
    unfold toNanos
    rw [whole, part]
    simp only [nanosPerSecond, UInt64.size] at *
    omega
  · next large =>
    rw [toNanos_longest]
    simp only [nanosPerSecond, UInt64.size] at *
    omega

theorem toNanos_mul (d : Duration) (k : UInt32) :
    (d.mul k).toNanos = Min.min (d.toNanos * k.toNat) longest.toNanos := by
  have exactly : d.seconds.toNat * k.toNat * nanosPerSecond + d.nanos.toNat * k.toNat =
      d.toNanos * k.toNat := by
    unfold toNanos
    ring
  rw [mul_eq_carried, toNanos_carried, exactly]

theorem toNanos_add (d e : Duration) :
    (d.add e).toNanos = Min.min (d.toNanos + e.toNanos) longest.toNanos := by
  have exactly : (d.seconds.toNat + e.seconds.toNat) * nanosPerSecond + (d.nanos.toNat + e.nanos.toNat) =
      d.toNanos + e.toNanos := by
    unfold toNanos
    ring
  rw [add_eq_carried, toNanos_carried, exactly]

theorem toNanos_ofMillis (n : UInt64) : (ofMillis n).toNanos = n.toNat * 1000000 := by
  have part := UInt32.toNat_ofNat_of_lt' (show n.toNat % 1000 * 1000000 < UInt32.size by
    simp only [UInt32.size]
    omega)
  unfold ofMillis toNanos nanosPerSecond
  dsimp only
  rw [part, UInt64.toNat_div]
  show n.toNat / 1000 * 1000000000 + n.toNat % 1000 * 1000000 = n.toNat * 1000000
  omega

theorem le_iff (d e : Duration) : d.le e = true ↔ d.toNanos ≤ e.toNanos := by
  have nanos := d.nanos_lt
  have others := e.nanos_lt
  unfold le toNanos nanosPerSecond at *
  simp only [Bool.or_eq_true, Bool.and_eq_true, decide_eq_true_eq, beq_iff_eq, UInt64.lt_iff_toNat_lt,
    UInt32.le_iff_toNat_le, ← UInt64.toNat_inj]
  omega

theorem toNanos_min (d e : Duration) : (d.min e).toNanos = Min.min d.toNanos e.toNanos := by
  unfold Duration.min
  split
  · next short => exact (Nat.min_eq_left ((le_iff d e).mp short)).symm
  · next long =>
    rw [le_iff] at long
    exact (Nat.min_eq_right (Nat.le_of_not_le long)).symm

end Duration

namespace Backoff

/-- The ceiling of the pauses is the exact one. -/
theorem toNanos_ceiling (b : Backoff) :
    b.ceiling.toNanos = min b.max.toNanos (100 * b.base.toNanos) := by
  have longest := b.max.toNanos_le_longest
  have factor : ceilingFactor.toNat = 100 := rfl
  rw [ceiling, Duration.toNanos_min, Duration.toNanos_mul, factor]
  omega

/-- How often the base period is doubled for the pause after the failure with this number. -/
def doublings (failures : Nat) : Nat := Nat.min (failures - 1) maxDoublings

theorem doublings_lt (failures : Nat) : doublings failures < 32 :=
  Nat.lt_succ_of_le (Nat.min_le_right _ _)

/-- The factor of the base period is the power of two in full. -/
theorem toNat_factor (failures : Nat) :
    (UInt32.ofNat (Nat.pow 2 (doublings failures))).toNat = 2 ^ doublings failures := by
  have few : doublings failures ≤ 31 := Nat.le_of_lt_succ (doublings_lt failures)
  have fits : 2 ^ doublings failures < UInt32.size :=
    Nat.lt_of_le_of_lt (Nat.pow_le_pow_right (by decide) few) (by decide)
  exact UInt32.toNat_ofNat_of_lt' fits

theorem plainDelay_eq (b : Backoff) (failures : Nat) :
    b.plainDelay failures =
      (b.base.mul (UInt32.ofNat (Nat.pow 2 (doublings failures)))).min b.ceiling := rfl

/-- As many doublings as are made lift the base period above the ceiling. -/
theorem ceiling_le_doubled (b : Backoff) : b.ceiling.toNanos ≤ b.base.toNanos * 2 ^ maxDoublings := by
  have enough : 100 ≤ 2 ^ maxDoublings := by decide
  calc
    b.ceiling.toNanos ≤ 100 * b.base.toNanos := by
      rw [toNanos_ceiling]
      exact Nat.min_le_right _ _
    _ ≤ b.base.toNanos * 2 ^ maxDoublings := by
      rw [Nat.mul_comm]
      exact Nat.mul_le_mul_left _ enough

/-- Cutting off at the longest span, or at the ceiling twice, takes nothing from a pause below the ceiling. -/
theorem min_cut {pause ceiling longest : Nat} (below : ceiling ≤ longest) :
    min (min (min (min pause longest) ceiling + 0) longest) ceiling = min pause ceiling := by
  omega

/-- A pause of a backoff is the exact one. -/
theorem toNanos_delay (b : Backoff) (failures : Nat) :
    (b.delay failures).toNanos =
      min (b.base.toNanos * 2 ^ (failures - 1)) (min b.max.toNanos (100 * b.base.toNanos)) := by
  have below : b.ceiling.toNanos ≤ Duration.longest.toNanos := b.ceiling.toNanos_le_longest
  have none : Duration.zero.toNanos = 0 := rfl
  rw [delay, delayWith, plainDelay_eq]
  simp only [Duration.toNanos_min, Duration.toNanos_add, Duration.toNanos_mul, none, toNat_factor,
    min_cut below]
  rw [← toNanos_ceiling]
  by_cases all : failures - 1 ≤ maxDoublings
  · rw [show doublings failures = failures - 1 from Nat.min_eq_left all]
  · -- Both the doublings that are made and all that there would be lift the pause to the ceiling.
    have more : maxDoublings ≤ failures - 1 := Nat.le_of_not_le all
    have lifted := b.ceiling_le_doubled
    have further : b.base.toNanos * 2 ^ maxDoublings ≤ b.base.toNanos * 2 ^ (failures - 1) :=
      Nat.mul_le_mul_left _ (Nat.pow_le_pow_right (by decide) more)
    rw [show doublings failures = maxDoublings from Nat.min_eq_right more,
      Nat.min_eq_right lifted, Nat.min_eq_right (lifted.trans further)]

/-- A pause is no shorter than those before it. -/
theorem toNanos_delay_mono (b : Backoff) : Monotone fun failures => (b.delay failures).toNanos := by
  intro fewer more increases
  have doubled : 2 ^ (fewer - 1) ≤ 2 ^ (more - 1) :=
    Nat.pow_le_pow_right (by decide) (Nat.sub_le_sub_right increases 1)
  simp only [toNanos_delay]
  exact min_le_min_right _ (Nat.mul_le_mul_left _ doubled)

/-- No word overflows on the way to the pause after the failure with this number. -/
structure Fits (b : Backoff) (failures : Nat) : Prop where
  /-- The bit that is the factor is shifted within its word. -/
  shift : doublings failures < 32
  factor : (UInt32.ofNat (Nat.pow 2 (doublings failures))).toNat = 2 ^ doublings failures
  /-- The nanoseconds are multiplied in a 64-bit word. -/
  product : b.base.nanos.toNat * 2 ^ doublings failures < UInt64.size
  /-- Where nothing is drawn, the random part can be added. -/
  sum : (b.plainDelay failures).toNanos + Duration.zero.toNanos ≤ Duration.longest.toNanos

theorem fits (b : Backoff) (failures : Nat) : b.Fits failures where
  shift := doublings_lt failures
  factor := toNat_factor failures
  product := by
    have power : 2 ^ doublings failures ≤ 2 ^ 31 :=
      Nat.pow_le_pow_right (by decide) (Nat.le_of_lt_succ (doublings_lt failures))
    have fits : nanosPerSecond * 2 ^ 31 < UInt64.size := by decide
    exact Nat.lt_of_le_of_lt (Nat.mul_le_mul (Nat.le_of_lt b.base.nanos_lt) power) fits
  sum := by
    have none : Duration.zero.toNanos = 0 := rfl
    rw [none, Nat.add_zero]
    exact (b.plainDelay failures).toNanos_le_longest

/-- The pauses of a backoff without a random part. For every base period and every longest pause, up to the longest
span: the pause after the failure with the number `n + 1` is, in exact nanoseconds, the base period doubled `n`
times, or the longest pause or a hundred base periods if one of these is less; before the first failure it is
as after it; no pause is shorter than one before it, and none is longer than the ceiling, nor is the ceiling longer
than the longest pause; and no word overflows on the way, so that every step gives a span. -/
theorem delay_in_exact_nanos (base max : Duration) :
    let b : Backoff := { base, max }
    (∀ n, (b.delay (n + 1)).toNanos =
      min (base.toNanos * 2 ^ n) (min max.toNanos (100 * base.toNanos))) ∧
    b.delay 0 = b.delay 1 ∧
    (Monotone fun n => (b.delay n).toNanos) ∧
    (∀ n, (b.delay n).toNanos ≤ b.ceiling.toNanos) ∧
    b.ceiling.toNanos ≤ max.toNanos ∧
    ∀ n, b.Fits n := by
  intro b
  refine ⟨fun n => ?_, rfl, b.toNanos_delay_mono, fun n => ?_, ?_, b.fits⟩
  · rw [toNanos_delay, Nat.add_sub_cancel]
  · rw [toNanos_delay, toNanos_ceiling]
    exact Nat.min_le_right _ _
  · rw [toNanos_ceiling]
    exact Nat.min_le_left _ _

/-- Nanoseconds carry into seconds up to the longest span, and only what is beyond it is cut off. -/
example :
    let b : Backoff := { base := ⟨0x3fffffffffffffff, 999999999, by decide⟩, max := .longest }
    b.delay 2 = ⟨0x7fffffffffffffff, 999999998, by decide⟩ ∧
      b.delay 3 = ⟨0xffffffffffffffff, 999999996, by decide⟩ ∧ b.delay 4 = .longest := by
  decide

/-- The first pauses, one for each failure. -/
def schedule (b : Backoff) (n : Nat) : List Duration := (List.range n).map fun k => b.delay (k + 1)

theorem schedule_succ (b : Backoff) (n : Nat) : b.schedule (n + 1) = b.schedule n ++ [b.delay (n + 1)] := by
  simp [schedule, List.range_succ]

end Backoff

end Courier
