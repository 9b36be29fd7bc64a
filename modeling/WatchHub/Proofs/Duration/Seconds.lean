import Mathlib.Tactic.Ring
import WatchHub.Duration.Seconds
import WatchHub.Proofs.Number.Rounding

/-!
# Durations as seconds and back

A duration as a number of seconds, and the duration nearest to a number of seconds. A duration of less
than 2^23 seconds comes back as it was (`Duration.nearestNanos_steps`); longer ones may come back longer,
by one part in 2^52 and a nanosecond at most (`Duration.nearestNanos_steps_le`), and those of 2^64 - 1024
seconds or more become 2^64 seconds, which no duration holds (`Duration.steps_eq_limit_iff`).
-/

namespace WatchHub

open Binary64

namespace Duration

variable {d d' : Duration} {n m : Nat} {s : Bool} {f : SecondsFault}

/-- The whole seconds, rounded, in steps. -/
def wholeSteps (d : Duration) : Nat :=
  roundSteps (d.secs * one) 1

/-- The fraction of a second, rounded, in steps. -/
def fractionSteps (d : Duration) : Nat :=
  roundSteps (d.nanos * one) 1000000000

/-- The length in seconds, rounded once more, in steps. -/
def steps (d : Duration) : Nat :=
  roundSteps (d.wholeSteps + d.fractionSteps) 1

/-- The nanoseconds nearest to a number of steps. -/
def nearestNanos (steps : Nat) : Nat :=
  roundDiv (steps * 1000000000) one

/-! ### Lengths -/

lemma size_eq : UInt64.size = 2 ^ 64 := by
  norm_num [UInt64.size]

lemma secs_lt_pow (d : Duration) : d.secs < 2 ^ 64 :=
  size_eq ▸ d.secs_lt

lemma totalNanos_lt (d : Duration) : d.totalNanos < 2 ^ 64 * 1000000000 := by
  have hsecs := d.secs_lt_pow
  have hnanos := d.nanos_lt
  unfold totalNanos
  omega

lemma eq_of_totalNanos (h : d.totalNanos = d'.totalNanos) : d = d' := by
  obtain ⟨secs, nanos, _, hnanos⟩ := d
  obtain ⟨secs', nanos', _, hnanos'⟩ := d'
  simp only [totalNanos] at h
  have hsecs : secs = secs' := by omega
  subst hsecs
  have hrest : nanos = nanos' := by omega
  subst hrest
  rfl

lemma ofNanos?_eq_some_iff : ofNanos? n = some d ↔ d.totalNanos = n := by
  unfold ofNanos?
  constructor
  · intro h
    split at h <;> cases h
    exact Nat.div_add_mod' n 1000000000
  · rintro rfl
    have hlt := d.totalNanos_lt
    have hsecs : d.totalNanos / 1000000000 < UInt64.size := by
      rw [size_eq]
      omega
    rw [dif_pos hsecs]
    refine congrArg some (eq_of_totalNanos ?_)
    exact Nat.div_add_mod' ..

lemma ofNanos?_eq_none_iff : ofNanos? n = none ↔ 2 ^ 64 * 1000000000 ≤ n := by
  unfold ofNanos?
  split <;> rename_i h <;> rw [size_eq] at h
  · simp only [reduceCtorEq, false_iff]
    omega
  · simp only [true_iff]
    omega

/-! ### From seconds -/

/-- A number that is not negative is made the duration nearest to it. -/
lemma ofSeconds_finite (h : s = true → n = 0) :
    ofSeconds (.finite s n) = (ofNanos? (nearestNanos n)).elim (.error .outOfRange) .ok := by
  have hsign : (s && n != 0) = false := by
    cases s with
    | false => rfl
    | true => simp [h rfl]
  simp only [ofSeconds, nearestNanos, hsign, Bool.false_eq_true, if_false]
  generalize roundDiv (n * 1000000000) one = nanos
  cases ofNanos? nanos <;> rfl

lemma ofSeconds_eq_ok_iff (h : s = true → n = 0) :
    ofSeconds (.finite s n) = .ok d ↔ d.totalNanos = nearestNanos n := by
  rw [ofSeconds_finite h, ← ofNanos?_eq_some_iff]
  cases ofNanos? (nearestNanos n) <;> simp

lemma ofSeconds_eq_error_iff (h : s = true → n = 0) :
    ofSeconds (.finite s n) = .error f ↔ f = .outOfRange ∧ 2 ^ 64 * 1000000000 ≤ nearestNanos n := by
  rw [ofSeconds_finite h, ← ofNanos?_eq_none_iff]
  cases ofNanos? (nearestNanos n) <;> simp [eq_comm]

lemma nearestNanos_mono (h : n ≤ m) : nearestNanos n ≤ nearestNanos m := by
  unfold nearestNanos
  exact roundDiv_mono Binary64.one_pos (Nat.mul_le_mul_right _ h)

/-- Only numbers from 2^64 on are too large for a duration. -/
lemma le_nearestNanos_iff (hn : Representable n) :
    2 ^ 64 * 1000000000 ≤ nearestNanos n ↔ 2 ^ 64 * one ≤ n := by
  have hone := Binary64.one_pos
  unfold nearestNanos
  constructor
  · intro h
    by_contra hlt
    obtain ⟨e, he⟩ := exists_one_eq
    have hpred : n ≤ (2 ^ 53 - 1) * 2 ^ (11 + (53 + e)) := by
      refine hn.le_pred ?_
      rw [Nat.pow_add, ← he]
      omega
    rw [Nat.pow_add, ← he] at hpred
    have hround : roundDiv (n * 1000000000) one ≤ (2 ^ 64 - 2 ^ 11) * 1000000000 := by
      refine roundDiv_le hone ?_
      omega
    omega
  · intro h
    refine le_roundDiv hone ?_
    omega

/-! ### To seconds -/

lemma representable_limit : Representable (2 ^ 64 * one) := by
  have := representable_mul_one (k := 1) (by decide) 64
  rwa [Nat.one_mul] at this

/-- The largest number below 2^64 that can be represented is 2048 less. -/
lemma representable_below_limit : Representable ((2 ^ 53 - 1) * 2 ^ 11 * one) :=
  representable_mul_one (Nat.sub_le ..) 11

/-- Below 2^53 the whole seconds are not rounded. -/
lemma wholeSteps_eq (h : d.secs < 2 ^ 53) : d.wholeSteps = d.secs * one := by
  have hrep := representable_mul_one h.le 0
  rw [Nat.pow_zero, Nat.mul_one] at hrep
  have := roundSteps_of_representable Nat.one_pos hrep
  rwa [Nat.mul_one] at this

/-- The whole seconds are off by one part in 2^53 at most. -/
lemma wholeSteps_error (d : Duration) :
    2 ^ 53 * d.wholeSteps ≤ 2 ^ 53 * (d.secs * one) + d.secs * one + 2 ^ 52 := by
  have herror := (roundSteps_error Nat.one_pos (d.secs * one)).2
  have hunit := unit_le (d.secs * one)
  rw [Nat.div_one] at herror
  unfold wholeSteps
  omega

lemma wholeSteps_le (d : Duration) : d.wholeSteps ≤ 2 ^ 64 * one := by
  have hunit := le_unit (k := 12) (n := 2 ^ 64 * one) (by omega)
  have hone := Binary64.one_pos
  have hsecs := Nat.mul_le_mul_right one d.secs_lt_pow.le
  refine roundSteps_le (by decide) representable_limit ?_
  omega

/-- The fraction is off by one part in 2^54 of a second at most. -/
lemma fractionSteps_error (d : Duration) :
    2 ^ 54 * (d.nanos * one) ≤ 2 ^ 54 * (d.fractionSteps * 1000000000) + one * 1000000000 ∧
      2 ^ 54 * (d.fractionSteps * 1000000000) ≤ 2 ^ 54 * (d.nanos * one) + one * 1000000000 := by
  have herror := roundSteps_error (show 0 < 1000000000 by decide) (d.nanos * one)
  have hless : d.nanos * one / 1000000000 < 2 ^ 0 * one := by
    rw [Nat.div_lt_iff_lt_mul (by decide), Nat.pow_zero, Nat.one_mul, Nat.mul_comm one]
    exact Nat.mul_lt_mul_of_pos_right d.nanos_lt Binary64.one_pos
  have hunit := unit_le_of_lt hless
  unfold fractionSteps
  omega

lemma fractionSteps_lt (d : Duration) : d.fractionSteps < one := by
  have herror := d.fractionSteps_error.2
  have hless : d.nanos ≤ 999999999 := Nat.le_of_lt_succ d.nanos_lt
  have hnanos := Nat.mul_le_mul_right one hless
  have hone := Binary64.one_pos
  omega

lemma steps_le (d : Duration) : d.steps ≤ 2 ^ 64 * one := by
  have hunit := le_unit (k := 12) (n := 2 ^ 64 * one) (by omega)
  have hwhole := d.wholeSteps_le
  have hfraction := d.fractionSteps_lt
  refine roundSteps_le (by decide) representable_limit ?_
  omega

lemma representable_steps (d : Duration) : Representable d.steps :=
  representable_roundSteps (by decide)

lemma seconds_eq (d : Duration) : d.seconds = .finite false d.steps := by
  have hfraction : d.fractionSteps ≤ 2 ^ 64 * one := by
    have := d.fractionSteps_lt
    omega
  have hwhole : Binary64.ofNat d.secs = .finite false d.wholeSteps := by
    rw [ofNat, ofRatio, ofSteps_eq d.wholeSteps_le, wholeSteps]
  have hrest : ofRatio false d.nanos 1000000000 = .finite false d.fractionSteps := by
    rw [ofRatio, ofSteps_eq hfraction, fractionSteps]
  rw [seconds, hwhole, hrest, add, if_pos rfl, ofSteps_eq d.steps_le, steps]

/-- From 2^64 - 1024 seconds on the seconds are rounded to 2^64. -/
lemma wholeSteps_eq_limit (h : 2 ^ 64 - 1024 ≤ d.secs) : d.wholeSteps = 2 ^ 64 * one := by
  have hlt := d.secs_lt_pow
  obtain ⟨e, he⟩ := exists_one_eq
  have hunit : 2 ^ (11 + (53 + e)) = 2 ^ 11 * one := by
    rw [pow_add, ← he]
  have hexcess : excess (d.secs * one / 1) = 11 + (53 + e) := by
    have hhigh := Nat.mul_lt_mul_of_pos_right hlt Binary64.one_pos
    have hlow := Nat.mul_le_mul_right one h
    refine Nat.le_antisymm (excess_le ?_) (le_excess ?_) <;> rw [Nat.div_one, pow_add, hunit] <;> omega
  have hquot : d.secs / 2 ^ 11 = 2 ^ 53 - 1 := by omega
  have hodd : ¬ (2 ^ 53 - 1) % 2 = 0 := by decide
  -- Half of the way is rounded up, as the number below is odd.
  have hround : roundDiv d.secs (2 ^ 11) = 2 ^ 53 := by
    simp only [roundDiv, hquot]
    rw [if_neg (by omega), if_neg hodd, ite_self, Nat.sub_add_cancel (Nat.two_pow_pos 53)]
  rw [wholeSteps, roundSteps_eq, hexcess, hunit, Nat.one_mul, roundDiv_mul_mul Binary64.one_pos, hround]
  omega

/-- The seconds of a duration are rounded to 2^64 if at most 1024 whole seconds are missing. -/
lemma steps_eq_limit_iff : d.steps = 2 ^ 64 * one ↔ 2 ^ 64 - 1024 ≤ d.secs := by
  have hone := Binary64.one_pos
  have hfraction := d.fractionSteps_lt
  constructor
  · intro h
    by_contra hlt
    have hunit := le_unit (k := 11) (n := (2 ^ 53 - 1) * 2 ^ 11 * one) (by omega)
    have hwhole : d.wholeSteps ≤ (2 ^ 53 - 1) * 2 ^ 11 * one := by
      have hsecs : d.secs * one ≤ (2 ^ 64 - 1025) * one := Nat.mul_le_mul_right one (by omega)
      refine roundSteps_le (by decide) representable_below_limit ?_
      omega
    have hsteps : d.steps ≤ (2 ^ 53 - 1) * 2 ^ 11 * one := by
      refine roundSteps_le (by decide) representable_below_limit ?_
      omega
    omega
  · intro h
    refine Nat.le_antisymm d.steps_le (le_roundSteps (by decide) representable_limit ?_)
    have := wholeSteps_eq_limit h
    omega

/-! ### There and back -/

lemma totalNanos_mul_one (d : Duration) :
    d.totalNanos * one = d.secs * one * 1000000000 + d.nanos * one := by
  unfold totalNanos
  ring

/-- Below 2^23 seconds a duration comes back as it was. -/
lemma nearestNanos_steps (h : d.secs < 2 ^ 23) : nearestNanos d.steps = d.totalNanos := by
  have hone := Binary64.one_pos
  have hlength := d.totalNanos_mul_one
  have hwhole := wholeSteps_eq (h.trans (by decide))
  have hfraction := d.fractionSteps_error
  have hless : d.wholeSteps + d.fractionSteps < 2 ^ 23 * one := by
    have hsecs : d.secs * one ≤ (2 ^ 23 - 1) * one := Nat.mul_le_mul_right one (by omega)
    have := d.fractionSteps_lt
    omega
  have hunit := unit_le_of_lt hless
  have herror := roundSteps_error Nat.one_pos (d.wholeSteps + d.fractionSteps)
  rw [Nat.div_one, Nat.mul_one, Nat.mul_one] at herror
  have hsteps : d.steps = roundSteps (d.wholeSteps + d.fractionSteps) 1 := rfl
  unfold nearestNanos
  -- The fraction and the sum are off by less than half a nanosecond together.
  refine Nat.le_antisymm (roundDiv_le hone ?_) (le_roundDiv hone ?_)
  · omega
  · omega

/-- A duration that comes back longer does so by one part in 2^52 and a nanosecond at most. -/
lemma nearestNanos_steps_le (d : Duration) :
    nearestNanos d.steps ≤ d.totalNanos + d.totalNanos / 2 ^ 52 + 1 := by
  have hone : 2 ^ 53 ≤ one := by
    obtain ⟨e, he⟩ := exists_one_eq
    rw [he]
    exact Nat.pow_le_pow_right Nat.zero_lt_two (Nat.le_add_right 53 e)
  have hlength := d.totalNanos_mul_one
  have hsecs : d.secs * one ≤ 2 ^ 64 * one := Nat.mul_le_mul_right one d.secs_lt_pow.le
  have hwhole := d.wholeSteps_error
  have hfraction := d.fractionSteps_error.2
  have hless := d.fractionSteps_lt
  have hunit := unit_le (d.wholeSteps + d.fractionSteps)
  have herror := (roundSteps_error Nat.one_pos (d.wholeSteps + d.fractionSteps)).2
  rw [Nat.div_one, Nat.mul_one, Nat.mul_one] at herror
  have hsteps : d.steps = roundSteps (d.wholeSteps + d.fractionSteps) 1 := rfl
  have hround : 2 * (nearestNanos d.steps * one) ≤ 2 * (d.steps * 1000000000) + one :=
    (roundDiv_error Binary64.one_pos (d.steps * 1000000000)).2
  -- What is left of the roundings below the last place is less than half a nanosecond.
  have hsum : (2 ^ 52 * nearestNanos d.steps) * one <
      (2 ^ 52 * d.totalNanos + d.totalNanos + 2 ^ 52) * one := by
    rw [Nat.add_mul, Nat.add_mul, Nat.mul_assoc, Nat.mul_assoc, hlength]
    omega
  have := Nat.lt_of_mul_lt_mul_right hsum
  omega

end Duration

end WatchHub
