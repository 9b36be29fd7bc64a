import Mathlib.Algebra.Order.Ring.Nat
import Mathlib.Tactic.Linarith
import WatchHub.Number.Binary64

/-!
# Rounding

Quotients rounded to naturals, and ratios rounded to magnitudes with 53 significant bits. Rounding leaves
alone what can be represented and keeps on either side of it (`Binary64.roundSteps_le`,
`Binary64.le_roundSteps`), its result can be represented (`Binary64.representable_roundSteps`), and it is
off by half a unit of the last place at most (`Binary64.roundSteps_error`).
-/

namespace WatchHub.Binary64

variable {num num' den q n k e : Nat} {s : Bool}

/-! ### Quotients -/

/-- A quotient is rounded down if its rest is at most half of the denominator, and up if it is at least
half. -/
lemma roundDiv_cases (num den : Nat) :
    (roundDiv num den = num / den ∧ 2 * (num % den) ≤ den) ∨
      (roundDiv num den = num / den + 1 ∧ den ≤ 2 * (num % den)) := by
  simp only [roundDiv]
  split_ifs <;> omega

/-- A rounded quotient is off by half at most. -/
lemma roundDiv_error (hden : 0 < den) (num : Nat) :
    2 * num ≤ 2 * (roundDiv num den * den) + den ∧ 2 * (roundDiv num den * den) ≤ 2 * num + den := by
  have hdiv := Nat.div_add_mod' num den
  have hmod := Nat.mod_lt num hden
  rcases roundDiv_cases num den with ⟨hround, hrest⟩ | ⟨hround, hrest⟩ <;> rw [hround]
  · omega
  · rw [Nat.succ_mul (num / den) den]
    omega

/-- What is less than half above a number is not rounded beyond it. -/
lemma roundDiv_le (hden : 0 < den) (h : 2 * num < 2 * (q * den) + den) : roundDiv num den ≤ q := by
  by_contra hlt
  have hq := Nat.mul_le_mul_right den (Nat.lt_of_not_le hlt)
  have hlow := (roundDiv_error hden num).2
  rw [Nat.succ_mul q den] at hq
  omega

/-- What is less than half below a number is rounded to it at least. -/
lemma le_roundDiv (hden : 0 < den) (h : 2 * (q * den) < 2 * num + den) : q ≤ roundDiv num den := by
  by_contra hlt
  have hq := Nat.mul_le_mul_right den (Nat.lt_of_not_le hlt)
  have hhigh := (roundDiv_error hden num).1
  rw [Nat.succ_mul (roundDiv num den) den] at hq
  omega

lemma roundDiv_mono (hden : 0 < den) (h : num ≤ num') : roundDiv num den ≤ roundDiv num' den := by
  by_contra hlt
  have hstep := Nat.mul_le_mul_right den (Nat.lt_of_not_le hlt)
  have hlow := (roundDiv_error hden num).2
  have hhigh := (roundDiv_error hden num').1
  rw [Nat.succ_mul (roundDiv num' den) den] at hstep
  -- Both would have to lie halfway between two neighbours, and so be the same.
  obtain rfl : num = num' := by omega
  exact hlt le_rfl

lemma roundDiv_mul_mul (hk : 0 < k) : roundDiv (num * k) (den * k) = roundDiv num den := by
  simp only [roundDiv, Nat.mul_div_mul_right _ _ hk, Nat.mul_mod_mul_right, ← Nat.mul_assoc,
    Nat.mul_lt_mul_right hk]

/-! ### The unit of the last place -/

lemma lt_pow_excess (n : Nat) : n < 2 ^ (53 + excess n) := by
  have hpow : 2 ^ (n.log2 + 1) ≤ 2 ^ (53 + excess n) :=
    Nat.pow_le_pow_right (by decide) (by unfold excess; omega)
  exact Nat.lt_log2_self.trans_le hpow

lemma excess_le (h : n < 2 ^ (53 + e)) : excess n ≤ e := by
  rcases Nat.eq_zero_or_pos n with rfl | hn
  · exact Nat.zero_le e
  · have := (Nat.log2_lt hn.ne').2 h
    unfold excess
    omega

lemma le_excess (h : 2 ^ (52 + e) ≤ n) : e ≤ excess n := by
  have hn : n ≠ 0 := by
    have := Nat.two_pow_pos (52 + e)
    omega
  have := (Nat.le_log2 hn).2 h
  unfold excess
  omega

lemma pow_excess_le (h : 0 < excess n) : 2 ^ (52 + excess n) ≤ n := by
  unfold excess at h ⊢
  have hn : n ≠ 0 := by
    rintro rfl
    exact absurd h (by decide)
  exact (Nat.le_log2 hn).1 (by omega)

lemma excess_mono (h : n ≤ k) : excess n ≤ excess k :=
  excess_le (h.trans_lt (lt_pow_excess k))

/-- A unit is the smallest step, or 52 binary places below the number. -/
lemma unit_le (n : Nat) : 2 ^ 52 * 2 ^ excess n ≤ n + 2 ^ 52 := by
  rcases Nat.eq_zero_or_pos (excess n) with hzero | hpos
  · rw [hzero]
    omega
  · have := pow_excess_le hpos
    rw [Nat.pow_add] at this
    omega

/-! ### Numbers that can be represented -/

/-- A magnitude with at most 53 significant bits. -/
def Representable (n : Nat) : Prop :=
  2 ^ excess n ∣ n

/-- A multiple of a power of two can be represented, if there are at most 53 bits above that power. -/
lemma representable_mul_pow (hk : k ≤ 2 ^ 53) (e : Nat) : Representable (k * 2 ^ e) := by
  rcases hk.lt_or_eq with hlt | rfl
  · have hexcess : excess (k * 2 ^ e) ≤ e := by
      apply excess_le
      rw [Nat.pow_add]
      exact Nat.mul_lt_mul_of_pos_right hlt (Nat.two_pow_pos e)
    exact (Nat.pow_dvd_pow 2 hexcess).trans (Nat.dvd_mul_left ..)
  · have hexcess : excess (2 ^ 53 * 2 ^ e) ≤ e + 1 := by
      apply excess_le
      rw [← Nat.pow_add]
      exact Nat.pow_lt_pow_right (by decide) (by omega)
    unfold Representable
    rw [← Nat.pow_add] at hexcess ⊢
    exact Nat.pow_dvd_pow 2 (by omega)

/-- The number a unit above has no more places. -/
lemma Representable.add_unit_le (hn : Representable n) : n + 2 ^ excess n ≤ 2 ^ (53 + excess n) := by
  obtain ⟨k, hk⟩ := hn
  have hlt := lt_pow_excess n
  rw [Nat.pow_add, Nat.mul_comm (2 ^ 53)] at hlt ⊢
  have hk' : k < 2 ^ 53 := Nat.lt_of_mul_lt_mul_left (a := 2 ^ excess n) (by rwa [← hk])
  have hnext := Nat.mul_le_mul_left (2 ^ excess n) (Nat.succ_le_of_lt hk')
  rwa [Nat.mul_succ, ← hk] at hnext

/-- Below a power of two a magnitude stays below by a unit at least. -/
lemma Representable.le_pred (hn : Representable n) (h : n < 2 ^ 53 * 2 ^ e) :
    n ≤ (2 ^ 53 - 1) * 2 ^ e := by
  by_contra hlt
  have hpos := Nat.two_pow_pos e
  have hexcess : e ≤ excess n := by
    apply le_excess
    rw [Nat.pow_add]
    omega
  obtain ⟨k, rfl⟩ := (Nat.pow_dvd_pow 2 hexcess).trans hn
  rw [Nat.mul_comm] at h hlt
  have hk : k < 2 ^ 53 := Nat.lt_of_mul_lt_mul_right h
  exact hlt (Nat.mul_le_mul_right _ (by omega))

/-! ### Ratios -/

lemma roundSteps_eq (num den : Nat) :
    roundSteps num den =
      roundDiv num (den * 2 ^ excess (num / den)) * 2 ^ excess (num / den) :=
  rfl

/-- A rounded ratio is off by half a unit of the last place at most. -/
lemma roundSteps_error (hden : 0 < den) (num : Nat) :
    2 * num ≤ 2 * (roundSteps num den * den) + 2 ^ excess (num / den) * den ∧
      2 * (roundSteps num den * den) ≤ 2 * num + 2 ^ excess (num / den) * den := by
  have hunit := Nat.mul_pos hden (Nat.two_pow_pos (excess (num / den)))
  have herror := roundDiv_error hunit num
  have hassoc : roundDiv num (den * 2 ^ excess (num / den)) * (den * 2 ^ excess (num / den)) =
      roundSteps num den * den := by
    rw [roundSteps_eq, Nat.mul_assoc, Nat.mul_comm den]
  rwa [hassoc, Nat.mul_comm den] at herror

/-- A rounded ratio can be represented. -/
lemma representable_roundSteps (hden : 0 < den) : Representable (roundSteps num den) := by
  rw [roundSteps_eq]
  have hunit := Nat.mul_pos hden (Nat.two_pow_pos (excess (num / den)))
  refine representable_mul_pow (roundDiv_le hunit ?_) _
  have hlt := (Nat.div_lt_iff_lt_mul hden).1 (lt_pow_excess (num / den))
  rw [Nat.pow_add, Nat.mul_assoc, Nat.mul_comm _ den] at hlt
  omega

/-- A ratio that is less than half a unit above a number that can be represented is not rounded beyond
it. -/
lemma roundSteps_le (hden : 0 < den) (hn : Representable n)
    (h : 2 * num < 2 * (n * den) + 2 ^ excess n * den) : roundSteps num den ≤ n := by
  have hexcess : excess (num / den) ≤ excess n := by
    have hnext := Nat.mul_le_mul_right den hn.add_unit_le
    rw [Nat.add_mul] at hnext
    exact excess_le ((Nat.div_lt_iff_lt_mul hden).2 (by omega))
  obtain ⟨k, hk⟩ := (Nat.pow_dvd_pow 2 hexcess).trans hn
  have hunit := Nat.mul_pos hden (Nat.two_pow_pos (excess (num / den)))
  have hscale : k * (den * 2 ^ excess (num / den)) = n * den := by
    rw [hk, Nat.mul_comm den, ← Nat.mul_assoc, Nat.mul_comm k]
  rw [roundSteps_eq]
  refine (Nat.mul_le_mul_right _ (roundDiv_le (q := k) hunit ?_)).trans (by rw [hk, Nat.mul_comm])
  rw [hscale, Nat.mul_comm den]
  rcases hexcess.lt_or_eq with hless | heq
  · -- The ratio has fewer places than the number, so it lies below.
    have hpow : 2 ^ (53 + excess (num / den)) ≤ n :=
      (Nat.pow_le_pow_right (by decide) (by omega)).trans (pow_excess_le (Nat.zero_lt_of_lt hless))
    have hlt := (Nat.div_lt_iff_lt_mul hden).1 (lt_pow_excess (num / den))
    have := Nat.mul_le_mul_right den hpow
    omega
  · rwa [heq]

/-- A ratio that is not below a number that can be represented is not rounded below it. -/
lemma le_roundSteps (hden : 0 < den) (hn : Representable n) (h : n * den ≤ num) :
    n ≤ roundSteps num den := by
  have hunit := Nat.mul_pos hden (Nat.two_pow_pos (excess (num / den)))
  have hle : n ≤ num / den := (Nat.le_div_iff_mul_le hden).2 h
  rw [roundSteps_eq]
  rcases (excess_mono hle).lt_or_eq with hless | heq
  · -- The ratio has more places than the number, and is rounded to a number with as many.
    have hplaces : 2 ^ 52 ≤ roundDiv num (den * 2 ^ excess (num / den)) := by
      have hpow := (Nat.le_div_iff_mul_le hden).1 (pow_excess_le (Nat.zero_lt_of_lt hless))
      refine le_roundDiv hunit ?_
      rw [Nat.pow_add, Nat.mul_assoc, Nat.mul_comm _ den] at hpow
      omega
    have hlt : n < 2 ^ (52 + excess (num / den)) :=
      (lt_pow_excess n).trans_le (Nat.pow_le_pow_right (by decide) (by omega))
    rw [Nat.pow_add] at hlt
    exact hlt.le.trans (Nat.mul_le_mul_right _ hplaces)
  · obtain ⟨k, hk⟩ := hn
    rw [heq, Nat.mul_comm] at hk
    have hscale : k * (den * 2 ^ excess (num / den)) = n * den := by
      rw [hk, Nat.mul_comm den, ← Nat.mul_assoc]
    rw [hk]
    refine Nat.mul_le_mul_right _ (le_roundDiv hunit ?_)
    rw [hscale]
    omega

/-- What can be represented is left alone. -/
lemma roundSteps_of_representable (hden : 0 < den) (hn : Representable n) :
    roundSteps (n * den) den = n := by
  refine Nat.le_antisymm (roundSteps_le hden hn ?_) (le_roundSteps hden hn le_rfl)
  have := Nat.mul_pos (Nat.two_pow_pos (excess n)) hden
  omega

/-! ### Steps -/

lemma exists_one_eq : ∃ e, one = 2 ^ (53 + e) := by
  have hplaces : 1074 = 53 + 1021 := rfl
  unfold one
  rw [hplaces]
  generalize 1021 = e
  exact ⟨e, rfl⟩

lemma one_pos : 0 < one := by
  obtain ⟨e, he⟩ := exists_one_eq
  rw [he]
  exact Nat.two_pow_pos _

/-- A whole number with at most 53 significant bits can be represented. -/
lemma representable_mul_one (hk : k ≤ 2 ^ 53) (e : Nat) : Representable (k * 2 ^ e * one) := by
  obtain ⟨e', he'⟩ := exists_one_eq
  rw [he', Nat.mul_assoc, ← Nat.pow_add]
  exact representable_mul_pow hk _

/-- Below 2^k a unit of the last place is 53 binary places below 2^k at most. -/
lemma unit_le_of_lt (h : n < 2 ^ k * one) : 2 ^ 53 * 2 ^ excess n ≤ 2 ^ k * one := by
  obtain ⟨e, he⟩ := exists_one_eq
  have hplaces : 2 ^ k * one = 2 ^ (53 + (k + e)) := by
    rw [he, ← Nat.pow_add, Nat.add_left_comm]
  rw [hplaces] at h ⊢
  rw [Nat.pow_add]
  exact Nat.mul_le_mul_left _ (Nat.pow_le_pow_right (Nat.zero_lt_two) (excess_le h))

/-- From 52 binary places above 2^k on a unit of the last place is 2^k at least. -/
lemma le_unit (h : 2 ^ 52 * (2 ^ k * one) ≤ n) : 2 ^ k * one ≤ 2 ^ excess n := by
  obtain ⟨e, he⟩ := exists_one_eq
  rw [he, ← Nat.pow_add] at h ⊢
  rw [← Nat.pow_add] at h
  exact Nat.pow_le_pow_right Nat.zero_lt_two (le_excess h)

/-- What is rounded to 2^64 at most is finite. -/
lemma ofSteps_eq (h : roundSteps num den ≤ 2 ^ 64 * one) :
    ofSteps s num den = .finite s (roundSteps num den) := by
  have hlarge : 64 < 1024 := by decide
  unfold ofSteps
  generalize 1024 = e at hlarge ⊢
  have hpow : 2 ^ 64 < Nat.pow 2 e := Nat.pow_lt_pow_right (by decide) hlarge
  exact if_pos (h.trans_lt (Nat.mul_lt_mul_of_pos_right hpow one_pos))

/-- A whole number up to 2^64 that can be represented is exact. -/
lemma ofNat_eq (hn : Representable (n * one)) (h : n ≤ 2 ^ 64) :
    ofNat n = .finite false (n * one) := by
  have hround := roundSteps_of_representable Nat.one_pos hn
  rw [Nat.mul_one] at hround
  rw [ofNat, ofRatio, ofSteps_eq, hround]
  rw [hround]
  exact Nat.mul_le_mul_right one h

lemma representable_of_ofSteps (hden : 0 < den) {t : Bool} (h : ofSteps s num den = .finite t n) :
    Representable n := by
  simp only [ofSteps] at h
  split at h
  · cases h
    exact representable_roundSteps hden
  · cases h

/-- A finite product can be represented. -/
lemma representable_of_mul {a b : Binary64} (h : mul a b = .finite s n) : Representable n := by
  cases a <;> cases b <;> simp only [mul] at h
  case finite.finite => exact representable_of_ofSteps one_pos h
  all_goals first | (split at h <;> cases h) | cases h

lemma powFrom_zero (result base : Binary64) (fuel : Nat) : powFrom result base (fuel + 1) 0 = result :=
  rfl

/-- A number that is not too large is left alone by the factor one. -/
lemma mul_one_eq (hn : Representable n) (h : n ≤ 2 ^ 64 * one) :
    mul (.finite s n) (ofNat 1) = .finite s n := by
  have hrep : Representable (1 * one) := by
    simpa using representable_mul_one (k := 1) (by decide) 0
  have hone := ofNat_eq hrep (by decide)
  rw [Nat.one_mul] at hone
  have hround := roundSteps_of_representable one_pos hn
  rw [hone, mul, Bool.bne_false, ofSteps_eq, hround]
  rwa [hround]

end WatchHub.Binary64
