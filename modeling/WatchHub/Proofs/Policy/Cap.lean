import WatchHub.Policy.Retry
import WatchHub.Proofs.Duration.Seconds

/-!
# The cap of a retry policy

A delay is compared with the cap in seconds, where both are rounded, and is then made a duration. Every
delay keeps to a cap that comes back from seconds no longer than it was, as caps of less than 2^23
seconds do. A longer cap may be exceeded, by one part in 2^52 and a nanosecond at most, and there is no
delay at all where the rounded cap is 2^64 seconds and the delay meets it.
-/

namespace WatchHub

open Binary64

namespace Duration

/-- The longest duration. -/
def longest : Duration := ⟨18446744073709551615, 999999999, by decide, by decide⟩

/-- The longest duration does not come back from seconds. -/
lemma ofSeconds_longest : ofSeconds longest.seconds = .error .outOfRange := by
  decide +kernel

/-! ### Milliseconds -/

lemma totalNanos_ofMillis (ms : UInt64) : (ofMillis ms).totalNanos = ms.toNat * 1000000 := by
  simp only [totalNanos, ofMillis]
  omega

lemma millis_mul_le (d : Duration) : d.millis * 1000000 ≤ d.totalNanos := by
  unfold millis totalNanos
  omega

end Duration

/-! ### Jitter -/

namespace Jitter

lemma within_le (bound draw : Nat) : within bound draw ≤ bound :=
  Nat.le_of_lt_succ (Nat.mod_lt _ (Nat.succ_pos bound))

/-- Whole milliseconds of a delay are not longer than the delay. -/
lemma ofMillis_le {n : Nat} {delay : Duration} (h : n ≤ delay.millis) :
    (Duration.ofMillis n.toUInt64).totalNanos ≤ delay.totalNanos := by
  have hword : n.toUInt64.toNat ≤ n := by
    rw [Nat.toUInt64, UInt64.toNat_ofNat']
    exact Nat.mod_le ..
  rw [Duration.totalNanos_ofMillis]
  exact (Nat.mul_le_mul_right 1000000 (hword.trans h)).trans delay.millis_mul_le

/-- Jitter makes no delay longer. -/
lemma apply_le (j : Jitter) (draw : Nat) (delay : Duration) :
    (j.apply draw delay).totalNanos ≤ delay.totalNanos := by
  have hms := Nat.min_le_left delay.millis (UInt64.size - 1)
  unfold apply
  generalize min delay.millis (UInt64.size - 1) = ms at hms
  dsimp only
  split
  · exact le_rfl
  · cases j with
    | none => exact le_rfl
    | full => exact ofMillis_le ((within_le ..).trans hms)
    | equal =>
      have hrest := within_le (ms - ms / 2) draw
      exact ofMillis_le (by omega)

lemma apply_none (draw : Nat) (delay : Duration) : Jitter.none.apply draw delay = delay :=
  ite_self delay

end Jitter

namespace RetryPolicy

variable {p : RetryPolicy} {draw retry : Nat} {d : Duration} {fault : SecondsFault}

/-- Every delay as long as the cap, and without jitter. -/
def atCap (attempts : Nat) (max : Duration) : RetryPolicy :=
  ⟨attempts, max, max, Binary64.ofNat 1, .none⟩

/-! ### One delay -/

/-- A delay before the jitter is the cap itself, or made of a number of seconds that is not above the
rounded cap. -/
lemma base_cases (p : RetryPolicy) (retry : Nat) :
    p.base retry = .ok p.max ∨
      ∃ s n, p.seconds retry = .finite s n ∧ (s = true → n = 0) ∧ Representable n ∧
        n ≤ p.max.steps ∧ p.base retry = Duration.ofSeconds (.finite s n) := by
  unfold base
  cases hseconds : p.seconds retry with
  | nan => exact .inl rfl
  | infinite s => exact .inl rfl
  | finite s n =>
    dsimp only
    split
    · exact .inl rfl
    · rename_i hkept
      simp only [isFinite, isNegative, Duration.seconds_eq, Bool.not_true, Bool.false_or,
        Bool.or_eq_true, Bool.and_eq_true, bne_iff_ne, not_or, not_and, not_not] at hkept
      obtain ⟨hsign, hcap⟩ := hkept
      refine .inr ⟨s, n, rfl, hsign, representable_of_mul hseconds, ?_, rfl⟩
      cases s with
      | false => simpa [lt] using hcap
      | true =>
        rw [hsign rfl]
        exact Nat.zero_le _

/-- A delay fails if it is made of a number of seconds that no duration holds. -/
lemma delay_eq_error_iff :
    p.delay draw retry = .error fault ↔ p.base retry = .error fault := by
  unfold delay
  cases p.base retry <;> simp [Except.map]

lemma delay_eq_ok_iff :
    p.delay draw retry = .ok d ↔ ∃ base, p.base retry = .ok base ∧ p.jitter.apply draw base = d := by
  unfold delay
  cases p.base retry <;> simp [Except.map]

/-- A delay that fails was made of 2^64 seconds, and the rounded cap is as long. -/
lemma base_eq_error_iff :
    p.base retry = .error fault ↔
      fault = .outOfRange ∧ 2 ^ 64 - 1024 ≤ p.max.secs ∧ p.seconds retry = Binary64.ofNat (2 ^ 64) := by
  have hlimit := ofNat_eq Duration.representable_limit le_rfl
  rw [hlimit, ← Duration.steps_eq_limit_iff]
  have hcap := p.max.steps_le
  constructor
  · intro h
    rcases p.base_cases retry with hbase | ⟨s, n, hseconds, hsign, hn, hle, hbase⟩ <;> rw [hbase] at h
    · cases h
    · obtain ⟨rfl, hlarge⟩ := (Duration.ofSeconds_eq_error_iff hsign).1 h
      have heq := Nat.le_antisymm (hle.trans hcap) ((Duration.le_nearestNanos_iff hn).1 hlarge)
      rw [heq] at hle hseconds hsign
      cases s with
      | false => exact ⟨rfl, Nat.le_antisymm hcap hle, hseconds⟩
      | true =>
        have hzero := hsign rfl
        have hone := Binary64.one_pos
        omega
  · rintro ⟨rfl, hmax, hseconds⟩
    have hbase : p.base retry = Duration.ofSeconds (.finite false (2 ^ 64 * one)) := by
      unfold base
      rw [hseconds, Duration.seconds_eq, hmax]
      simp [isFinite, isNegative, lt]
    rw [hbase, Duration.ofSeconds_eq_error_iff (absurd · Bool.false_ne_true)]
    exact ⟨rfl, (Duration.le_nearestNanos_iff Duration.representable_limit).2 le_rfl⟩

/-! ### All delays of a cap -/

/-- A delay is no longer than the cap, or no longer than what the rounded cap comes back as. -/
lemma delay_le (h : p.delay draw retry = .ok d) :
    d.totalNanos ≤ p.max.totalNanos ∨ d.totalNanos ≤ Duration.nearestNanos p.max.steps := by
  obtain ⟨base, hbase, rfl⟩ := delay_eq_ok_iff.1 h
  have hjitter := p.jitter.apply_le draw base
  rcases p.base_cases retry with hcap | ⟨s, n, -, hsign, -, hle, hkept⟩
  · obtain rfl : p.max = base := by simpa [hcap] using hbase
    exact .inl hjitter
  · rw [hkept, Duration.ofSeconds_eq_ok_iff hsign] at hbase
    rw [hbase] at hjitter
    exact .inr (hjitter.trans (Duration.nearestNanos_mono hle))

/-- Where the rounded cap comes back no longer than it was, every delay keeps to the cap. -/
lemma exists_delay_le (h : Duration.nearestNanos p.max.steps ≤ p.max.totalNanos) (draw retry : Nat) :
    ∃ d, p.delay draw retry = .ok d ∧ d.le p.max := by
  cases hdelay : p.delay draw retry with
  | ok d =>
    have hle : d.totalNanos ≤ p.max.totalNanos := (delay_le hdelay).elim id h.trans'
    exact ⟨d, rfl, decide_eq_true hle⟩
  | error fault =>
    obtain ⟨-, hmax, -⟩ := base_eq_error_iff.1 (delay_eq_error_iff.1 hdelay)
    have hlarge := (Duration.le_nearestNanos_iff p.max.representable_steps).2
      (Duration.steps_eq_limit_iff.2 hmax).ge
    exact absurd (hlarge.trans h) (Nat.not_le_of_lt p.max.totalNanos_lt)

/-- A first delay as long as the cap is what the rounded cap comes back as. -/
lemma delay_atCap (attempts : Nat) (max : Duration) (draw : Nat) :
    (atCap attempts max).delay draw 0 = Duration.ofSeconds max.seconds := by
  have hseconds : (atCap attempts max).seconds 0 = max.seconds := by
    have hpow : Binary64.pow (Binary64.ofNat 1) (exponent 0) = Binary64.ofNat 1 := powFrom_zero ..
    rw [seconds, atCap, hpow, Duration.seconds_eq]
    exact mul_one_eq max.representable_steps max.steps_le
  have hbase : (atCap attempts max).base 0 = Duration.ofSeconds max.seconds := by
    unfold base
    rw [hseconds, atCap, Duration.seconds_eq]
    simp [isFinite, isNegative, lt]
  rw [delay, hbase]
  cases Duration.ofSeconds max.seconds with
  | ok d => exact congrArg Except.ok (Jitter.apply_none draw d)
  | error fault => rfl

/-- Every delay keeps to a cap if the cap itself, taken to seconds and back, does, and a cap of less than
2^23 seconds does. A delay beyond the cap is longer by one part in 2^52 and a nanosecond at most. There
is no delay if at most 1024 seconds are missing from the cap's whole seconds to 2^64 and the seconds of
the delay come to 2^64 exactly. -/
theorem capped_of_delay (p : RetryPolicy) (retry : Nat) :
    ((∀ q : RetryPolicy, q.max = p.max → ∀ draw retry, ∃ d, q.delay draw retry = .ok d ∧ d.le q.max) ↔
        ∃ d, Duration.ofSeconds p.max.seconds = .ok d ∧ d.le p.max) ∧
      (p.max.secs < 2 ^ 23 → ∀ draw, ∃ d, p.delay draw retry = .ok d ∧ d.le p.max) ∧
      (∀ draw d, p.delay draw retry = .ok d →
        d.totalNanos ≤ p.max.totalNanos + p.max.totalNanos / 2 ^ 52 + 1) ∧
      (∀ draw fault, p.delay draw retry = .error fault ↔
        fault = .outOfRange ∧ 2 ^ 64 - 1024 ≤ p.max.secs ∧
          p.seconds retry = Binary64.ofNat (2 ^ 64)) := by
  refine ⟨⟨fun h => ?_, ?_⟩, fun h draw => ?_, fun draw d h => ?_, fun draw fault => ?_⟩
  · rw [← delay_atCap 1 p.max 0]
    exact h (atCap 1 p.max) rfl 0 0
  · rintro ⟨d, hback, hle⟩ q hmax draw retry
    rw [Duration.seconds_eq, Duration.ofSeconds_eq_ok_iff (absurd · Bool.false_ne_true)] at hback
    refine exists_delay_le ?_ draw retry
    rw [hmax, ← hback]
    exact of_decide_eq_true hle
  · exact exists_delay_le (Duration.nearestNanos_steps h).le draw retry
  · rcases delay_le h with hle | hle
    · omega
    · exact hle.trans p.max.nearestNanos_steps_le
  · exact delay_eq_error_iff.trans base_eq_error_iff

/-- The standard policy keeps to its five seconds. -/
theorem capped_standard : ∃ d, standard.delay 0 5 = .ok d ∧ d.le standard.max :=
  (capped_of_delay standard 5).2.1 (by decide) 0

/-- A cap of 2^23 seconds and a nanosecond is exceeded by a nanosecond, and there is no delay as long as
the longest duration. -/
theorem beyond_cap :
    (atCap 1 ⟨8388608, 1, by decide, by decide⟩).delay 0 0 = .ok ⟨8388608, 2, by decide, by decide⟩ ∧
      ¬ Duration.le ⟨8388608, 2, by decide, by decide⟩ ⟨8388608, 1, by decide, by decide⟩ ∧
      (atCap 1 .longest).delay 0 0 = .error .outOfRange := by
  decide +kernel

end RetryPolicy

end WatchHub
