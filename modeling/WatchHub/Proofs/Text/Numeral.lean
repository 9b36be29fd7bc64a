import Mathlib.Data.List.Induction
import Mathlib.Tactic.IntervalCases
import WatchHub.Text.Numeral

/-!
# Numerals and their values

A numeral is one or more digits of a base, and its value is made digit by digit from the left
(`Numeral.Spells`). The reader takes exactly the numerals (`Numeral.value?_eq_some_iff`), with a plus sign
in front or not where it reads a word (`Numeral.readWord?_eq_some_iff`). A number is written as one of its
numerals, with or without zeros in front of it (`Numeral.spells_digits`, `Numeral.Spells.padLeft`).
-/

namespace WatchHub.Numeral

/-- The digits as they are written, in the order of their values. -/
def smallDigits : List Char :=
  ['0', '1', '2', '3', '4', '5', '6', '7', '8', '9', 'a', 'b', 'c', 'd', 'e', 'f']

/-- The digits with capital letters. -/
def capitalDigits : List Char :=
  ['0', '1', '2', '3', '4', '5', '6', '7', '8', '9', 'A', 'B', 'C', 'D', 'E', 'F']

/-- A character is the digit of a base that has some value. -/
def IsDigit (base : Nat) (c : Char) (d : Nat) : Prop :=
  d < base ∧ (smallDigits[d]? = some c ∨ capitalDigits[d]? = some c)

/-- The numerals of a base and their values. -/
inductive Spells (base : Nat) : List Char → Nat → Prop where
  | digit {c d} : IsDigit base c d → Spells base [c] d
  | snoc {cs c n d} : Spells base cs n → IsDigit base c d → Spells base (cs ++ [c]) (n * base + d)

/-- The texts of a number that fits a word: a numeral, with a plus sign in front or not. -/
def SpellsWord (base : Nat) (cs : List Char) (n : Nat) : Prop :=
  n < UInt64.size ∧ ∃ ds, Spells base ds n ∧ (cs = ds ∨ cs = '+' :: ds)

variable {base n d acc : Nat} {c : Char} {cs : List Char}

/-! ### Digits -/

lemma smallDigits_eq_some_iff : smallDigits[d]? = some c ↔
    (d < 10 ∧ c.toNat = d + 48) ∨ (10 ≤ d ∧ d < 16 ∧ c.toNat = d + 87) := by
  by_cases hd : d < 16
  · interval_cases d <;> simp [smallDigits, ← Char.toNat_inj, eq_comm]
  · have : smallDigits[d]? = none := List.getElem?_eq_none (Nat.not_lt.1 hd)
    simp only [this, reduceCtorEq, false_iff]
    omega

lemma capitalDigits_eq_some_iff : capitalDigits[d]? = some c ↔
    (d < 10 ∧ c.toNat = d + 48) ∨ (10 ≤ d ∧ d < 16 ∧ c.toNat = d + 55) := by
  by_cases hd : d < 16
  · interval_cases d <;> simp [capitalDigits, ← Char.toNat_inj, eq_comm]
  · have : capitalDigits[d]? = none := List.getElem?_eq_none (Nat.not_lt.1 hd)
    simp only [this, reduceCtorEq, false_iff]
    omega

/-- The reader takes exactly the digits, at their values. -/
lemma digitValue?_eq_some_iff (hbase : base ≤ 16) :
    digitValue? base c = some d ↔ IsDigit base c d := by
  unfold digitValue? IsDigit
  rw [Option.filter_eq_some_iff, smallDigits_eq_some_iff, capitalDigits_eq_some_iff, decide_eq_true_eq]
  split_ifs <;> simp only [Option.some_inj, false_and, false_iff] <;> omega

/-- A digit is no plus sign. -/
lemma IsDigit.ne_plus (h : IsDigit base c d) : c ≠ '+' := by
  rintro rfl
  have hplus : '+'.toNat = 43 := rfl
  obtain ⟨-, h | h⟩ := h
  · rw [smallDigits_eq_some_iff, hplus] at h
    omega
  · rw [capitalDigits_eq_some_iff, hplus] at h
    omega

/-! ### Reading -/

lemma valueFrom?_append (cs' : List Char) :
    valueFrom? base acc (cs ++ cs') = (valueFrom? base acc cs).bind (valueFrom? base · cs') := by
  induction cs generalizing acc with
  | nil => rfl
  | cons c cs ih =>
    simp only [List.cons_append, valueFrom?]
    cases digitValue? base c with
    | none => rfl
    | some d => exact ih

lemma value?_concat (hcs : cs ≠ []) :
    value? base (cs ++ [c]) =
      (value? base cs).bind fun n => (digitValue? base c).map (n * base + ·) := by
  have hlast : ∀ n, valueFrom? base n [c] = (digitValue? base c).map (n * base + ·) := by
    intro n
    unfold valueFrom?
    cases digitValue? base c <;> rfl
  obtain ⟨c', cs, rfl⟩ := List.exists_cons_of_ne_nil hcs
  show valueFrom? base 0 ((c' :: cs) ++ [c]) = (valueFrom? base 0 (c' :: cs)).bind _
  rw [valueFrom?_append]
  exact congrArg _ (funext hlast)

lemma value?_singleton : value? base [c] = digitValue? base c := by
  simp only [value?, valueFrom?]
  cases digitValue? base c <;> simp

lemma Spells.ne_nil (h : Spells base cs n) : cs ≠ [] := by
  cases h <;> simp

/-- The reader takes exactly the numerals, at their values. -/
lemma value?_eq_some_iff (hbase : base ≤ 16) : value? base cs = some n ↔ Spells base cs n := by
  constructor
  · intro h
    induction cs using List.reverseRecOn generalizing n with
    | nil => cases h
    | append_singleton cs c ih =>
      by_cases hcs : cs = []
      · subst hcs
        rw [List.nil_append, value?_singleton, digitValue?_eq_some_iff hbase] at h
        exact .digit h
      · rw [value?_concat hcs, Option.bind_eq_some_iff] at h
        obtain ⟨m, hm, hd⟩ := h
        obtain ⟨d, hdigit, rfl⟩ := Option.map_eq_some_iff.1 hd
        exact .snoc (ih hm) ((digitValue?_eq_some_iff hbase).1 hdigit)
  · intro h
    induction h with
    | digit hd => rwa [value?_singleton, digitValue?_eq_some_iff hbase]
    | snoc hcs hd ih =>
      rw [value?_concat hcs.ne_nil, ih, Option.bind_some, (digitValue?_eq_some_iff hbase).2 hd]
      rfl

/-- A numeral starts with a digit. -/
lemma Spells.head_isDigit (h : Spells base (c :: cs) n) : ∃ d, IsDigit base c d := by
  generalize hcs : c :: cs = ds at h
  induction h generalizing cs with
  | digit hd =>
    cases hcs
    exact ⟨_, hd⟩
  | snoc hds _ ih =>
    obtain ⟨c', ds, rfl⟩ := List.exists_cons_of_ne_nil hds.ne_nil
    cases hcs
    exact ih rfl

lemma Spells.dropPlus_eq (h : Spells base cs n) : dropPlus cs = cs := by
  unfold dropPlus
  split
  · obtain ⟨d, hd⟩ := h.head_isDigit
    exact absurd rfl hd.ne_plus
  · rfl

/-- The reader of words takes exactly their texts. -/
lemma readWord?_eq_some_iff (hbase : base ≤ 16) :
    readWord? base cs = some n ↔ SpellsWord base cs n := by
  unfold readWord?
  rw [Option.filter_eq_some_iff, value?_eq_some_iff hbase, decide_eq_true_eq, and_comm]
  refine and_congr_right fun _ => ⟨fun h => ⟨_, h, ?_⟩, ?_⟩
  · unfold dropPlus
    split
    · exact .inr rfl
    · exact .inl rfl
  · rintro ⟨ds, hds, rfl | rfl⟩
    · rwa [hds.dropPlus_eq]
    · exact hds

/-! ### Writing -/

lemma smallDigits_digitChar (hd : d < 16) : smallDigits[d]? = some d.digitChar := by
  interval_cases d <;> rfl

lemma isDigit_digitChar (hbase : base ≤ 16) (hd : d < base) : IsDigit base d.digitChar d :=
  ⟨hd, .inl (smallDigits_digitChar (hd.trans_le hbase))⟩

/-- The digits of a number are a numeral of it. -/
lemma spells_digitsUp (hpos : 1 < base) (hbase : base ≤ 16) {fuel : Nat} (hfuel : n < fuel) :
    Spells base ((digitsUp base fuel n).reverse.map Nat.digitChar) n := by
  induction fuel generalizing n with
  | zero => cases hfuel
  | succ fuel ih =>
    unfold digitsUp
    split_ifs with hn
    · exact .digit (isDigit_digitChar hbase hn)
    · have hless : n / base < n := Nat.div_lt_self (by omega) hpos
      rw [List.reverse_cons, List.map_append]
      have hdigits := Spells.snoc (ih (n := n / base) (by omega))
        (isDigit_digitChar hbase (Nat.mod_lt n (Nat.zero_lt_of_lt hpos)))
      rwa [Nat.div_add_mod'] at hdigits

lemma spells_digits (hpos : 1 < base) (hbase : base ≤ 16) : Spells base (digits base n) n :=
  spells_digitsUp hpos hbase (Nat.lt_succ_self n)

/-- A zero in front of a numeral does not change its value. -/
lemma Spells.cons_zero (h : Spells base cs n) : Spells base ('0' :: cs) n := by
  induction h with
  | @digit c d hd =>
    have hzero : IsDigit base '0' 0 := ⟨Nat.zero_lt_of_lt hd.1, .inl rfl⟩
    simpa using Spells.snoc (.digit hzero) hd
  | snoc _ hd ih => exact .snoc ih hd

lemma Spells.padLeft (h : Spells base cs n) (width : Nat) : Spells base (padLeft width cs) n := by
  unfold Numeral.padLeft
  induction width - cs.length with
  | zero => exact h
  | succ k ih => exact ih.cons_zero

/-- A number below a power of the base has no more digits than the exponent says. -/
lemma length_digitsUp_le {fuel k : Nat} (hk : 0 < k) (hn : n < base ^ k) :
    (digitsUp base fuel n).length ≤ k := by
  induction fuel generalizing n k with
  | zero => exact Nat.zero_le k
  | succ fuel ih =>
    unfold digitsUp
    split_ifs with hsmall
    · exact hk
    · -- There is more than one digit, so the number is not below the base.
      obtain ⟨k, rfl⟩ := Nat.exists_eq_succ_of_ne_zero hk.ne'
      have hk : 0 < k := by
        refine Nat.pos_of_ne_zero ?_
        rintro rfl
        exact hsmall (by simpa using hn)
      rw [List.length_cons]
      exact Nat.succ_le_succ (ih hk (Nat.div_lt_of_lt_mul (by rwa [Nat.pow_succ'] at hn)))

lemma length_hex {width : Nat} (hwidth : 0 < width) (hn : n < 16 ^ width) :
    (hex width n).length = width := by
  have hle : (digitsUp 16 (n + 1) n).length ≤ width := length_digitsUp_le hwidth hn
  simp only [hex, padLeft, digits, List.length_append, List.length_replicate, List.length_map,
    List.length_reverse]
  omega

lemma lt_of_mem_digitsUp (hpos : 0 < base) {fuel : Nat} (hd : d ∈ digitsUp base fuel n) :
    d < base := by
  induction fuel generalizing n with
  | zero => cases hd
  | succ fuel ih =>
    unfold digitsUp at hd
    split_ifs at hd with hn
    · cases List.mem_singleton.1 hd
      exact hn
    · rcases List.mem_cons.1 hd with rfl | hd
      · exact Nat.mod_lt n hpos
      · exact ih hd

/-- What is written in hexadecimal are digits with small letters. -/
lemma mem_smallDigits_of_hex {width : Nat} (hc : c ∈ hex width n) : c ∈ smallDigits := by
  rcases List.mem_append.1 hc with hc | hc
  · rw [List.eq_of_mem_replicate hc]
    decide
  · obtain ⟨d, hd, rfl⟩ := List.mem_map.1 hc
    have hd : d < 16 := lt_of_mem_digitsUp (by decide) (List.mem_reverse.1 hd)
    exact List.mem_of_getElem? (smallDigits_digitChar hd)

end WatchHub.Numeral
