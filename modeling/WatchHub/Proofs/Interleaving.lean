import Mathlib.Data.List.Induction
import Mathlib.Tactic.Lemma

/-!
# Interleavings

Two lists merged into one, each in its own order. An interleaving is built at its end, in the way in
which a queue grows.
-/

namespace WatchHub

/-- The third list consists of the first two, each of them in its order. -/
inductive Interleaving {A : Type} : List A → List A → List A → Prop where
  | nil : Interleaving [] [] []
  | left {xs ys zs} (x : A) : Interleaving xs ys zs → Interleaving (xs ++ [x]) ys (zs ++ [x])
  | right {xs ys zs} (y : A) : Interleaving xs ys zs → Interleaving xs (ys ++ [y]) (zs ++ [y])

namespace Interleaving

variable {A : Type} {xs ys zs : List A}

/-- One list and then the other. -/
lemma append_self (xs ys : List A) : Interleaving xs ys (xs ++ ys) := by
  induction ys using List.reverseRecOn with
  | nil =>
    rw [List.append_nil]
    induction xs using List.reverseRecOn with
    | nil => exact .nil
    | append_singleton xs x ih => exact ih.left x
  | append_singleton ys y ih =>
    rw [← List.append_assoc]
    exact ih.right y

/-- Interleavings one after the other. -/
lemma append {xs' ys' zs' : List A} (h : Interleaving xs ys zs) (h' : Interleaving xs' ys' zs') :
    Interleaving (xs ++ xs') (ys ++ ys') (zs ++ zs') := by
  induction h' with
  | nil => simpa using h
  | left x _ ih =>
    rw [← List.append_assoc, ← List.append_assoc]
    exact ih.left x
  | right y _ ih =>
    rw [← List.append_assoc, ← List.append_assoc]
    exact ih.right y

lemma mem_iff {a : A} (h : Interleaving xs ys zs) : a ∈ zs ↔ a ∈ xs ∨ a ∈ ys := by
  induction h with
  | nil => simp
  | left x _ ih =>
    rw [List.mem_append, List.mem_append, ih, or_right_comm]
  | right y _ ih =>
    rw [List.mem_append, List.mem_append, ih, or_assoc]

/-- Everything is there as often as in the two lists together. -/
lemma count_eq [BEq A] (h : Interleaving xs ys zs) (a : A) :
    zs.count a = xs.count a + ys.count a := by
  induction h with
  | nil => rfl
  | left x _ ih =>
    rw [List.count_append, List.count_append, ih]
    omega
  | right y _ ih =>
    rw [List.count_append, List.count_append, ih]
    omega

/-- A test picks the same from the whole as from the two lists. -/
lemma filter (h : Interleaving xs ys zs) (p : A → Bool) :
    Interleaving (xs.filter p) (ys.filter p) (zs.filter p) := by
  induction h with
  | nil => exact .nil
  | left x _ ih =>
    rw [List.filter_append, List.filter_append]
    cases hx : p x with
    | true => simpa [hx] using ih.left x
    | false => simpa [hx] using ih
  | right y _ ih =>
    rw [List.filter_append, List.filter_append]
    cases hy : p y with
    | true => simpa [hy] using ih.right y
    | false => simpa [hy] using ih

lemma eq_of_left_nil (h : Interleaving xs ys zs) (hnil : xs = []) : zs = ys := by
  induction h with
  | nil => rfl
  | left x _ _ => simp at hnil
  | right y _ ih => rw [ih hnil]

lemma eq_of_right_nil (h : Interleaving xs ys zs) (hnil : ys = []) : zs = xs := by
  induction h with
  | nil => rfl
  | left x _ ih => rw [ih hnil]
  | right y _ _ => simp at hnil

end Interleaving

end WatchHub
