import Mathlib.Data.List.Basic
import WatchHub.Text.Segments

/-!
# Cutting and joining

Cutting a text and joining segments are the splitting and the intercalation of lists. The segments of a
text are the only ones without a separator that make the text when they are joined
(`Segments.cut_eq_iff`), and a text has as many separators as its segments have, and one between
neighbours (`Segments.count_joined`).
-/

namespace WatchHub.Segments

variable {sep : Char} {cs segment : List Char} {segments : List (List Char)}

lemma cut_eq_splitOn (sep : Char) (cs : List Char) : cut sep cs = cs.splitOn sep := by
  induction cs with
  | nil => rfl
  | cons c cs ih =>
    rw [cut, List.splitOn_cons_eq_if_modifyHead, ih]
    by_cases hc : c = sep
    · simp [hc]
    · -- There is a first segment, which the character joins.
      cases hcs : cs.splitOn sep with
      | nil => exact absurd hcs (List.splitOn_ne_nil sep cs)
      | cons first rest => simp [hc]

lemma joined_cons_cons (sep : Char) (first second : List Char) (rest : List (List Char)) :
    joined sep (first :: second :: rest) = first ++ sep :: joined sep (second :: rest) :=
  rfl

lemma joined_eq_intercalate (sep : Char) (segments : List (List Char)) :
    joined sep segments = [sep].intercalate segments := by
  induction segments with
  | nil => rfl
  | cons first rest ih =>
    cases rest with
    | nil => exact List.intercalate_singleton.symm
    | cons second rest =>
      rw [joined_cons_cons, ih, List.intercalate_cons_cons, List.append_assoc, List.singleton_append]

lemma cut_ne_nil (sep : Char) (cs : List Char) : cut sep cs ≠ [] := by
  rw [cut_eq_splitOn]
  exact List.splitOn_ne_nil sep cs

/-- Joining the segments of a text gives the text back. -/
lemma joined_cut (sep : Char) (cs : List Char) : joined sep (cut sep cs) = cs := by
  rw [joined_eq_intercalate, cut_eq_splitOn]
  exact List.intercalate_splitOn sep

/-- A segment of a text has no separator in it. -/
lemma notMem_of_mem_cut (h : segment ∈ cut sep cs) : sep ∉ segment := by
  induction cs generalizing segment with
  | nil =>
    obtain rfl := List.mem_singleton.1 h
    exact List.not_mem_nil
  | cons c cs ih =>
    unfold cut at h
    split_ifs at h with hc
    · rcases List.mem_cons.1 h with rfl | h
      · exact List.not_mem_nil
      · exact ih h
    · cases hcs : cut sep cs with
      | nil => exact absurd hcs (cut_ne_nil sep cs)
      | cons first rest =>
        rw [hcs] at h ih
        rcases List.mem_cons.1 h with rfl | h
        · rw [List.mem_cons, not_or]
          exact ⟨Ne.symm hc, ih (List.mem_cons_self ..)⟩
        · exact ih (List.mem_cons_of_mem first h)

/-- The segments of a text are those without a separator that make the text when they are joined. -/
theorem cut_eq_iff : cut sep cs = segments ↔
    segments ≠ [] ∧ (∀ segment ∈ segments, sep ∉ segment) ∧ joined sep segments = cs := by
  constructor
  · rintro rfl
    exact ⟨cut_ne_nil sep cs, fun _ => notMem_of_mem_cut, joined_cut sep cs⟩
  · rintro ⟨hne, hplain, rfl⟩
    rw [joined_eq_intercalate, cut_eq_splitOn]
    exact List.splitOn_intercalate sep hplain hne

/-- Joined segments have the separators that they had, and one between neighbours. -/
theorem count_joined (hne : segments ≠ []) :
    (joined sep segments).count sep + 1 = segments.flatten.count sep + segments.length := by
  induction segments with
  | nil => exact absurd rfl hne
  | cons first rest ih =>
    cases rest with
    | nil => simp [joined]
    | cons second rest =>
      have hrest := ih (List.cons_ne_nil second rest)
      rw [joined_cons_cons, List.count_append, List.count_cons_self, List.flatten_cons, List.count_append,
        List.length_cons]
      omega

/-- Joined segments have no more separators than between neighbours exactly if none has one in it. -/
lemma count_joined_eq_iff (hne : segments ≠ []) :
    (joined sep segments).count sep + 1 = segments.length ↔
      ∀ segment ∈ segments, sep ∉ segment := by
  rw [count_joined hne, Nat.add_eq_right, List.count_eq_zero, List.mem_flatten]
  simp

/-- A text has one segment more than separators. -/
lemma length_cut (sep : Char) (cs : List Char) : (cut sep cs).length = cs.count sep + 1 := by
  obtain ⟨hne, hplain, hjoined⟩ := cut_eq_iff.1 (rfl : cut sep cs = cut sep cs)
  rw [← (count_joined_eq_iff hne).2 hplain, hjoined]

end WatchHub.Segments
