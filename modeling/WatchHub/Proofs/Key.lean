import WatchHub.Key
import WatchHub.Proofs.Text.Segments

/-!
# Keys and their texts

A text is read as a key exactly if the key has this text and no slash in a segment
(`Key.read_eq_ok_iff`), which is so for one key if the text has four slashes and for none otherwise. A
key with a slash in a segment has too many slashes in its text, so it is refused and not taken for
another one (`Key.reads_texts`).
-/

namespace WatchHub.Key

variable {s : String} {k k' : Key} {m : Malformed}

/-- No segment holds a slash. -/
def IsPlain (k : Key) : Prop :=
  ∀ segment ∈ k.segments, '/' ∉ segment.toList

instance (k : Key) : Decidable k.IsPlain :=
  inferInstanceAs (Decidable (∀ segment ∈ k.segments, '/' ∉ segment.toList))

/-- The segments of a key are five, and a key for each five of them. -/
lemma ofSegments?_eq_some_iff {segments : List String} :
    ofSegments? segments = some k ↔ k.segments = segments := by
  constructor
  · intro h
    unfold ofSegments? at h
    split at h
    · cases h
      rfl
    · cases h
  · rintro rfl
    rfl

lemma isSome_ofSegments? {segments : List String} :
    (ofSegments? segments).isSome = true ↔ segments.length = 5 := by
  constructor
  · intro h
    obtain ⟨k, hk⟩ := Option.isSome_iff_exists.1 h
    rw [← ofSegments?_eq_some_iff.1 hk]
    rfl
  · intro h
    match segments, h with
    | [_, _, _, _, _], _ => rfl

/-- The reader takes the texts of the keys without slashes in their segments. -/
theorem read_eq_ok_iff : read s = .ok k ↔ k.text = s ∧ k.IsPlain := by
  have hread : read s = .ok k ↔
      Segments.cut '/' s.toList = k.segments.map String.toList := by
    have hback : ∀ segments, (k.segments = (segments : List (List Char)).map String.ofList) ↔
        segments = k.segments.map String.toList := by
      intro segments
      constructor
      · intro h
        simp [h, Function.comp_def]
      · rintro rfl
        simp [Function.comp_def]
    unfold read
    split
    · rename_i k₀ hk₀
      rw [← hback, ← ofSegments?_eq_some_iff, hk₀]
      simp
    · rename_i hnone
      rw [← hback, ← ofSegments?_eq_some_iff, hnone]
      simp
  rw [hread, Segments.cut_eq_iff, List.forall_mem_map]
  have htext : Segments.joined '/' (k.segments.map String.toList) = s.toList ↔ k.text = s := by
    rw [text, ← String.toList_inj, String.toList_ofList]
  rw [htext]
  constructor
  · rintro ⟨-, hplain, hk⟩
    exact ⟨hk, hplain⟩
  · rintro ⟨hk, hplain⟩
    exact ⟨nofun, hplain, hk⟩

/-- What cannot be read is handed back. -/
lemma read_eq_error_iff : read s = .error m ↔ m = ⟨s⟩ ∧ s.toList.count '/' ≠ 4 := by
  have hsome : (ofSegments? ((Segments.cut '/' s.toList).map String.ofList)).isSome = true ↔
      s.toList.count '/' = 4 := by
    rw [isSome_ofSegments?, List.length_map, Segments.length_cut, Nat.add_left_inj]
  unfold read
  rw [Ne, ← hsome]
  cases ofSegments? ((Segments.cut '/' s.toList).map String.ofList) with
  | none => simp [eq_comm]
  | some k => simp

/-- A text has a slash between neighbouring segments of its key, and no others if the key is plain. -/
lemma count_text : k.text.toList.count '/' = 4 ↔ k.IsPlain := by
  have hcount := @Segments.count_joined_eq_iff '/' (k.segments.map String.toList) nofun
  rw [List.forall_mem_map, List.length_map] at hcount
  rw [text, String.toList_ofList, IsPlain, ← hcount]
  exact (Nat.add_left_inj (n := 1)).symm

/-- A plain key is read from its own text. -/
lemma read_text (hk : k.IsPlain) : read k.text = .ok k :=
  read_eq_ok_iff.2 ⟨rfl, hk⟩

/-- A key with a slash in a segment cannot be read. -/
lemma read_text_of_not_isPlain (hk : ¬k.IsPlain) : read k.text = .error ⟨k.text⟩ :=
  read_eq_error_iff.2 ⟨rfl, fun hcount => hk (count_text.1 hcount)⟩

/-- No other key is read from the text of a key. -/
lemma eq_of_read_text (h : read k.text = .ok k') : k' = k := by
  by_cases hk : k.IsPlain
  · exact (Except.ok.inj ((read_text hk).symm.trans h)).symm
  · cases (read_text_of_not_isPlain hk).symm.trans h

/-- A text is read as a key exactly if it has four slashes, and the key that is read has this text; every
other text is handed back. A key is read from its own text if no segment holds a slash, and is refused
otherwise; no other key is ever read from its text. So plain keys with one text are one key, and neither
of two different keys with one text can be read from it. -/
theorem reads_texts :
    (∀ s, (∃ k, read s = .ok k) ↔ s.toList.count '/' = 4) ∧
    (∀ s k, read s = .ok k → k.text = s) ∧
    (∀ s m, read s = .error m ↔ m = ⟨s⟩ ∧ s.toList.count '/' ≠ 4) ∧
    (∀ k : Key, (read k.text = .ok k ↔ ∀ segment ∈ k.segments, '/' ∉ segment.toList) ∧
      ((∃ segment ∈ k.segments, '/' ∈ segment.toList) → read k.text = .error ⟨k.text⟩) ∧
      ∀ k', read k.text = .ok k' → k' = k) ∧
    (∀ k k' : Key, k.IsPlain → k'.IsPlain → k.text = k'.text → k = k') ∧
    ∀ k k' : Key, k ≠ k' → k.text = k'.text →
      read k.text = .error ⟨k.text⟩ ∧ read k'.text = .error ⟨k'.text⟩ := by
  refine ⟨fun s => ?_, fun s k h => (read_eq_ok_iff.1 h).1, fun s m => read_eq_error_iff,
    fun k => ⟨?_, ?_, fun k' => eq_of_read_text⟩, ?_, ?_⟩
  · constructor
    · rintro ⟨k, hk⟩
      obtain ⟨rfl, hplain⟩ := read_eq_ok_iff.1 hk
      exact count_text.2 hplain
    · intro hcount
      cases hread : read s with
      | ok k => exact ⟨k, rfl⟩
      | error m => exact absurd hcount (read_eq_error_iff.1 hread).2
  · rw [read_eq_ok_iff]
    exact and_iff_right rfl
  · rintro ⟨segment, hsegment, hslash⟩
    exact read_text_of_not_isPlain fun hplain => hplain segment hsegment hslash
  · intro k k' hk hk' htext
    apply eq_of_read_text
    rw [← htext]
    exact read_text hk
  · intro k k' hne htext
    constructor
    · apply read_text_of_not_isPlain
      intro hk
      exact hne (eq_of_read_text (htext ▸ read_text hk))
    · apply read_text_of_not_isPlain
      intro hk'
      exact hne (eq_of_read_text (htext ▸ read_text hk')).symm

example : read "core/v1/file//root" = .ok ⟨"core", "v1", "file", "", "root"⟩ := by decide +kernel

example : (⟨"a/b", "c", "", "", ""⟩ : Key).text = (⟨"a", "b/c", "", "", ""⟩ : Key).text := by
  decide +kernel

example : read "core/v1/file" = .error ⟨"core/v1/file"⟩ := by decide +kernel

end WatchHub.Key
