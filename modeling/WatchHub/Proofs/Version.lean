import Mathlib.Data.List.Basic
import WatchHub.Proofs.Text.Numeral
import WatchHub.Rehearsal.Commands

/-!
# Versions and their texts

A text is read as a version exactly if it is, cut at its first dash, a hexadecimal word and a decimal one,
and is handed back otherwise (`Version.read_eq_ok_iff`, `Version.read_eq_error_iff`). Each version is read
from its own text (`Version.read_text`). So whoever subscribes with the text of a version subscribes with
that version, however the text spells it (`Version.reads_spellings`).
-/

namespace WatchHub

/-- The two sides of the first separator of a text. -/
lemma Segments.cutOnce?_eq_some_iff {sep : Char} {cs first rest : List Char} :
    cutOnce? sep cs = some (first, rest) ↔ cs = first ++ sep :: rest ∧ sep ∉ first := by
  induction cs generalizing first with
  | nil => simp [cutOnce?]
  | cons c cs ih =>
    unfold cutOnce?
    split_ifs with hc
    · subst hc
      cases first with
      | nil => simp [eq_comm]
      | cons c' first =>
        refine iff_of_false nofun ?_
        rintro ⟨heq, hnot⟩
        obtain ⟨rfl, -⟩ := List.cons.inj heq
        exact hnot (List.mem_cons_self ..)
    · constructor
      · intro h
        obtain ⟨⟨first', rest'⟩, hcut, heq⟩ := Option.map_eq_some_iff.1 h
        cases heq
        obtain ⟨rfl, hnot⟩ := ih.1 hcut
        exact ⟨rfl, by simp [hnot, Ne.symm hc]⟩
      · rintro ⟨heq, hnot⟩
        cases first with
        | nil => exact absurd (List.cons.inj heq).1 hc
        | cons c' first =>
          obtain ⟨rfl, rfl⟩ := List.cons.inj heq
          rw [ih.2 ⟨rfl, fun hmem => hnot (List.mem_cons_of_mem _ hmem)⟩]
          rfl

namespace Version

variable {s : String} {v w : Version} {m : Malformed}

/-- The texts of a version: a hexadecimal word up to the first dash, and a decimal one behind it. -/
def Spelled (s : String) (v : Version) : Prop :=
  ∃ epoch seq, s.toList = epoch ++ '-' :: seq ∧ '-' ∉ epoch ∧
    Numeral.SpellsWord 16 epoch v.epoch.toNat ∧ Numeral.SpellsWord 10 seq v.seq

/-- The reader takes exactly the texts of versions. -/
lemma read_eq_ok_iff : read s = .ok v ↔ Spelled s v := by
  have hcut : ∀ epoch seq, s.toList = epoch ++ '-' :: seq ∧ '-' ∉ epoch ↔
      Segments.cutOnce? '-' s.toList = some (epoch, seq) :=
    fun _ _ => Segments.cutOnce?_eq_some_iff.symm
  unfold Spelled
  simp only [← and_assoc, hcut]
  simp only [← Numeral.readWord?_eq_some_iff (show 16 ≤ 16 by decide),
    ← Numeral.readWord?_eq_some_iff (show 10 ≤ 16 by decide)]
  unfold read
  constructor
  · intro h
    split at h
    · cases h
    · split at h
      · cases h
        rename_i hepoch hseq
        have hlt := (Numeral.readWord?_eq_some_iff (by decide)).1 hepoch |>.1
        refine ⟨_, _, ⟨‹_›, ?_⟩, hseq⟩
        rw [hepoch]
        exact congrArg some (UInt64.toNat_ofNat_of_lt' hlt).symm
      · cases h
  · rintro ⟨epoch, seq, ⟨hsome, hepoch⟩, hseq⟩
    simp only [hsome, hepoch, hseq]
    exact congrArg _ (congrArg (mk · v.seq) UInt64.ofNat_toNat)

/-- What is no text of a version is handed back. -/
lemma read_eq_error_iff : read s = .error m ↔ m = ⟨s⟩ ∧ ∀ v, ¬ Spelled s v := by
  have hback : ∀ m, read s = .error m → m = ⟨s⟩ := by
    intro m h
    unfold read at h
    split at h
    · cases h
      rfl
    · split at h <;> cases h
      rfl
  constructor
  · intro h
    refine ⟨hback m h, fun v hv => ?_⟩
    cases h.symm.trans (read_eq_ok_iff.2 hv)
  · rintro ⟨rfl, hnot⟩
    cases hread : read s with
    | error m => rw [hback m hread]
    | ok v => exact absurd (read_eq_ok_iff.1 hread) (hnot v)

/-- A version spells itself. -/
lemma spelled_text (hseq : v.seq < UInt64.size) : Spelled v.text v := by
  have hdigits : Numeral.Spells 16 (Numeral.digits 16 v.epoch.toNat) v.epoch.toNat :=
    Numeral.spells_digits (by decide) (by decide)
  refine ⟨Numeral.hex 16 v.epoch.toNat, Numeral.digits 10 v.seq, String.toList_ofList, ?_,
    ⟨v.epoch.toNat_lt, _, hdigits.padLeft 16, .inl rfl⟩,
    ⟨hseq, _, Numeral.spells_digits (by decide) (by decide), .inl rfl⟩⟩
  intro hdash
  exact absurd (Numeral.mem_smallDigits_of_hex hdash) (by decide)

lemma read_text (hseq : v.seq < UInt64.size) : read v.text = .ok v :=
  read_eq_ok_iff.2 (spelled_text hseq)

/-- A text that can be read is a checkpoint. -/
lemma readCheckpoint_of_read (key : Key) (h : read s = .ok v) :
    Hub.readCheckpoint key s = .ok (some v) := by
  have hsome : s ≠ "" := by
    rintro rfl
    cases h
  simp [Hub.readCheckpoint, hsome, parse?, h, Except.toOption]

/-- A text that cannot be read is lost history, unless it is empty. -/
lemma readCheckpoint_of_refused (key : Key) (hsome : s ≠ "") (h : read s = .error m) :
    Hub.readCheckpoint key s = .error (.versionNotFound key s) := by
  simp [Hub.readCheckpoint, hsome, parse?, h, Except.toOption]

/-- The reader takes exactly the spellings of versions and hands every other text back. A version reads
itself from its text, which starts with sixteen digits in small letters, and no other version has that
text. Whoever subscribes with a spelling of a version subscribes with that version, as with its own text;
and whoever subscribes with another text, unless it is empty, is told that the version was not found. -/
theorem reads_spellings :
    (∀ s v, read s = .ok v ↔ Spelled s v) ∧
    (∀ s m, read s = .error m ↔ m = ⟨s⟩ ∧ ∀ v, ¬ Spelled s v) ∧
    (∀ v : Version, v.seq < UInt64.size → read v.text = .ok v ∧
      ∃ epoch, v.text.toList = epoch ++ '-' :: Numeral.digits 10 v.seq ∧ epoch.length = 16 ∧
        ∀ c ∈ epoch, c ∈ Numeral.smallDigits) ∧
    (∀ v w : Version, v.seq < UInt64.size → w.seq < UInt64.size → v.text = w.text → v = w) ∧
    ∀ (P : Type) (r : Rehearsal P) d key name,
      (∀ v : Version, v.seq < UInt64.size →
        r.subscribeText d key name v.text = r.subscribe d key name (some v)) ∧
      (∀ s v, read s = .ok v →
        r.subscribeText d key name s = r.subscribeText d key name v.text) ∧
      ∀ s m, s ≠ "" → read s = .error m →
        r.subscribeText d key name s = (.error (.versionNotFound key s), r) := by
  have hsubscribe : ∀ (P : Type) (r : Rehearsal P) d key name s v, read s = .ok v →
      r.subscribeText d key name s = r.subscribe d key name (some v) := by
    intro P r d key name s v hread
    simp only [Rehearsal.subscribeText, readCheckpoint_of_read key hread]
  refine ⟨fun s v => read_eq_ok_iff, fun s m => read_eq_error_iff, fun v hseq => ⟨read_text hseq, ?_⟩, ?_,
    fun P r d key name => ⟨fun v hseq => hsubscribe P r d key name _ v (read_text hseq), ?_, ?_⟩⟩
  · exact ⟨Numeral.hex 16 v.epoch.toNat, String.toList_ofList,
      Numeral.length_hex (by decide) v.epoch.toNat_lt, fun c => Numeral.mem_smallDigits_of_hex⟩
  · intro v w hv hw heq
    have := read_text hv
    rw [heq, read_text hw] at this
    exact (Except.ok.inj this).symm
  · intro s v hread
    have hseq : v.seq < UInt64.size := by
      obtain ⟨_, _, -, -, -, hseq⟩ := read_eq_ok_iff.1 hread
      exact hseq.1
    rw [hsubscribe P r d key name s v hread, hsubscribe P r d key name _ v (read_text hseq)]
  · intro s m hsome hread
    simp only [Rehearsal.subscribeText, readCheckpoint_of_refused key hsome hread]

example : read "+00fF-+007" = .ok ⟨255, 7⟩ := by decide +kernel

example : read "7--7" = .error ⟨"7--7"⟩ := by decide +kernel

end Version

end WatchHub
