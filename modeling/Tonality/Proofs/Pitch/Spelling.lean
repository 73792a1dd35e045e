import Mathlib.Tactic.GCongr
import Mathlib.Tactic.SplitIfs
import Tonality.Proofs.Pitch.Name

/-!
Spelled notes and the intervals above them. A root with at most four signs is
read back from its name, and the note an interval above it is a root again: it
has at most four signs, and its pitch class lies exactly the interval higher,
whether it keeps its letter or has to be spelled plainly. With an octave the
height is exact as well. The one interval that cannot be taken is a fourth above
F with four flats.
-/

namespace Tonality
namespace Note

theorem exactHeight_up (n : Note) (i : Interval) (h : n.octave.isSome = true) :
    (n.up i).exactHeight = n.exactHeight + i.semitones := by
  obtain ⟨o, ho⟩ := Option.isSome_iff_exists.mp h
  unfold up
  dsimp only
  split_ifs
  · simp only [exactHeight, ho, Option.map_some, Option.getD_some]
    omega
  · exact exactHeight_ofHeight _

theorem exactHeight_up_emod (n : Note) (i : Interval) :
    (n.up i).exactHeight % 12 = (n.exactHeight + i.semitones) % 12 := by
  cases ho : n.octave with
  | some o => rw [exactHeight_up n i (by rw [ho]; rfl)]
  | none =>
    have hplain := exactHeight_ofHeight (n.exactHeight + i.semitones)
    unfold up
    simp only [ho, Option.isSome_none, Bool.false_eq_true, if_false]
    split_ifs
    · simp only [exactHeight, ho, Option.map_none, Option.getD_none]
      omega
    · simp only [exactHeight, ofHeight, Option.getD_some, Option.getD_none] at hplain ⊢
      omega

theorem quarter_up {n : Note} (h : n.quarter = false) (i : Interval) :
    (n.up i).quarter = false := by
  unfold up
  dsimp only
  split_ifs <;> first | exact h | rfl

theorem alter_ofHeight (height : Int) : (ofHeight height).alter.natAbs ≤ 1 := by
  have hplain : ∀ k < 12, (plain.getD k (.c, 0)).2.natAbs ≤ 1 := by decide
  have nonneg := Int.emod_nonneg height (show (12 : Int) ≠ 0 by decide)
  have lt := Int.emod_lt_of_pos height (show (0 : Int) < 12 by decide)
  exact hplain _ (by omega)

theorem alter_up (n : Note) (i : Interval) : (n.up i).alter.natAbs ≤ 4 := by
  have hplain := alter_ofHeight (n.exactHeight + i.semitones)
  unfold up
  dsimp only
  split_ifs with h
  · exact h
  · exact Nat.le_trans hplain (by decide)
  · exact Nat.le_trans hplain (by decide)

theorem isSome_octave_up (n : Note) (i : Interval) :
    (n.up i).octave.isSome = n.octave.isSome := by
  unfold up
  dsimp only
  split_ifs with h ho
  · simp
  · rw [ho]; rfl
  · simp [ho]

/-- Near the middle only a fourth above F with four flats is missing. -/
theorem transpose_eq_up {n : Note} {i : Interval} (near : n.isNear = true)
    (whole : n.quarter = false) (given : ¬(n.letter = .f ∧ n.alter = -4 ∧ i.steps = 3)) :
    n.transpose i = .ok (n.up i) := by
  rw [transpose, if_pos near, if_neg given, checkQuarter, quarter_up whole i]
  rfl

theorem pitchClass_of_isNear {n : Note} (near : n.isNear = true) (whole : n.quarter = false) :
    n.pitchClass = n.exactHeight % 12 := by
  rw [pitchClass_of_quarter whole, height_of_isNear near]

theorem midi_of_isNear {n : Note} (near : n.isNear = true) (whole : n.quarter = false)
    (h : n.exactHeight ≤ highest) : n.midi = n.exactHeight := by
  have hheight := height_of_isNear near
  rw [midi_eq_height whole (by rw [hheight]; exact h), hheight]

/-- A note of at most four signs in an octave where it has a MIDI number. -/
structure Placed (n : Note) : Prop where
  whole : n.quarter = false
  few : n.alter.natAbs ≤ 4
  octave : n.octave.isSome = true
  low : 16 ≤ n.exactHeight
  high : n.exactHeight ≤ highest

namespace Placed

variable {n : Note} (h : n.Placed)
include h

theorem exists_octave : ∃ octave : Nat, n.octave = some (octave : Int) ∧ octave ≤ 10 := by
  obtain ⟨o, ho⟩ := Option.isSome_iff_exists.mp h.octave
  have hletter : 0 ≤ n.letter.semitone ∧ n.letter.semitone ≤ 11 := by
    cases n.letter <;> decide
  have few := h.few
  have low := h.low
  have high := h.high
  unfold exactHeight at low high
  unfold highest at high
  rw [ho, Option.getD_some] at low high
  exact ⟨o.toNat, by rw [ho, Int.toNat_of_nonneg (by omega)], by omega⟩

theorem isNear : n.isNear = true := by
  obtain ⟨octave, ho, hle⟩ := h.exists_octave
  rw [Note.isNear, ho, Option.getD_some, Int.natAbs_natCast, decide_eq_true_iff]
  omega

theorem midi_eq : n.midi = n.exactHeight := midi_of_isNear h.isNear h.whole h.high

theorem read_name : read n.name = .ok n := by
  obtain ⟨octave, ho, hle⟩ := h.exists_octave
  have hlength : (Nat.toDigits 10 octave).length ≤ 2 :=
    (Nat.length_toDigits_le_iff (by decide) (by decide)).mpr (by omega)
  exact Note.read_name h.whole h.few ho (hlength.trans (by decide))

theorem readMidi_name : readMidi n.name = .ok n.midi := by
  rw [readMidi, h.read_name]
  simp only [bind, Except.bind, check_of_isNear h.isNear]
  rfl

end Placed

theorem head?_name (n : Note) : n.name.toList.head? = some n.letter.char := by
  simp [name, chars, spelling]

end Note

namespace Root

def up (r : Root) (i : Interval) : Root := ⟨(r.note.up i).letter, (r.note.up i).alter⟩

theorem isNear_note (r : Root) : r.note.isNear = true :=
  Note.isNear_of_octave_none r.letter r.alter false

theorem note_up (r : Root) (i : Interval) : (r.up i).note = r.note.up i := by
  have hoctave := Note.isSome_octave_up r.note i
  have hquarter := Note.quarter_up (n := r.note) rfl i
  have hnone : (r.note.up i).octave = none := by simpa [note] using hoctave
  cases hn : r.note.up i with
  | mk letter alter octave quarter =>
    rw [hn] at hnone hquarter
    simp only [up, note, hn] at *
    rw [hnone, hquarter]

theorem alter_up (r : Root) (i : Interval) : (r.up i).alter.natAbs ≤ 4 := Note.alter_up r.note i

theorem name_note (r : Root) : r.note.name = r.name := by
  simp [Note.name, Note.chars, Note.spelling, note, name, chars]

theorem pitchClass_eq (r : Root) : r.pitchClass = r.note.exactHeight % 12 :=
  Note.pitchClass_of_isNear r.isNear_note rfl

theorem pitchClass_up (r : Root) (i : Interval) :
    (r.up i).pitchClass = (r.pitchClass + i.semitones) % 12 := by
  have h := Note.exactHeight_up_emod r.note i
  rw [pitchClass_eq, pitchClass_eq, note_up, h, Int.emod_add_emod]

theorem pitchClass_shift (r : Root) (semitones : Int) :
    (r.shift semitones).pitchClass = (r.pitchClass + semitones) % 12 := by
  simp only [pitchClass_eq, shift, note, Note.exactHeight]
  omega

theorem transpose_note {r : Root} {i : Interval}
    (given : ¬(r.letter = .f ∧ r.alter = -4 ∧ i.steps = 3)) :
    r.note.transpose i = .ok (r.up i).note := by
  rw [Note.transpose_eq_up r.isNear_note rfl given, note_up]

theorem readPitchClass_name {r : Root} (h : r.alter.natAbs ≤ 4) :
    readPitchClass r.name = .ok r.pitchClass := by
  rw [readPitchClass, read_name h]
  simp [Note.check_of_isNear r.isNear_note, bind, Except.bind, pure, Except.pure, pitchClass]

theorem above_name {r : Root} {i : Interval} (h : r.alter.natAbs ≤ 4)
    (given : ¬(r.letter = .f ∧ r.alter = -4 ∧ i.steps = 3)) :
    i.above r.name = .ok (r.up i).name := by
  rw [Interval.above, read_name h]
  simp [transpose_note given, bind, Except.bind, pure, Except.pure, name_note]

end Root
end Tonality
