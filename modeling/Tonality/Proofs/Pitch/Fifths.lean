import Tonality.Proofs.Pitch.Spelling

/-!
The line of fifths. Every spelling has a place on it, counted in fifths above C,
and a sign moves it by seven places. An interval moves it by as many places
wherever it is taken, as long as the note above has at most four signs; how many
signs a spelling has can be read off its place.
-/

namespace Tonality

namespace Letter

theorem fifths_bounds (l : Letter) : -1 ≤ l.fifths ∧ l.fifths ≤ 5 := by cases l <;> decide

def above (l : Letter) (i : Interval) : Letter := ofIndex (l.index + i.steps)

/-- The signs that the note an interval above the natural note has. -/
def lift (l : Letter) (i : Interval) : Int :=
  l.semitone + i.semitones - ((l.above i).semitone + 12 * ((l.index + i.steps) / 7 : Nat))

end Letter

/-- With few enough signs the note above keeps the letter that the interval leads to. -/
theorem Note.up_eq {n : Note} {i : Interval} (few : (n.alter + n.letter.lift i).natAbs ≤ 4) :
    n.up i = { n with
      letter := n.letter.above i
      alter := n.alter + n.letter.lift i
      octave := n.octave.map (· + (((n.letter.index + i.steps) / 7 : Nat) : Int)) } := by
  have halter : n.letter.semitone + n.alter + i.semitones - ((n.letter.above i).semitone +
      12 * ((n.letter.index + i.steps) / 7 : Nat)) = n.alter + n.letter.lift i := by
    unfold Letter.lift
    omega
  unfold Letter.above at halter ⊢
  unfold up
  simp only [halter, if_pos few]

namespace Root

/-- The place of a root on the line of fifths. -/
def fifths (r : Root) : Int := r.letter.fifths + 7 * r.alter

theorem fifths_shift (r : Root) (semitones : Int) :
    (r.shift semitones).fifths = r.fifths + 7 * semitones := by
  simp only [fifths, shift]
  omega

theorem alter_le_iff (r : Root) (k : Nat) :
    r.alter.natAbs ≤ k ↔ -(7 * k + 1 : Int) ≤ r.fifths ∧ r.fifths ≤ 7 * k + 5 := by
  have hletter := r.letter.fifths_bounds
  unfold fifths
  omega

theorem up_eq {r : Root} {i : Interval} (few : (r.alter + r.letter.lift i).natAbs ≤ 4) :
    r.up i = ⟨r.letter.above i, r.alter + r.letter.lift i⟩ := by
  rw [up, Note.up_eq (n := r.note) few]
  rfl

end Root

def Interval.fifths (i : Interval) : Int := (Root.up ⟨.c, 0⟩ i).fifths

theorem Letter.fifths_above (l : Letter) (i : Interval) :
    (l.above i).fifths + 7 * l.lift i = l.fifths + i.fifths := by
  obtain ⟨specifier, steps⟩ := i
  cases l <;> cases specifier <;> (revert steps; decide)

namespace Root
variable {r : Root} {i : Interval} (low : -29 ≤ r.fifths + i.fifths)
  (high : r.fifths + i.fifths ≤ 33)
include low high

/-- Four signs reach from 29 fifths below C to 33 above. -/
theorem alter_lift_le : (r.alter + r.letter.lift i).natAbs ≤ 4 := by
  have hletter := (r.letter.above i).fifths_bounds
  have habove := r.letter.fifths_above i
  unfold fifths at low high
  omega

theorem fifths_up : (r.up i).fifths = r.fifths + i.fifths := by
  have habove := r.letter.fifths_above i
  rw [up_eq (alter_lift_le low high)]
  unfold fifths
  dsimp only
  omega

theorem letter_up : (r.up i).letter = r.letter.up i.steps := by
  rw [up_eq (alter_lift_le low high)]
  rfl

end Root
end Tonality
