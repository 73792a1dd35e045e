import Mathlib.Data.Fin.VecNotation
import Tonality.Proofs.Key.Degrees
import Tonality.Proofs.Pitch.Fifths

/-!
The forms of a scale, major and three of minor. A form says how many semitones every
degree lies above the tonic and which triad thirds stacked on it make. The key on a root
takes them from its forms whatever the root is, as long as every interval can be taken
above it; and as long as the root has three signs at most, the letters of a scale follow
one another.
-/

namespace Tonality

namespace Scale

inductive Form
  | major
  | naturalMinor
  | harmonicMinor
  | melodicMinor
  deriving DecidableEq, Repr

namespace Form

def intervals : Form → List Interval
  | major => Scale.major
  | naturalMinor => Scale.naturalMinor
  | harmonicMinor => Scale.harmonicMinor
  | melodicMinor => Scale.melodicMinor

def offset : Form → Fin 7 → Int
  | major => ![0, 2, 4, 5, 7, 9, 11]
  | naturalMinor => ![0, 2, 3, 5, 7, 8, 10]
  | harmonicMinor => ![0, 2, 3, 5, 7, 8, 11]
  | melodicMinor => ![0, 2, 3, 5, 7, 9, 11]

def triad : Form → Fin 7 → Quality
  | major => ![.major, .minor, .minor, .major, .major, .minor, .diminished]
  | naturalMinor => ![.minor, .diminished, .major, .minor, .minor, .major, .major]
  | harmonicMinor => ![.minor, .diminished, .augmented, .minor, .major, .major, .diminished]
  | melodicMinor => ![.minor, .minor, .augmented, .major, .major, .diminished, .diminished]

def step (f : Form) (degree : Fin 7) : Interval := f.intervals.getD degree.val ⟨.perfect, 0⟩

section
variable (f : Form) (degree : Fin 7)

theorem semitones_step : (f.step degree).semitones = f.offset degree := by
  cases f <;> fin_cases degree <;> rfl

theorem steps_step : (f.step degree).steps = degree := by
  cases f <;> fin_cases degree <;> rfl

theorem fifths_step : -4 ≤ (f.step degree).fifths ∧ (f.step degree).fifths ≤ 5 := by
  cases f <;> (revert degree; decide)

/-- The third and the fifth of the triad on a degree are two and four degrees further up. -/
theorem semitones_triad :
    (f.triad degree).intervals.map Interval.semitones =
      [0, (f.offset (degree + 2) - f.offset degree) % 12,
        (f.offset (degree + 4) - f.offset degree) % 12] := by
  cases f <;> (revert degree; decide)

end
end Form
end Scale

/-- The names of a scale with their pitch classes, and the triads that they stack. -/
structure Variant.Spelled (v : Variant) (tonic : Root) (f : Scale.Form) (name : Fin 7 → String)
    (pitch : Fin 7 → Int) : Prop where
  scale : v.scale = List.ofFn name
  chords : v.chords = List.ofFn fun i => name i ++ (f.triad i).suffix
  first : name 0 = tonic.name
  sounds : ∀ i, readPitchClass (name i) = .ok (pitch i)
  placed : ∀ i, pitch i = (tonic.pitchClass + f.offset i) % 12
  stacked : ∀ i, (f.triad i).intervals.map Interval.semitones =
    [0, (pitch (i + 2) - pitch i) % 12, (pitch (i + 4) - pitch i) % 12]
  lettered : tonic.alter.natAbs ≤ 3 →
    ∀ i, (name i).toList.head? = some (tonic.letter.up i.val).char

def Variant.HasForm (v : Variant) (tonic : Root) (f : Scale.Form) : Prop :=
  ∃ name pitch, v.Spelled tonic f name pitch

theorem Root.up_unison {r : Root} (few : r.alter.natAbs ≤ 4) : r.up ⟨.perfect, 0⟩ = r := by
  have hlift : r.letter.lift ⟨.perfect, 0⟩ = 0 := by cases r.letter <;> rfl
  have hletter : r.letter.above ⟨.perfect, 0⟩ = r.letter := r.letter.ofIndex_index
  rw [up_eq (by rw [hlift, Int.add_zero]; exact few), hlift, hletter, Int.add_zero]

theorem Scale.onRoot_hasForm {r : Root} (few : r.alter.natAbs ≤ 4) (f : Form) :
    (onRoot r f.intervals).HasForm r f := by
  have hplaced (i : Fin 7) :
      (r.up (f.step i)).pitchClass = (r.pitchClass + f.offset i) % 12 := by
    rw [r.pitchClass_up, f.semitones_step]
  refine ⟨fun i => (r.up (f.step i)).name, fun i => (r.up (f.step i)).pitchClass, ?_⟩
  exact
    { scale := by cases f <;> rfl
      chords := by cases f <;> rfl
      first := by
        have hfirst : f.step 0 = ⟨.perfect, 0⟩ := by cases f <;> rfl
        rw [hfirst, Root.up_unison few]
      sounds := fun i => Root.readPitchClass_name (r.alter_up _)
      placed := hplaced
      stacked := by
        intro i
        rw [f.semitones_triad, hplaced, hplaced, hplaced]
        congr 2
        · omega
        · congr 1
          omega
      lettered := by
        intro three i
        have hbounds := (r.alter_le_iff 3).mp three
        have hsteps := f.fifths_step i
        rw [← Root.name_note, Note.head?_name]
        have hletter := Root.letter_up (r := r) (i := f.step i) (by omega) (by omega)
        rw [f.steps_step] at hletter
        exact congrArg (fun l : Letter => some l.char) hletter }

end Tonality
