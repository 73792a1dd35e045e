import Mathlib.Data.Fintype.Basic
import Mathlib.Tactic.FinCases
import Tonality.Harmony.Diatonic
import Tonality.Proofs.Chord.Symbol
import Tonality.Proofs.Outcome
import Tonality.Proofs.Pitch.Spelling

/-!
Keys in terms of their roots. Building a key on a root with a few signs always
succeeds; its scale is the root transposed along the steps of the mode, and its
chords are the triads that thirds stacked on the degrees form. Which triads they
are depends on the distances between the steps alone, so the chord on a degree
is known from the root, the mode and the degree.
-/

namespace Tonality

/-- Roots that every interval can be taken above. -/
def Root.Open (r : Root) : Prop := r.alter.natAbs ≤ 4 ∧ ¬(r.letter = .f ∧ r.alter = -4)

theorem Root.Open.of_alter {r : Root} (h : r.alter.natAbs ≤ 3) : r.Open :=
  ⟨by omega, fun hf => by omega⟩

namespace Scale

/-- The steps of a scale with the third and the fifth stacked on each. -/
def stackings (steps : List Interval) : List (Interval × Interval × Interval) :=
  steps.zip ((steps.rotateLeft 2).zip (steps.rotateLeft 4))

def stackedTriad? (d : Interval × Interval × Interval) : Option Quality :=
  Quality.ofSemitones? ((d.2.1.semitones - d.1.semitones) % 12)
    ((d.2.2.semitones - d.1.semitones) % 12)

def stackedTriad (d : Interval × Interval × Interval) : Quality := (stackedTriad? d).getD .major

def stackedChord (r : Root) (d : Interval × Interval × Interval) : Chord :=
  ⟨r.up d.1, stackedTriad d⟩

def onRoot (r : Root) (steps : List Interval) : Variant :=
  ⟨steps.map fun i => (r.up i).name, (stackings steps).map fun d => (stackedChord r d).symbol⟩

/-- Thirds stacked on every step form a triad. -/
def Tertian (steps : List Interval) : Prop := ∀ d ∈ stackings steps, (stackedTriad? d).isSome = true

theorem tertian_major : Tertian major := by unfold Tertian; decide
theorem tertian_naturalMinor : Tertian naturalMinor := by unfold Tertian; decide
theorem tertian_harmonicMinor : Tertian harmonicMinor := by unfold Tertian; decide
theorem tertian_melodicMinor : Tertian melodicMinor := by unfold Tertian; decide

theorem rotateLeft_map {α β : Type} (f : α → β) (xs : List α) (n : Nat) :
    (xs.map f).rotateLeft n = (xs.rotateLeft n).map f := by
  simp only [List.rotateLeft, List.length_map]
  split_ifs
  · rfl
  · simp [List.map_take, List.map_drop]

theorem stackings_map (f : Interval → String) (steps : List Interval) :
    (steps.map f).zip (((steps.map f).rotateLeft 2).zip ((steps.map f).rotateLeft 4)) =
      (stackings steps).map fun d => (f d.1, f d.2.1, f d.2.2) := by
  rw [rotateLeft_map, rotateLeft_map, List.zip_map, List.zip_map, stackings]
  rfl

theorem ofNames_up (r : Root) (a b c : Interval) :
    Quality.ofNames (r.up a).name (r.up b).name (r.up c).name =
      match stackedTriad? (a, b, c) with
      | some q => .ok q
      | none => .error (.notTertian (r.up a).name (r.up b).name (r.up c).name) := by
  have hthird : ((r.up b).pitchClass - (r.up a).pitchClass) % 12 =
      (b.semitones - a.semitones) % 12 := by
    rw [Root.pitchClass_up, Root.pitchClass_up]
    omega
  have hfifth : ((r.up c).pitchClass - (r.up a).pitchClass) % 12 =
      (c.semitones - a.semitones) % 12 := by
    rw [Root.pitchClass_up, Root.pitchClass_up]
    omega
  rw [Quality.ofNames, Root.readPitchClass_name (r.alter_up a),
    Root.readPitchClass_name (r.alter_up b), Root.readPitchClass_name (r.alter_up c)]
  simp only [bind, Except.bind, hthird, hfifth, stackedTriad?]
  cases Quality.ofSemitones? _ _ <;> rfl

theorem triad_up (r : Root) {d : Interval × Interval × Interval}
    (h : (stackedTriad? d).isSome = true) :
    triad (r.up d.1).name (r.up d.2.1).name (r.up d.2.2).name =
      .ok (stackedChord r d).symbol := by
  obtain ⟨q, hq⟩ := Option.isSome_iff_exists.mp h
  rw [triad, ofNames_up, hq]
  simp [stackedChord, stackedTriad, hq, Chord.symbol, bind, Except.bind, pure, Except.pure]

theorem onTonic_name {r : Root} (given : r.Open) {steps : List Interval} (h : Tertian steps) :
    onTonic r.name steps = .ok (onRoot r steps) := by
  have hscale : (steps.mapM fun i => i.above r.name) = .ok (steps.map fun i => (r.up i).name) :=
    mapM_eq_ok fun i _ => Root.above_name given.1 fun hf => given.2 ⟨hf.1, hf.2.1⟩
  have htriads : triads (steps.map fun i => (r.up i).name) = .ok (onRoot r steps).chords := by
    rw [triads, stackings_map, List.mapM_map]
    exact mapM_eq_ok fun d hd => triad_up r (h d hd)
  rw [onTonic, hscale]
  simp only [bind, Except.bind, htriads]
  rfl

end Scale

namespace Key

def onRoot (r : Root) : Mode → Key
  | .major =>
    { tonic := r.name, mode := .major, scale := (Scale.onRoot r Scale.major).scale,
      chords := (Scale.onRoot r Scale.major).chords }
  | _ =>
    let natural := Scale.onRoot r Scale.naturalMinor
    { tonic := r.name, mode := .minor, scale := natural.scale, chords := natural.chords,
      natural := some natural, harmonic := some (Scale.onRoot r Scale.harmonicMinor),
      melodic := some (Scale.onRoot r Scale.melodicMinor) }

theorem ofTonic_name {r : Root} (given : r.Open) (mode : Mode) :
    ofTonic r.name mode = .ok (onRoot r mode) := by
  have hmajor := Scale.onTonic_name given Scale.tertian_major
  have hnatural := Scale.onTonic_name given Scale.tertian_naturalMinor
  have hharmonic := Scale.onTonic_name given Scale.tertian_harmonicMinor
  have hmelodic := Scale.onTonic_name given Scale.tertian_melodicMinor
  cases mode <;>
    simp [ofTonic, onRoot, hmajor, hnatural, hharmonic, hmelodic, bind, Except.bind, pure,
      Except.pure]

/-- The form of the scale that a degree is taken from. -/
def stepsFor (mode : Mode) (degree : Fin 7) : List Interval :=
  if mode = .major then Scale.major
  else if isRaised degree.val then Scale.harmonicMinor
  else Scale.naturalMinor

def stackOn (mode : Mode) (degree : Fin 7) : Interval × Interval × Interval :=
  let steps := stepsFor mode degree
  (steps.getD degree.val ⟨.perfect, 0⟩, steps.getD ((degree.val + 2) % 7) ⟨.perfect, 0⟩,
    steps.getD ((degree.val + 4) % 7) ⟨.perfect, 0⟩)

def chordOn (r : Root) (mode : Mode) (degree : Fin 7) : Chord :=
  Scale.stackedChord r (stackOn mode degree)

theorem diatonic_onRoot (r : Root) (mode : Mode) (degree : Fin 7) (numeral : String) :
    (onRoot r mode).diatonic degree.val numeral = .ok (chordOn r mode degree).symbol := by
  cases mode <;> fin_cases degree <;> rfl

end Key
end Tonality
