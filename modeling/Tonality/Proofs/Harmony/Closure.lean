import Tonality.Proofs.Harmony.Resolution
import Tonality.Proofs.Voicing.Bass

/-!
Chords within the scale. A plain 7 adds one more third to the triad on a degree, taken
from the same form of the scale, so a numeral that changes nothing about the chord on
its degree only sounds notes of that form; and a figure only puts one of them into the
bass.
-/

namespace Tonality

theorem Scale.stackedTriad_ne_suspended (d : Interval × Interval × Interval) :
    stackedTriad d ≠ .suspended := by
  unfold stackedTriad stackedTriad? Quality.ofSemitones?
  split_ifs <;> simp

namespace Key

/-- The scale that a degree belongs to: in a minor key the harmonic form for V and vii. -/
def scaleFor (k : Key) (degree : Fin 7) : List String :=
  if k.mode = .major then k.scale
  else if degree = 4 ∨ degree = 6 then (k.harmonic.map Variant.scale).getD []
  else (k.natural.map Variant.scale).getD []

def Contains (k : Key) (degree : Fin 7) (p : Int) : Prop :=
  ∃ name ∈ k.scaleFor degree, readPitchClass name = .ok p

theorem scaleFor_onRoot (r : Root) (mode : Mode) (degree : Fin 7) :
    (onRoot r mode).scaleFor degree = (stepsFor mode degree).map fun i => (r.up i).name := by
  cases mode <;> fin_cases degree <;> rfl

theorem contains_onRoot (r : Root) {mode : Mode} {degree : Fin 7} {i : Interval}
    (h : i ∈ stepsFor mode degree) :
    (onRoot r mode).Contains degree ((r.pitchClass + i.semitones) % 12) := by
  refine ⟨(r.up i).name, ?_, ?_⟩
  · rw [scaleFor_onRoot]
    exact List.mem_map_of_mem h
  · rw [Root.readPitchClass_name (r.alter_up i), Root.pitchClass_up]

end Key

/-- The seventh chord on a degree consists of steps of the scale. -/
theorem Mode.steps_seventhOn (mode : Mode) (degree : Fin 7) :
    ∀ i ∈ (mode.seventhOn degree).intervals, ∃ s ∈ Key.stepsFor mode degree,
      (mode.offset degree + i.semitones) % 12 = s.semitones := by
  have hminor : ∀ d : Fin 7, ∀ i ∈ (Mode.minor.seventhOn d).intervals,
      ∃ s ∈ Key.stepsFor .minor d, (Mode.minor.offset d + i.semitones) % 12 = s.semitones := by
    decide
  cases mode with
  | major => revert degree; decide
  | minor => exact hminor degree
  | other name => exact hminor degree

theorem Mode.triad_seventhOn (mode : Mode) (degree : Fin 7) :
    (mode.seventhOn degree).triad = Scale.stackedTriad (Key.stackOn mode degree) := by
  cases mode <;> fin_cases degree <;> rfl

/-- The third of a seventh above the triad gives the same chord. -/
theorem Mode.withSeventh_seventhOn (mode : Mode) (degree : Fin 7) :
    (mode.seventhOn degree).seventh?.map (Scale.stackedTriad (Key.stackOn mode degree)).withSeventh =
      some (mode.seventhOn degree) := by
  cases mode <;> fin_cases degree <;> rfl

namespace Numeral

/-- A numeral that leaves the chord on its degree as it is, but for a seventh. -/
structure Bare (n : Numeral) : Prop where
  sign : n.base.sign = none
  token : n.base.token = none
  suspension : n.base.suspension = none

section
variable {n : Numeral} (bare : n.Bare) (mode : Mode)
include bare

theorem Bare.triadOver (diatonic : Quality) : n.triadOver diatonic = diatonic := by
  simp [Numeral.triadOver, bare.sign, bare.token, bare.suspension]

theorem Bare.qualityIn : n.qualityIn mode =
    if n.wantsSeventh then mode.seventhOn n.base.degree.index
    else Scale.stackedTriad (Key.stackOn mode n.base.degree.index) := by
  have hplain := mode.withSeventh_seventhOn n.base.degree.index
  rw [Numeral.qualityIn, Numeral.seventhIn, bare.token, bare.triadOver]
  split_ifs with hwants
  · obtain ⟨s, hs, hquality⟩ := Option.map_eq_some_iff.mp hplain
    rw [hs]
    exact hquality
  · rfl

theorem Bare.intervals_subset :
    (n.qualityIn mode).intervals ⊆ (mode.seventhOn n.base.degree.index).intervals := by
  rw [bare.qualityIn, ← mode.triad_seventhOn]
  split_ifs
  · exact List.Subset.refl _
  · exact Quality.intervals_triad_subset _

theorem Bare.contains (r : Root) {i : Interval} (h : i ∈ (n.qualityIn mode).intervals) :
    (Key.onRoot r mode).Contains n.base.degree.index
      (((n.chordIn r mode).root.pitchClass + i.semitones) % 12) := by
  obtain ⟨s, hs, hstep⟩ := mode.steps_seventhOn _ i (bare.intervals_subset mode h)
  have hroot : (n.chordIn r mode).root.pitchClass =
      (r.pitchClass + mode.offset n.base.degree.index) % 12 := by
    simp [chordIn, Base.shift, bare.sign, Root.shift, ← Key.pitchClass_chordOn]
  have hpitch : ((n.chordIn r mode).root.pitchClass + i.semitones) % 12 =
      (r.pitchClass + s.semitones) % 12 := by
    rw [hroot, ← hstep]
    omega
  rw [hpitch]
  exact Key.contains_onRoot r hs

theorem Bare.third : (n.qualityIn mode).triad ≠ .suspended := by
  rw [(n.triad_isSeventh_qualityIn mode).1, bare.triadOver]
  exact Scale.stackedTriad_ne_suspended _

end

end Numeral

namespace Resolution

/-- A numeral that leaves the chord on its degree as it is, but for a seventh, only sounds notes
of the scale that the degree belongs to, and has one of them in the bass. -/
theorem diatonic_within_scale {text : String} {name : Option String} {n : Numeral} {home : Key}
    (slashless : '/' ∉ text.toList) (hn : Numeral.read (some text) = .ok n)
    (hhome : Key.read name = .ok home) (bare : n.Bare) :
    ∃ r, ofTexts (some text) name = .ok r ∧
      (∀ p ∈ r.voicing.pitchClasses, home.Contains n.base.degree.index p) ∧
      ∀ p, r.voicing.bass = some p → home.Contains n.base.degree.index p := by
  obtain ⟨r, mode, rfl, canonical, tonal⟩ := Key.read_ok hhome
  obtain ⟨b, log, hb, hresult⟩ := ofTexts_slashless slashless hn hhome canonical tonal
  have plain := Numeral.plain_of_read slashless hn
  have real := n.realizes_chordIn r mode
  have few := real.alter (spellable_of_canonical canonical mode n)
  refine ⟨_, hresult, ?_, ?_⟩
  · intro p hp
    obtain ⟨i, hi, rfl⟩ := (Voicing.mem_pitchClasses_sounding few _ _).mp hp
    exact bare.contains mode r hi
  · rintro p rfl
    obtain ⟨i, hi, rfl⟩ := Voicing.bassOf_mem few plain.figured (bare.third mode) real.seventh hb
    exact bare.contains mode r hi

theorem diatonic_within_scale_fSharpMinor :
    ∃ r, ofTexts (some "vii43") (some "f#  min") = .ok r ∧
      (∀ p ∈ r.voicing.pitchClasses, (Key.onRoot ⟨.f, 1⟩ .minor).Contains 6 p) ∧
      ∀ p, r.voicing.bass = some p → (Key.onRoot ⟨.f, 1⟩ .minor).Contains 6 p := by
  have hread : Numeral.read (some "vii43") =
      .ok ⟨"vii", ⟨none, ⟨6, false⟩, none, false, none⟩, "5", some "43", none⟩ := rfl
  have hhome : Key.read (some "f#  min") = .ok (Key.onRoot ⟨.f, 1⟩ .minor) := rfl
  exact diatonic_within_scale (by decide) hread hhome ⟨rfl, rfl, rfl⟩

end Resolution
end Tonality
