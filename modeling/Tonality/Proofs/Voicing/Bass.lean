import Tonality.Proofs.Numeral.Written
import Tonality.Proofs.Harmony.Modification
import Tonality.Proofs.Voicing

/-!
How far above the root the bass lies. The token and the quality tell it, and the
root only adds its pitch class. A figure asks for the third, the fifth or the
seventh of the chord, and for the seventh only where it makes the chord one with a
seventh; so the bass under a chord of thirds is a note of the chord.
-/

namespace Tonality

/-- The letters that the members of a chord lie above its root. -/
theorem Quality.steps_intervals (q : Quality) :
    q.intervals.map Interval.steps =
      [0, if q.triad = .suspended then 3 else 2, 4] ++ if q.isSeventh then [6] else [] := by
  cases q <;> rfl

/-- The figures, with the note of the chord above the root that each puts into the bass. -/
def inversions : List (String × Nat) :=
  [("6", 1), ("65", 1), ("64", 2), ("43", 2), ("42", 3), ("2", 3)]

theorem Quality.steps_inverted (q : Quality) {f : String} {place : Nat}
    (h : (f, place) ∈ inversions) (third : place = 1 → q.triad ≠ .suspended)
    (seventh : place = 3 → q.isSeventh = true) :
    q.intervals[place]?.map Interval.steps = some (Fin.ofNat 7 (2 * place)) := by
  have hplace : ∀ v ∈ inversions, v.2 = 1 ∨ v.2 = 2 ∨ v.2 = 3 := by decide
  rw [← List.getElem?_map, q.steps_intervals]
  rcases hplace _ h with rfl | rfl | rfl
  · rw [if_neg (third rfl)]
    rfl
  · rfl
  · rw [if_pos (seventh rfl)]
    rfl

namespace Bass

theorem distance?_congr {c c' : Chord} (quality : c'.quality = c.quality) (bass : Option String) :
    distance? c' bass = distance? c bass := by
  unfold distance? memberAt
  rw [quality]

theorem memberAt_inverted {c : Chord} {f : String} {place : Nat} (h : (f, place) ∈ inversions)
    (third : place = 1 → c.quality.triad ≠ .suspended)
    (seventh : place = 3 → c.quality.isSeventh = true) :
    c.quality.intervals[place]? = some (memberAt c (Fin.ofNat 7 (2 * place))) := by
  have hsteps := c.quality.steps_inverted h third seventh
  obtain ⟨i, hi, hsame⟩ := Option.map_eq_some_iff.mp hsteps
  rw [← hsame, memberAt_of_mem (List.mem_of_getElem? hi)]
  exact hi

end Bass

theorem Numeral.Figured.bass_eq {n : Numeral} {f : String} (h : n.Figured)
    (hf : n.figure = some f) :
    ∃ place, (f, place) ∈ inversions ∧
      Text.strip n.bass.toList = [Interval.stepsChar (Fin.ofNat 7 (2 * place))] ∧
      Voicing.rootTokens.contains n.bass = false ∧ (place = 3 → f ∈ seventhFigures) := by
  have hfigures : ∀ v ∈ figures, ∃ w ∈ inversions, w.1 = v.1 ∧
      Text.strip v.2.toList = [Interval.stepsChar (Fin.ofNat 7 (2 * w.2))] ∧
      Voicing.rootTokens.contains v.2 = false ∧ (w.2 = 3 → v.1 ∈ seventhFigures) := by
    decide
  rcases h with ⟨hnone, -⟩ | ⟨v, hv, hfigure, hbass⟩
  · rw [hnone] at hf
    cases hf
  · obtain rfl : v.1 = f := Option.some.inj (hfigure.symm.trans hf)
    obtain ⟨⟨_, place⟩, hw, rfl, htoken, hroot, hseventh⟩ := hfigures v hv
    exact ⟨place, hw, hbass ▸ htoken, hbass ▸ hroot, hseventh⟩

namespace Voicing

/-- The bass is none in root position, and otherwise its distance added to the root. -/
theorem bassOf_eq {c : Chord} {bass : Option String} {b : Option Int}
    (few : c.root.alter.natAbs ≤ 3) (h : bassOf c bass = .ok b) :
    b = if bass.any rootTokens.contains then none
      else (Bass.distance? c bass).map fun s => (c.root.pitchClass + s) % 12 := by
  unfold bassOf at h
  split_ifs at h ⊢
  · exact (Except.ok.inj h).symm
  · rcases Bass.pitchClass_cases few bass with ⟨s, hs, hp⟩ | ⟨-, e, herror, -⟩
    · rw [hp] at h
      rw [hs]
      exact (Except.ok.inj h).symm
    · rw [herror] at h
      cases h

/-- The bass of a figure lies as far above the root as the note that it stands for. -/
theorem bassOf_figure {c : Chord} {n : Numeral} {f : String} {b : Option Int}
    (few : c.root.alter.natAbs ≤ 3) (figured : n.Figured) (hf : n.figure = some f)
    (h : bassOf c (some n.bass) = .ok b) :
    ∃ place, (f, place) ∈ inversions ∧ (place = 3 → f ∈ seventhFigures) ∧
      b = some ((c.root.pitchClass +
        (Bass.memberAt c (Fin.ofNat 7 (2 * place))).semitones) % 12) := by
  obtain ⟨place, hplace, htoken, hroot, hseventh⟩ := figured.bass_eq hf
  have hdistance : Bass.distance? c (some n.bass) = some _ := Bass.distance?_steps htoken
  have hb := bassOf_eq few h
  rw [Option.any_some, hroot, if_neg Bool.false_ne_true, hdistance, Option.map_some] at hb
  exact ⟨place, hplace, hseventh, hb⟩

/-- Under a chord with a third the bass of a figure is a note of the chord. -/
theorem bassOf_mem {c : Chord} {n : Numeral} {p : Int} (few : c.root.alter.natAbs ≤ 3)
    (figured : n.Figured) (third : c.quality.triad ≠ .suspended)
    (seventh : c.quality.isSeventh = n.wantsSeventh)
    (h : bassOf c (some n.bass) = .ok (some p)) :
    ∃ i ∈ c.quality.intervals, p = (c.root.pitchClass + i.semitones) % 12 := by
  cases hf : n.figure with
  | none =>
    rcases figured with ⟨-, hbass⟩ | ⟨f, -, hfigure, -⟩
    · have hroot : rootTokens.contains rootPosition = true := by decide
      rw [bassOf, Option.any_some, hbass, if_pos hroot] at h
      cases h
    · rw [hf] at hfigure
      cases hfigure
  | some f =>
    obtain ⟨place, hplace, hasks, hp⟩ := bassOf_figure few figured hf h
    have hmember := Bass.memberAt_inverted hplace (fun _ => third) fun hthree =>
      seventh.trans (n.wantsSeventh_iff.mpr (.inr (.inl ⟨f, hasks hthree, hf⟩)))
    exact ⟨_, List.mem_of_getElem? hmember, Option.some.inj hp⟩

end Voicing
end Tonality
