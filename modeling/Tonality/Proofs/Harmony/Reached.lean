import Tonality.Proofs.Harmony.Tonicization
import Tonality.Proofs.Key.Form

/-!
Keys reached from keys with names by taking degrees for keys, one after the other. Every
step may add a sign to the tonic; a degree whose root has four signs is refused, so tonics
never have more than four, and of these F with four flats heads no key. All other keys are
well formed: whatever the number of signs is, the scales and the chords of a key follow
its forms.
-/

namespace Tonality.Key

inductive Reached : Key → Prop
  | named {name : Option String} {k : Key} (h : read name = .ok k) : Reached k
  | tonicized {k k' : Key} {target : String} (earlier : Reached k)
      (h : Key.tonicized (some k) target = .ok k') : Reached k'

/-- A major key has the major form, and a minor key its three forms, of which the natural one
is its own. -/
inductive WellFormed : Key → Prop
  | major {tonic : Root} {v : Variant} (few : tonic.alter.natAbs ≤ 4)
      (own : v.HasForm tonic .major) :
      WellFormed { tonic := tonic.name, mode := .major, scale := v.scale, chords := v.chords }
  | minor {tonic : Root} {natural harmonic melodic : Variant} (few : tonic.alter.natAbs ≤ 4)
      (own : natural.HasForm tonic .naturalMinor)
      (raised : harmonic.HasForm tonic .harmonicMinor)
      (ascending : melodic.HasForm tonic .melodicMinor) :
      WellFormed
        { tonic := tonic.name, mode := .minor, scale := natural.scale, chords := natural.chords,
          natural := some natural, harmonic := some harmonic, melodic := some melodic }

theorem wellFormed_onRoot {r : Root} (few : r.alter.natAbs ≤ 4) {mode : Mode}
    (tonal : mode.Tonal) : (onRoot r mode).WellFormed := by
  rcases tonal with rfl | rfl
  · exact .major few (Scale.onRoot_hasForm few .major)
  · exact .minor few (Scale.onRoot_hasForm few .naturalMinor)
      (Scale.onRoot_hasForm few .harmonicMinor) (Scale.onRoot_hasForm few .melodicMinor)

theorem ofTonic_fourFlats {mode : Mode} (tonal : mode.Tonal) :
    ofTonic (Root.name ⟨.f, -4⟩) mode = .error (.noSpecifier "Perfect" 5) := by
  rcases tonal with rfl | rfl <;> rfl

theorem ofTonic_ok {r : Root} (few : r.alter.natAbs ≤ 4) {mode : Mode} (tonal : mode.Tonal)
    {k : Key} (h : ofTonic r.name mode = .ok k) : r.Open ∧ k = onRoot r mode := by
  by_cases flats : r.letter = .f ∧ r.alter = -4
  · obtain ⟨letter, alter⟩ := r
    obtain ⟨rfl, rfl⟩ := flats
    rw [ofTonic_fourFlats tonal] at h
    cases h
  · rw [ofTonic_name ⟨few, flats⟩] at h
    exact ⟨⟨few, flats⟩, (Except.ok.inj h).symm⟩

theorem tonicized_ok {r : Root} {mode : Mode} {target : String} {k : Key}
    (h : tonicized (some (onRoot r mode)) target = .ok k) :
    ∃ r' mode', k = onRoot r' mode' ∧ r'.Open ∧ mode'.Tonal := by
  cases hread : Target.readChars? target.toList with
  | none =>
    rw [tonicized, hread] at h
    cases h
  | some t =>
    by_cases few : (chordOn r mode t.degree.index).root.alter.natAbs ≤ 3
    · have hshift := Sign.shift_natAbs t.sign
      have four : (targetRoot r mode t).alter.natAbs ≤ 4 := by
        simp only [targetRoot, Root.shift, Target.shift]
        omega
      rw [tonicized_of_few hread few] at h
      obtain ⟨given, hk⟩ := ofTonic_ok four (targetMode_tonal t) h
      exact ⟨targetRoot r mode t, targetMode t, hk, given, targetMode_tonal t⟩
    · rw [tonicized_of_many hread (Nat.lt_of_not_le few)] at h
      cases h

theorem Reached.onRoot {k : Key} (h : Reached k) :
    ∃ r mode, k = Key.onRoot r mode ∧ r.Open ∧ mode.Tonal := by
  induction h with
  | named h =>
    obtain ⟨r, mode, hk, canonical, tonal⟩ := read_ok h
    exact ⟨r, mode, hk, canonical.open, tonal⟩
  | tonicized _ h ih =>
    obtain ⟨r, mode, rfl, -, -⟩ := ih
    exact tonicized_ok h

/-- However many degrees were taken for keys on the way, the key that was reached has its tonic
at the head of its scales, every degree in its place and the right triad on it. -/
theorem reached_wellFormed {k : Key} (h : Reached k) : k.WellFormed := by
  obtain ⟨r, mode, rfl, given, tonal⟩ := h.onRoot
  exact wellFormed_onRoot given.1 tonal

theorem reached_wellFormed_fourSharps :
    ∃ k, Reached k ∧ k.tonic = "D####" ∧
      k.scale = ["D####", "E####", "Bb", "G####", "A####", "B####", "F"] ∧ k.WellFormed := by
  have hhome : read (some "A#") = .ok (onRoot ⟨.a, 1⟩ .major) := rfl
  have hseventh : tonicized (some (onRoot ⟨.a, 1⟩ .major)) "#VII" =
      .ok (onRoot ⟨.g, 3⟩ .major) := rfl
  have hfifth : tonicized (some (onRoot ⟨.g, 3⟩ .major)) "#V" =
      .ok (onRoot ⟨.d, 4⟩ .major) := rfl
  have reached := Reached.tonicized (.tonicized (.named hhome) hseventh) hfifth
  exact ⟨_, reached, rfl, rfl, reached_wellFormed reached⟩

end Tonality.Key
