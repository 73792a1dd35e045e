import Tonality.Proofs.Key.Canonical
import Tonality.Proofs.Voicing

/-!
The register in which a chord sounds. Its root comes to stand within two octaves and a
tone above the lowest root, the other members above it by their intervals, and all
names are read back as the notes they were given for. None of this depends on the mode
or on the bass: a bass that can be found is only added to it.
-/

namespace Tonality.Voicing

structure RootPosition (v : Voicing) (c : Chord) (root : Int) : Prop where
  first : v.notes.head? = some root
  pitchClass : root % 12 = c.root.pitchClass
  low : 36 ≤ root
  high : root ≤ 62
  length : v.notes.length = c.quality.intervals.length
  notes : v.notes = c.quality.intervals.map fun i => root + i.semitones
  ascending : v.notes.Pairwise (· < ·)
  register : ∀ note ∈ v.notes, 36 ≤ note ∧ note ≤ 73
  names : v.names.mapM readMidi = .ok v.notes

section
variable {c : Chord} (few : c.root.alter.natAbs ≤ 3) (tonic : Int) (bass : Option Int)

theorem ascending_sounding : (sounding c tonic bass).notes.Pairwise (· < ·) := by
  have hsemitones := c.quality.semitones_pairwise
  unfold sounding
  rw [List.pairwise_map] at hsemitones ⊢
  exact hsemitones.imp fun h => Int.add_lt_add_left h _

include few

theorem names_sounding :
    (sounding c tonic bass).names.mapM readMidi = .ok (sounding c tonic bass).notes := by
  unfold sounding
  dsimp only
  rw [List.mapM_map]
  refine mapM_eq_ok fun i hi => ?_
  have hsemitones := Quality.semitones_mem hi
  rw [Function.comp_apply, (placed_up_rootNote few tonic hsemitones).readMidi_name,
    midi_up_rootNote few tonic hsemitones]

theorem rootPosition_sounding :
    (sounding c tonic bass).RootPosition c (rootNote c.root tonic).midi := by
  obtain ⟨hlow, hhigh⟩ := midi_rootNote_bounds few tonic
  exact
    { first := head?_sounding c tonic bass
      pitchClass := midi_rootNote_emod few tonic
      low := hlow
      high := hhigh
      length := List.length_map _
      notes := rfl
      ascending := ascending_sounding tonic bass
      register := by
        intro note hnote
        obtain ⟨i, hi, rfl⟩ := List.mem_map.mp hnote
        have hsemitones := Quality.semitones_mem hi
        unfold lowestRoot at hlow
        omega
      names := names_sounding few tonic bass }

end

theorem bassOf_eq_none {c : Chord} {bass : Option String} {b : Option Int}
    (h : bassOf c bass = .ok b) :
    b = none ↔ bass = some "1" ∨ bass = some "1P" ∨ bass = some "P1" := by
  have htokens : bass.any rootTokens.contains = true ↔
      bass = some "1" ∨ bass = some "1P" ∨ bass = some "P1" := by
    cases bass <;> simp [rootTokens]
  rw [← htokens]
  unfold bassOf at h
  split_ifs at h with hroot
  · obtain rfl : none = b := Except.ok.inj h
    simp [hroot]
  · obtain ⟨p, -, rfl⟩ := exists_of_map h
    simp [hroot]

theorem ofSymbol_eq {symbol : Option String} {c : Chord} {tonic : String} {t : Int} {mode : Mode}
    (hc : Chord.read symbol = .ok c) (ht : readPitchClass tonic = .ok t) (tonal : mode.Tonal)
    (bass : Option String) :
    ofSymbol symbol bass mode tonic = (bassOf c bass).map (sounding c t) := by
  rw [ofSymbol_tonal tonal, hc, ← ofChord_eq (Chord.alter_of_read hc) ht bass]
  rfl

theorem exists_sounding {symbol bass : Option String} {mode : Mode} {tonic : String} {v : Voicing}
    (h : ofSymbol symbol bass mode tonic = .ok v) :
    ∃ c t b, c.root.alter.natAbs ≤ 3 ∧ v = sounding c t b := by
  have tonal : mode.Tonal := by
    cases mode with
    | major => exact .inl rfl
    | minor => exact .inr rfl
    | other name => cases h
  rw [ofSymbol_tonal tonal] at h
  obtain ⟨c, hc, hvoicing⟩ := exists_of_bind h
  have few := Chord.alter_of_read hc
  obtain ⟨t, ht, -⟩ := exists_of_bind (x := readPitchClass tonic) hvoicing
  rw [ofChord_eq few ht] at hvoicing
  obtain ⟨b, -, rfl⟩ := exists_of_map hvoicing
  exact ⟨c, t, b, few, rfl⟩

/-- A chord sounds in root position in the low register, one and the same for every mode and
every bass that can be found, and the bass is left open exactly by the tokens of root position. -/
theorem ofSymbol_rootPosition {symbol : Option String} {c : Chord} {tonic : String} {t : Int}
    (hc : Chord.read symbol = .ok c) (ht : readPitchClass tonic = .ok t) :
    ∃ (v : Voicing) (root : Int), ∀ mode : Mode, mode.Tonal → ∀ bass : Option String,
      ((∃ w, ofSymbol symbol bass mode tonic = .ok w) ↔ ∃ b, bassOf c bass = .ok b) ∧
      ∀ w, ofSymbol symbol bass mode tonic = .ok w →
        w.RootPosition c root ∧ w = { v with bass := w.bass } ∧
          (w.bass = none ↔ bass = some "1" ∨ bass = some "1P" ∨ bass = some "P1") := by
  have few := Chord.alter_of_read hc
  refine ⟨sounding c t none, (rootNote c.root t).midi, fun mode tonal bass => ?_⟩
  rw [ofSymbol_eq hc ht tonal]
  cases hb : bassOf c bass with
  | error e => simp [Except.map]
  | ok b =>
    refine ⟨⟨fun _ => ⟨b, rfl⟩, fun _ => ⟨_, rfl⟩⟩, fun w hw => ?_⟩
    obtain rfl : sounding c t b = w := Except.ok.inj hw
    exact ⟨rootPosition_sounding few t b, rfl, bassOf_eq_none hb⟩

/-- The root would come to stand below the lowest one and is lifted, and the seventh, which
would need five flats, is spelled plainly. -/
theorem ofSymbol_rootPosition_lifted :
    ∃ w, ofSymbol (some "Cbbbdim7") (some "b3") .minor "C" = .ok w ∧
      w.RootPosition ⟨⟨.c, -3⟩, .diminishedSeventh⟩ 45 ∧
      w.names = ["Cbbb3", "Ebbbb3", "Gbbbb3", "F#3"] ∧ w.bass = some 0 := by
  have hc : Chord.read (some "Cbbbdim7") = .ok ⟨⟨.c, -3⟩, .diminishedSeventh⟩ := rfl
  have ht : readPitchClass "C" = .ok 0 := rfl
  have hb : bassOf ⟨⟨.c, -3⟩, .diminishedSeventh⟩ (some "b3") = .ok (some 0) := rfl
  have hw := ofSymbol_eq hc ht (.inr rfl : Mode.minor.Tonal) (some "b3")
  rw [hb] at hw
  obtain ⟨v, root, h⟩ := ofSymbol_rootPosition hc ht
  obtain ⟨-, hall⟩ := h .minor (.inr rfl) (some "b3")
  obtain ⟨position, -, -⟩ := hall _ hw
  have hroot : (rootNote ⟨.c, -3⟩ 0).midi = 45 := by decide
  have hfirst := (head?_sounding _ _ _).symm.trans position.first
  rw [hroot, Option.some.injEq] at hfirst
  subst hfirst
  exact ⟨_, hw, position, by decide, rfl⟩

end Tonality.Voicing
