import Tonality.Proofs.Key.Canonical
import Tonality.Proofs.Outcome
import Tonality.Proofs.Voicing.Token
import Tonality.Voicing

/-!
Voicing a chord. A root of at most three signs is placed in one of the three low
octaves, where every note within an octave of it has an exact MIDI number, so the
members sound at the root's number plus their semitones. The bass can only fail
for a fault of theory, and never fails on the tokens that figures stand for.
-/

namespace Tonality

theorem Quality.semitones_mem {q : Quality} {i : Interval} (h : i ∈ q.intervals) :
    0 ≤ i.semitones ∧ i.semitones ≤ 11 := by
  cases q <;> (revert i; decide)

theorem Quality.intervals_triad_subset (q : Quality) : q.triad.intervals ⊆ q.intervals := by
  cases q <;> decide

theorem Quality.head_intervals (q : Quality) : q.intervals.head? = some ⟨.perfect, 0⟩ := by
  cases q <;> rfl

namespace Voicing

/-- The root where it is placed. -/
def rootNote (r : Root) (tonic : Int) : Note :=
  let n := r.inOctave (octaveFor r.pitchClass tonic)
  if n.midi < lowestRoot then r.inOctave (octaveFor r.pitchClass tonic + 1) else n

theorem octaveFor_eq (root tonic : Int) : octaveFor root tonic = 2 ∨ octaveFor root tonic = 3 := by
  unfold octaveFor
  split
  · exact .inr rfl
  · exact .inl rfl

theorem rootNote_eq (r : Root) (tonic : Int) :
    ∃ o, 2 ≤ o ∧ o ≤ 4 ∧ rootNote r tonic = r.inOctave o := by
  have hoctave := octaveFor_eq r.pitchClass tonic
  unfold rootNote
  dsimp only
  split
  · exact ⟨_, by omega, by omega, rfl⟩
  · exact ⟨_, by omega, by omega, rfl⟩

section
variable {r : Root} (few : r.alter.natAbs ≤ 3)
include few

theorem exactHeight_inOctave (o : Int) :
    12 * o + 9 ≤ (r.inOctave o).exactHeight ∧ (r.inOctave o).exactHeight ≤ 12 * o + 26 := by
  have hletter : 0 ≤ r.letter.semitone ∧ r.letter.semitone ≤ 11 := by
    cases r.letter <;> decide
  simp only [Root.inOctave, Note.exactHeight, Option.getD_some]
  omega

theorem placed_inOctave {o : Int} (low : 2 ≤ o) (high : o ≤ 4) : (r.inOctave o).Placed := by
  obtain ⟨hlow, hhigh⟩ := exactHeight_inOctave few o
  exact
    { whole := rfl
      few := Nat.le_succ_of_le few
      octave := rfl
      low := by omega
      high := by unfold Note.highest; omega }

variable (tonic : Int)

theorem placed_rootNote : (rootNote r tonic).Placed := by
  obtain ⟨o, hlow, hhigh, ho⟩ := rootNote_eq r tonic
  rw [ho]
  exact placed_inOctave few hlow hhigh

/-- Three flats on C put the root an octave below the one chosen, and it is lifted back. -/
theorem midi_rootNote_bounds :
    lowestRoot ≤ (rootNote r tonic).midi ∧ (rootNote r tonic).midi ≤ 62 := by
  have hoctave := octaveFor_eq r.pitchClass tonic
  have hplaced : (r.inOctave (octaveFor r.pitchClass tonic)).Placed :=
    placed_inOctave few (by omega) (by omega)
  have hlifted : (r.inOctave (octaveFor r.pitchClass tonic + 1)).Placed :=
    placed_inOctave few (by omega) (by omega)
  obtain ⟨hlow, hhigh⟩ := exactHeight_inOctave few (octaveFor r.pitchClass tonic)
  obtain ⟨hlow', hhigh'⟩ := exactHeight_inOctave few (octaveFor r.pitchClass tonic + 1)
  have hstep : (r.inOctave (octaveFor r.pitchClass tonic + 1)).exactHeight =
      (r.inOctave (octaveFor r.pitchClass tonic)).exactHeight + 12 := by
    simp only [Root.inOctave, Note.exactHeight, Option.getD_some]
    omega
  unfold rootNote lowestRoot
  dsimp only
  rw [hplaced.midi_eq]
  split
  · rw [hlifted.midi_eq]
    omega
  · rw [hplaced.midi_eq]
    omega

theorem midi_rootNote_emod : (rootNote r tonic).midi % 12 = r.pitchClass := by
  obtain ⟨o, -, -, ho⟩ := rootNote_eq r tonic
  rw [(placed_rootNote few tonic).midi_eq, ho, r.pitchClass_eq]
  simp only [Root.inOctave, Root.note, Note.exactHeight, Option.getD_some, Option.getD_none]
  omega

theorem placeRoot_eq : placeRoot r tonic = .ok (rootNote r tonic).name := by
  have hoctave := octaveFor_eq r.pitchClass tonic
  have hplaced : (r.inOctave (octaveFor r.pitchClass tonic)).Placed :=
    placed_inOctave few (by omega) (by omega)
  rw [placeRoot, rootNote]
  simp only [hplaced.readMidi_name, bind, Except.bind]
  split <;> rfl

theorem above_rootNote (i : Interval) :
    i.above (rootNote r tonic).name = .ok ((rootNote r tonic).up i).name := by
  have placed := placed_rootNote few tonic
  obtain ⟨o, -, -, ho⟩ := rootNote_eq r tonic
  have halter : (rootNote r tonic).alter = r.alter := by rw [ho]; rfl
  have htranspose := Note.transpose_eq_up placed.isNear placed.whole (i := i) fun hf => by
    have hfour : (rootNote r tonic).alter = -4 := hf.2.1
    omega
  rw [Interval.above, placed.read_name]
  simp only [bind, Except.bind, htranspose]
  rfl

section
variable {i : Interval} (h : 0 ≤ i.semitones ∧ i.semitones ≤ 11)
include h

theorem placed_up_rootNote : ((rootNote r tonic).up i).Placed := by
  have placed := placed_rootNote few tonic
  have hup := Note.exactHeight_up _ i placed.octave
  obtain ⟨hlow, hhigh⟩ := midi_rootNote_bounds few tonic
  rw [placed.midi_eq] at hlow hhigh
  unfold lowestRoot at hlow
  exact
    { whole := Note.quarter_up placed.whole i
      few := Note.alter_up _ i
      octave := by rw [Note.isSome_octave_up, placed.octave]
      low := by omega
      high := by unfold Note.highest; omega }

theorem midi_up_rootNote :
    ((rootNote r tonic).up i).midi = (rootNote r tonic).midi + i.semitones := by
  have placed := placed_rootNote few tonic
  rw [(placed_up_rootNote few tonic h).midi_eq, placed.midi_eq]
  exact Note.exactHeight_up _ i placed.octave

end

end

section
variable {c : Chord} (few : c.root.alter.natAbs ≤ 3)
include few

theorem bass_kind (bass : Option String) :
    Within [.theory] (fun _ => True) (Bass.pitchClass c bass) := by
  rcases Bass.pitchClass_cases few bass with ⟨_, -, hp⟩ | ⟨-, e, herror, hkind⟩
  · rw [hp]
    trivial
  · rw [herror]
    exact List.mem_singleton.mpr hkind

theorem bassOf_kind (bass : Option String) :
    Within [.theory] (fun _ => True) (bassOf c bass) := by
  have hbass := bass_kind few bass
  unfold bassOf
  split
  · trivial
  · exact hbass.map some fun _ _ => trivial

theorem bassOf_ok {bass : String} (h : bass ∈ ["1", "3", "5", "7"]) :
    ∃ b, bassOf c (some bass) = .ok b := by
  have hstep (steps : Fin 7)
      (hbass : Text.strip bass.toList = [Interval.stepsChar steps])
      (hroot : rootTokens.contains bass = false) : ∃ b, bassOf c (some bass) = .ok b := by
    have hdistance : Bass.distance? c (some bass) = some _ := Bass.distance?_steps hbass
    rw [bassOf, Option.any_some, hroot, Bass.pitchClass_of_distance? few hdistance]
    exact ⟨_, rfl⟩
  simp only [List.mem_cons, List.not_mem_nil, or_false] at h
  rcases h with rfl | rfl | rfl | rfl
  · exact ⟨none, rfl⟩
  · exact hstep 2 (by decide) (by decide)
  · exact hstep 4 (by decide) (by decide)
  · exact hstep 6 (by decide) (by decide)

end

/-- The chord as it sounds with its root near a tonic. -/
def sounding (c : Chord) (tonic : Int) (bass : Option Int) : Voicing :=
  ⟨c.symbol, c.quality.intervals.map fun i => (rootNote c.root tonic).midi + i.semitones,
    c.quality.intervals.map fun i => ((rootNote c.root tonic).up i).name, bass⟩

theorem head?_sounding (c : Chord) (tonic : Int) (bass : Option Int) :
    (sounding c tonic bass).notes.head? = some (rootNote c.root tonic).midi := by
  have hunison : (⟨.perfect, 0⟩ : Interval).semitones = 0 := by decide
  rw [sounding, List.head?_map, c.quality.head_intervals, Option.map_some, hunison, Int.add_zero]

theorem mem_pitchClasses {v : Voicing} {p : Int} :
    p ∈ v.pitchClasses ↔ ∃ note ∈ v.notes, note % 12 = p := by
  constructor
  · intro hp
    simpa using (List.mem_filter.mp hp).2
  · rintro ⟨note, hnote, rfl⟩
    have nonneg := Int.emod_nonneg note (show (12 : Int) ≠ 0 by decide)
    have lt := Int.emod_lt_of_pos note (show (0 : Int) < 12 by decide)
    refine List.mem_filter.mpr ⟨List.mem_map.mpr ⟨(note % 12).toNat, ?_, ?_⟩, ?_⟩
    · rw [List.mem_range]
      omega
    · exact Int.toNat_of_nonneg nonneg
    · exact List.any_eq_true.mpr ⟨note, hnote, beq_self_eq_true _⟩

theorem mem_pitchClasses_sounding {c : Chord} (few : c.root.alter.natAbs ≤ 3) (tonic : Int)
    (bass : Option Int) {p : Int} : p ∈ (sounding c tonic bass).pitchClasses ↔
      ∃ i ∈ c.quality.intervals, p = (c.root.pitchClass + i.semitones) % 12 := by
  rw [mem_pitchClasses, ← midi_rootNote_emod few tonic]
  simp only [Int.emod_add_emod]
  constructor
  · rintro ⟨note, hnote, rfl⟩
    obtain ⟨i, hi, rfl⟩ := List.mem_map.mp hnote
    exact ⟨i, hi, rfl⟩
  · rintro ⟨i, hi, rfl⟩
    exact ⟨_, List.mem_map_of_mem hi, rfl⟩

/-- A chord's intervals ascend, so its members are in order before they are sorted. -/
theorem mergeSort_members (q : Quality) (root : Int) (name : Interval → String) :
    (q.intervals.map fun i => (root + i.semitones, name i)).mergeSort (fun a b => a.1 ≤ b.1) =
      q.intervals.map fun i => (root + i.semitones, name i) := by
  have hsemitones := q.semitones_pairwise
  apply List.mergeSort_of_pairwise
  rw [List.pairwise_map] at hsemitones ⊢
  exact hsemitones.imp fun h => by simpa using Int.le_of_lt h

theorem ofChord_eq {c : Chord} {tonic : String} {t : Int} (few : c.root.alter.natAbs ≤ 3)
    (ht : readPitchClass tonic = .ok t) (bass : Option String) :
    ofChord c bass tonic = (bassOf c bass).map (sounding c t) := by
  have hnames : (c.quality.intervals.mapM fun i => i.above (rootNote c.root t).name) =
      .ok (c.quality.intervals.map fun i => ((rootNote c.root t).up i).name) :=
    mapM_eq_ok fun i _ => above_rootNote few t i
  have hmembers : (c.quality.intervals.map fun i => ((rootNote c.root t).up i).name).mapM
      (fun name => do pure (← readMidi name, name)) =
        .ok (c.quality.intervals.map fun i =>
          ((rootNote c.root t).midi + i.semitones, ((rootNote c.root t).up i).name)) := by
    rw [List.mapM_map]
    refine mapM_eq_ok fun i hi => ?_
    have placed := placed_up_rootNote few t (Quality.semitones_mem hi)
    rw [Function.comp_apply, placed.readMidi_name,
      midi_up_rootNote few t (Quality.semitones_mem hi)]
    rfl
  rw [ofChord, ht]
  simp only [bind, Except.bind] at hmembers ⊢
  rw [placeRoot_eq few]
  simp only [hnames, hmembers, mergeSort_members]
  cases bassOf c bass with
  | error e => rfl
  | ok b => simp [sounding, Except.map, pure, Except.pure]

theorem ofSymbol_tonal {mode : Mode} (tonal : mode.Tonal) (symbol bass : Option String)
    (tonic : String) :
    ofSymbol symbol bass mode tonic = Chord.read symbol >>= fun c => ofChord c bass tonic := by
  rcases tonal with rfl | rfl <;> rfl

end Voicing
end Tonality
