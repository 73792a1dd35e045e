import Tonality.Proofs.Harmony.Resolution
import Tonality.Proofs.Voicing.Bass

/-!
The letters of a chord. In a key with a name no root lies further out among the fifths
than eighteen down and twenty-two up, and no member more than nine from its root, so
that four signs are enough for every member and none has to be spelled plainly. The
letters are then those that the intervals lead to from the letter of the degree.
-/

namespace Tonality

namespace Quality

theorem fifths_mem {q : Quality} {i : Interval} (h : i ∈ q.intervals) :
    -9 ≤ i.fifths ∧ i.fifths ≤ 8 := by
  cases q <;> (revert i; decide)

/-- The letters of a chord on a letter: a third above it, or a fourth if the chord is suspended,
a fifth, and in a seventh chord a seventh. -/
def lettersOn (q : Quality) (l : Letter) : List Letter :=
  [l, l.up (if q.triad = .suspended then 3 else 2), l.up 4] ++ if q.isSeventh then [l.up 6] else []

theorem above_intervals (q : Quality) (l : Letter) : q.intervals.map l.above = q.lettersOn l := by
  have habove : l.above = fun i => l.up i.steps.val := rfl
  have hunison : l.up 0 = l := l.ofIndex_index
  calc q.intervals.map l.above
      = (q.intervals.map Interval.steps).map fun s => l.up s.val := by
        rw [habove, List.map_map]
        rfl
    _ = q.lettersOn l := by
        rw [q.steps_intervals, lettersOn]
        split_ifs <;> simp [hunison]

end Quality

namespace Key

theorem steps_stackOn (mode : Mode) (degree : Fin 7) : (stackOn mode degree).1.steps = degree := by
  cases mode <;> fin_cases degree <;> rfl

theorem scale_onRoot (r : Root) (mode : Mode) (degree : Fin 7) :
    ∃ i, (onRoot r mode).scale[degree.val]? = some (r.up i).name ∧ i.steps = degree ∧
      -4 ≤ i.fifths ∧ i.fifths ≤ 5 := by
  cases mode <;> fin_cases degree <;> exact ⟨_, rfl, rfl, by decide, by decide⟩

end Key

section
variable {r : Root} (canonical : r.Canonical)
include canonical

theorem Root.Canonical.letter_up {i : Interval} (low : -4 ≤ i.fifths) (high : i.fifths ≤ 5) :
    (r.up i).letter = r.letter.up i.steps := by
  obtain ⟨hlow, hhigh⟩ := canonical.fifths_bounds
  exact Root.letter_up (by omega) (by omega)

variable (mode : Mode) (n : Numeral)

theorem Numeral.letter_chordIn :
    (n.chordIn r mode).root.letter = r.letter.up n.base.degree.index := by
  obtain ⟨hlow, hhigh⟩ := Key.fifths_stackOn mode n.base.degree.index
  have hletter := canonical.letter_up hlow hhigh
  rwa [Key.steps_stackOn] at hletter

theorem Numeral.fifths_chordIn :
    -18 ≤ (n.chordIn r mode).root.fifths ∧ (n.chordIn r mode).root.fifths ≤ 22 := by
  obtain ⟨hlow, hhigh⟩ := canonical.fifths_bounds
  obtain ⟨hdown, hup⟩ := Key.fifths_stackOn mode n.base.degree.index
  have hshift : n.base.shift.natAbs ≤ 1 := Sign.shift_natAbs n.base.sign
  have hroot := Key.fifths_chordOn (r := r) (by omega) (by omega) mode n.base.degree.index
  rw [chordIn, Root.fifths_shift, hroot]
  omega

end

namespace Voicing

/-- The names show the letters, and they name what sounds. -/
structure Lettered (v : Voicing) (letters : List Letter) : Prop where
  heads : v.names.map (fun name => name.toList.head?) = letters.map fun l => some l.char
  members : ∃ notes : List Note, notes.map Note.letter = letters ∧
    v.names = notes.map Note.name ∧ v.notes = notes.map Note.midi

theorem sounding_lettered {c : Chord} (low : -18 ≤ c.root.fifths) (high : c.root.fifths ≤ 22)
    (tonic : Int) (bass : Option Int) :
    (sounding c tonic bass).Lettered (c.quality.lettersOn c.root.letter) := by
  have few : c.root.alter.natAbs ≤ 3 := by
    rw [Root.alter_le_iff]
    omega
  obtain ⟨o, -, -, ho⟩ := rootNote_eq c.root tonic
  have hletters : (c.quality.intervals.map (rootNote c.root tonic).up).map Note.letter =
      c.quality.lettersOn c.root.letter := by
    rw [← Quality.above_intervals, List.map_map]
    apply List.map_congr_left
    intro i hi
    obtain ⟨hdown, hup⟩ := Quality.fifths_mem hi
    rw [Function.comp_apply, ho,
      Note.up_eq (n := c.root.inOctave o) (Root.alter_lift_le (by omega) (by omega))]
    rfl
  have hmidi : c.quality.intervals.map (fun i => (rootNote c.root tonic).midi + i.semitones) =
      (c.quality.intervals.map (rootNote c.root tonic).up).map Note.midi := by
    rw [List.map_map]
    apply List.map_congr_left
    intro i hi
    exact (midi_up_rootNote few tonic (Quality.semitones_mem hi)).symm
  have hnames : (sounding c tonic bass).names =
      (c.quality.intervals.map (rootNote c.root tonic).up).map Note.name := by
    rw [List.map_map]
    rfl
  refine ⟨?_, _, hletters, hnames, hmidi⟩
  rw [hnames, ← hletters]
  simp only [List.map_map, Function.comp_def, Note.head?_name]

end Voicing

namespace Resolution

/-- In a key with a name every chord is spelled in thirds, or a fourth and a fifth, above the
letter of the degree. -/
theorem lettered_above_degree {text : String} {name : Option String} {n : Numeral} {home : Key}
    (slashless : '/' ∉ text.toList) (hn : Numeral.read (some text) = .ok n)
    (hhome : Key.read name = .ok home) :
    ∃ r c tone l, ofTexts (some text) name = .ok r ∧
      Chord.read (some r.voicing.symbol) = .ok c ∧
      home.scale[n.base.degree.index.val]? = some tone ∧ tone.toList.head? = some (Letter.char l) ∧
      r.voicing.Lettered (c.quality.lettersOn l) := by
  obtain ⟨r, mode, rfl, canonical, tonal⟩ := Key.read_ok hhome
  obtain ⟨b, log, -, hresult⟩ := ofTexts_slashless slashless hn hhome canonical tonal
  obtain ⟨i, hscale, hsteps, hdown, hup⟩ := Key.scale_onRoot r mode n.base.degree.index
  obtain ⟨hlow, hhigh⟩ := n.fifths_chordIn canonical mode
  have few := (n.realizes_chordIn r mode).alter (spellable_of_canonical canonical mode n)
  refine ⟨_, n.chordIn r mode, _, (n.chordIn r mode).root.letter, hresult,
    Chord.read_symbol few, hscale, ?_, Voicing.sounding_lettered hlow hhigh _ b⟩
  rw [n.letter_chordIn canonical mode, ← hsteps, ← canonical.letter_up hdown hup, ← Root.name_note]
  exact Note.head?_name _

theorem lettered_above_degree_aSharpMinor :
    ∃ r c tone l, ofTexts (some "#VII+7") (some "A# minor") = .ok r ∧
      Chord.read (some r.voicing.symbol) = .ok c ∧
      (Key.onRoot ⟨.a, 1⟩ .minor).scale[6]? = some tone ∧
      tone.toList.head? = some (Letter.char l) ∧ r.voicing.Lettered (c.quality.lettersOn l) := by
  have hread : Numeral.read (some "#VII+7") =
      .ok ⟨"#VII+7", ⟨some .sharp, ⟨6, true⟩, some .plus, true, none⟩, "1", none, none⟩ := rfl
  have hhome : Key.read (some "A# minor") = .ok (Key.onRoot ⟨.a, 1⟩ .minor) := rfl
  exact lettered_above_degree (by decide) hread hhome

end Resolution
end Tonality
