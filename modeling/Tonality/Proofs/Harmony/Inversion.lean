import Tonality.Proofs.Harmony.Resolution
import Tonality.Proofs.Numeral.Grammar
import Tonality.Proofs.Voicing.Bass

/-!
Inversions. A figure puts the second, the third or the fourth note of the chord into the
bass, except that a suspended chord has no third for 6 and 65 to find. The way an inversion
is written leaves no other trace: numerals that ask for the same chord sound it alike over
whatever bass they name.
-/

namespace Tonality

theorem Quality.thirdless_suspended (q : Quality) :
    q.triad = .suspended → ∀ i ∈ q.intervals, i.steps ≠ 2 ∧ i.semitones ≠ 4 := by
  cases q <;> decide

namespace Voicing

/-- What a figure makes of a chord. The bass is the note that it stands for, unless that is the
third of a suspended chord. -/
structure Inverted (v : Voicing) (figure : String) (c : Chord) (p : Int) : Prop where
  symbol : Chord.read (some v.symbol) = .ok c
  bass : v.bass = some p
  sounds : p ∈ v.pitchClasses ↔ ¬(c.quality.triad = .suspended ∧ (figure = "6" ∨ figure = "65"))
  note : p ∈ v.pitchClasses →
    ∃ place, (figure, place) ∈ inversions ∧ (v.notes.map (· % 12))[place]? = some p
  seventh : figure ∈ seventhFigures → v.notes.length = 4

section
variable {c : Chord} (few : c.root.alter.natAbs ≤ 3) (tonic : Int) (bass : Option Int)
include few

theorem getElem?_pitches_sounding {place : Nat} {i : Interval}
    (h : c.quality.intervals[place]? = some i) :
    ((sounding c tonic bass).notes.map (· % 12))[place]? =
      some ((c.root.pitchClass + i.semitones) % 12) := by
  rw [← midi_rootNote_emod few tonic]
  simp [sounding, h]

theorem third_not_mem_suspended (h : c.quality.triad = .suspended) :
    (c.root.pitchClass + 4) % 12 ∉ (sounding c tonic bass).pitchClasses := by
  rw [mem_pitchClasses_sounding few]
  rintro ⟨i, hi, hsame⟩
  have hfour := (c.quality.thirdless_suspended h i hi).2
  have hsemitones := Quality.semitones_mem hi
  omega

end

theorem inverted_sounding {c : Chord} {n : Numeral} {f : String} {b : Option Int}
    (few : c.root.alter.natAbs ≤ 3) (figured : n.Figured) (hf : n.figure = some f)
    (seventh : c.quality.isSeventh = n.wantsSeventh) (hb : bassOf c (some n.bass) = .ok b)
    (tonic : Int) : ∃ p, (sounding c tonic b).Inverted f c p := by
  obtain ⟨place, hplace, hfull, hbass⟩ := bassOf_figure few figured hf hb
  have hwants (hasks : f ∈ seventhFigures) : c.quality.isSeventh = true :=
    seventh.trans (n.wantsSeventh_iff.mpr (.inr (.inl ⟨f, hasks, hf⟩)))
  have hone : place = 1 ↔ f = "6" ∨ f = "65" := by
    simp only [inversions, List.mem_cons, List.not_mem_nil, Prod.mk.injEq, or_false] at hplace
    rcases hplace with h | h | h | h | h | h <;> simp [h]
  have hlength (hasks : f ∈ seventhFigures) : (sounding c tonic b).notes.length = 4 := by
    rw [sounding, List.length_map]
    exact beq_iff_eq.mp (hwants hasks)
  -- a chord of thirds has every note that a figure can ask for
  by_cases lost : c.quality.triad = .suspended ∧ place = 1
  · obtain ⟨suspended, rfl⟩ := lost
    have hthird : Bass.memberAt c (Fin.ofNat 7 (2 * 1)) = Interval.natural 2 :=
      Bass.memberAt_of_absent fun i hi => (c.quality.thirdless_suspended suspended i hi).1
    have hmissing := third_not_mem_suspended few tonic b suspended
    rw [hthird, Interval.semitones_natural] at hbass
    refine ⟨_, Chord.read_symbol few, hbass, ?_, fun h => absurd h hmissing, hlength⟩
    exact iff_of_false hmissing fun h => h ⟨suspended, hone.mp rfl⟩
  · have hmember := Bass.memberAt_inverted hplace (fun h suspended => lost ⟨suspended, h⟩)
      fun h => hwants (hfull h)
    refine ⟨_, Chord.read_symbol few, hbass, ?_, fun _ => ⟨place, hplace, ?_⟩, hlength⟩
    · refine iff_of_true ?_ fun h => lost ⟨h.1, hone.mpr h.2⟩
      rw [mem_pitchClasses_sounding few]
      exact ⟨_, List.mem_of_getElem? hmember, rfl⟩
    · exact getElem?_pitches_sounding few tonic b hmember

end Voicing

namespace Numeral

/-- The same request, but for the note in the bass. -/
structure SameChord (n n' : Numeral) : Prop where
  sign : n.base.sign = n'.base.sign
  degree : n.base.degree = n'.base.degree
  token : n.base.token = n'.base.token
  suspension : n.base.suspension = n'.base.suspension
  secondary : n.secondary = n'.secondary
  seventh : n.asksSeventh = n'.asksSeventh

section
variable {n n' : Numeral} (same : n.SameChord n')
include same

theorem SameChord.chordIn_eq (r : Root) (mode : Mode) : n.chordIn r mode = n'.chordIn r mode := by
  have hseventh : n.seventhIn mode = n'.seventhIn mode := by
    rw [seventhIn, seventhIn, wantsSeventh, wantsSeventh, same.seventh, same.token, same.degree]
  have htriad (q : Quality) : n.triadOver q = n'.triadOver q := by
    simp only [triadOver, same.sign, same.degree, same.token, same.suspension]
  simp only [chordIn, qualityIn, hseventh, htriad, Base.shift, same.sign, same.degree]

theorem SameChord.spellable_iff (r : Root) (mode : Mode) :
    n.Spellable (Key.chordOn r mode n.base.degree.index) ↔
      n'.Spellable (Key.chordOn r mode n'.base.degree.index) := by
  simp only [Spellable, Base.shift, same.sign, same.degree]

end

end Numeral

namespace Resolution

/-- A figure inverts the chord that its numeral resolves to, over a target too. Only 6 and 65
under a suspended chord put a note into the bass that the chord does not have. -/
theorem figure_inverts {roman name : Option String} {n : Numeral} {f : String} {r : Resolution}
    (hn : Numeral.read roman = .ok n) (hf : n.figure = some f) (h : ofTexts roman name = .ok r) :
    ∃ c p, r.voicing.Inverted f c p := by
  obtain ⟨home, mode, hhome, canonical, tonal⟩ := reads_of_ofTexts hn h
  obtain ⟨b, few, hb, hvoicing⟩ := ofTexts_ok hn hhome canonical tonal h
  have figured := (Numeral.notates_of_read hn).1.figured hf
  have seventh := n.isSeventh_chordFrom home mode
  rw [hvoicing]
  exact ⟨_, Voicing.inverted_sounding few figured hf seventh hb home.pitchClass⟩

/-- The suspended fourth is there in place of the third that 65 looks for. -/
theorem figure_inverts_suspended :
    ∃ r c p, ofTexts (some "V7sus65/ii") (some "bb minor") = .ok r ∧
      r.voicing.Inverted "65" c p ∧ p ∉ r.voicing.pitchClasses := by
  have hn : Numeral.read (some "V7sus65/ii") =
      .ok ⟨"V7sus", ⟨none, ⟨4, true⟩, none, true, some .sus⟩, "3", some "65", some "ii"⟩ := rfl
  have hr : ∃ r, ofTexts (some "V7sus65/ii") (some "bb minor") = .ok r ∧
      r.voicing.symbol = "G7sus4" := ⟨_, rfl, rfl⟩
  have hc : Chord.read (some "G7sus4") = .ok ⟨⟨.g, 0⟩, .suspendedSeventh⟩ := rfl
  obtain ⟨r, hok, hsymbol⟩ := hr
  obtain ⟨c, p, inverted⟩ := figure_inverts hn rfl hok
  have hread := inverted.symbol
  rw [hsymbol, hc] at hread
  obtain rfl := Except.ok.inj hread
  exact ⟨r, _, p, hok, inverted, fun h => inverted.sounds.mp h ⟨rfl, .inr rfl⟩⟩

section
variable {roman roman' name : Option String} {n n' : Numeral}
  (hn : Numeral.read roman = .ok n) (hn' : Numeral.read roman' = .ok n')
include hn hn'

/-- Numerals with one target, or with none, are resolved in the same key. -/
theorem exists_key {res : Resolution} (h : ofTexts roman name = .ok res)
    (hsame : n'.secondary = n.secondary) :
    ∃ home homeMode r mode, home.Canonical ∧ homeMode.Tonal ∧
      ofTexts roman name = inKeys (Key.onRoot home homeMode) (Key.onRoot r mode) roman n ∧
      ofTexts roman' name = inKeys (Key.onRoot home homeMode) (Key.onRoot r mode) roman' n' := by
  obtain ⟨home, homeMode, hhome, canonical, tonal⟩ := reads_of_ofTexts hn h
  cases hsecondary : n.secondary with
  | none =>
    exact ⟨home, homeMode, home, homeMode, canonical, tonal, ofTexts_of_none hn hhome hsecondary,
      ofTexts_of_none hn' hhome (hsame.trans hsecondary)⟩
  | some target =>
    obtain ⟨t, rfl⟩ := (Numeral.notates_of_read hn).1.target hsecondary
    have hkey := Key.tonicized_onRoot canonical homeMode t.readChars?_text
    refine ⟨home, homeMode, Key.targetRoot home homeMode t, Key.targetMode t, canonical, tonal,
      ?_, ?_⟩
    · rw [ofTexts_of_some hn hhome hsecondary, hkey]
      rfl
    · rw [ofTexts_of_some hn' hhome (hsame.trans hsecondary), hkey]
      rfl

/-- Numerals that ask for the same chord, whichever way their bass is written, sound it alike;
and one without a bass token resolves whenever another of them does. -/
theorem inversions_agree (same : n.SameChord n') :
    (∀ r r', ofTexts roman name = .ok r → ofTexts roman' name = .ok r' →
      r.voicing = { r'.voicing with bass := r.voicing.bass }) ∧
    (n'.Figured → (∃ r, ofTexts roman name = .ok r) → ∃ r', ofTexts roman' name = .ok r') := by
  constructor
  · intro r r' h h'
    obtain ⟨home, homeMode, key, mode, canonical, tonal, hkey, hkey'⟩ :=
      exists_key hn hn' h same.secondary.symm
    rw [hkey] at h
    rw [hkey'] at h'
    obtain ⟨b, -, -, hvoicing⟩ := inKeys_ok tonal hn canonical h
    obtain ⟨b', -, -, hvoicing'⟩ := inKeys_ok tonal hn' canonical h'
    rw [hvoicing, hvoicing', same.chordIn_eq]
    rfl
  · rintro figured ⟨r, h⟩
    obtain ⟨home, homeMode, key, mode, canonical, tonal, hkey, hkey'⟩ :=
      exists_key hn hn' h same.secondary.symm
    rw [hkey] at h
    rw [hkey', inKeys_resolves_iff tonal hn' canonical]
    -- the signs of the chord's roots are the same, and the bass of a figure is always found
    obtain ⟨spellable, -⟩ := (inKeys_resolves_iff tonal hn canonical).mp ⟨r, h⟩
    have spellable' := (same.spellable_iff key mode).mp spellable
    exact ⟨spellable', Voicing.bassOf_ok ((n'.realizes_chordIn key mode).alter spellable')
      figured.bass_mem⟩

end

theorem inversions_agree_related :
    ∃ r r', ofTexts (some "iiø43/bVI") (some "f#") = .ok r ∧
      ofTexts (some "iiø7/bVI") (some "f#") = .ok r' ∧ r.voicing.bass ≠ r'.voicing.bass ∧
      r.voicing = { r'.voicing with bass := r.voicing.bass } := by
  have hn : Numeral.read (some "iiø43/bVI") = .ok
      ⟨"iiø", ⟨none, ⟨1, false⟩, some .slashed, false, none⟩, "5", some "43", some "bVI"⟩ := rfl
  have hn' : Numeral.read (some "iiø7/bVI") = .ok
      ⟨"iiø7", ⟨none, ⟨1, false⟩, some .slashed, true, none⟩, "1", none, some "bVI"⟩ := rfl
  have hr : ∃ r, ofTexts (some "iiø43/bVI") (some "f#") = .ok r ∧ r.voicing.bass = some 10 :=
    ⟨_, rfl, rfl⟩
  have hr' : ∃ r, ofTexts (some "iiø7/bVI") (some "f#") = .ok r ∧ r.voicing.bass = none :=
    ⟨_, rfl, rfl⟩
  obtain ⟨r, hok, hbass⟩ := hr
  obtain ⟨r', hok', hbass'⟩ := hr'
  have agree := (inversions_agree hn hn' ⟨rfl, rfl, rfl, rfl, rfl, rfl⟩).1 r r' hok hok'
  exact ⟨r, r', hok, hok', by simp [hbass, hbass'], agree⟩

end Resolution
end Tonality
