import Tonality.Proofs.Harmony.Relation
import Tonality.Proofs.Key.Name

/-!
A numeral over a target and the same numeral in the target's key. Both ask for the
same chord, since neither the target nor the text as a whole has a part in the choice
of it; the register alone follows a different tonic, so that the notes lie a number of
octaves apart.
-/

namespace Tonality

namespace Voicing

/-- The same chord over the same bass, a number of octaves apart. -/
structure Alike (v w : Voicing) : Prop where
  symbol : v.symbol = w.symbol
  bass : v.bass = w.bass
  pitchClasses : v.pitchClasses = w.pitchClasses
  octaves : ∃ k : Int, v.notes = w.notes.map (· + 12 * k)

theorem pitchClasses_octaves {v w : Voicing} {k : Int} (h : v.notes = w.notes.map (· + 12 * k)) :
    v.pitchClasses = w.pitchClasses := by
  simp [pitchClasses, h, List.any_map, Function.comp_def]

theorem sounding_alike {c : Chord} (few : c.root.alter.natAbs ≤ 3) (tonic tonic' : Int)
    (bass : Option Int) : (sounding c tonic bass).Alike (sounding c tonic' bass) := by
  have hroot : (rootNote c.root tonic).midi % 12 = (rootNote c.root tonic').midi % 12 := by
    rw [midi_rootNote_emod few, midi_rootNote_emod few]
  obtain ⟨k, hk⟩ : ∃ k, (rootNote c.root tonic).midi = (rootNote c.root tonic').midi + 12 * k :=
    ⟨((rootNote c.root tonic).midi - (rootNote c.root tonic').midi) / 12, by omega⟩
  have hnotes : (sounding c tonic bass).notes =
      (sounding c tonic' bass).notes.map (· + 12 * k) := by
    simp only [sounding, List.map_map, hk]
    apply List.map_congr_left
    intro i _
    simp only [Function.comp_apply]
    omega
  exact ⟨rfl, rfl, pitchClasses_octaves hnotes, k, hnotes⟩

end Voicing

namespace Key

/-- The chord is made from base and figure, whatever the target and the text are. -/
theorem modify_agrees {r : Root} {mode : Mode} {roman roman' : Option String} {n : Numeral}
    {secondary : Option String}
    (few : (chordOn r mode n.base.degree.index).root.alter.natAbs ≤ 3)
    (hn : Numeral.read roman = .ok n)
    (hn' : Numeral.read roman' = .ok { n with secondary := secondary }) :
    ∃ m m', modify (some (onRoot r mode)) (some (chordOn r mode n.base.degree.index).symbol) roman
        n.base.degree.index.val = .ok m ∧
      modify (some (onRoot r mode)) (some (chordOn r mode n.base.degree.index).symbol) roman'
        n.base.degree.index.val = .ok m' ∧
      m'.chord = m.chord ∧ n.Realizes (chordOn r mode n.base.degree.index) m.chord := by
  obtain ⟨log, hm⟩ := modify_onRoot few hn
  obtain ⟨log', hm'⟩ := modify_onRoot (n := { n with secondary := secondary }) few hn'
  exact ⟨_, _, hm, hm', rfl, n.realizes_chordIn r mode⟩

end Key

namespace Resolution

/-- Over a target whose key has a name, a numeral gives the chord that it gives in that key. -/
theorem target_agrees {text target : String} {name : Option String} {n : Numeral}
    {home key : Key} (slashless : '/' ∉ text.toList) (hn : Numeral.read (some text) = .ok n)
    (hhome : Key.read name = .ok home) (hkey : Key.tonicized (some home) target = .ok key)
    (named : ∃ k, Key.read (some key.name) = .ok k) :
    ∃ r r', ofTexts (some (text ++ "/" ++ target)) name = .ok r ∧
      ofTexts (some text) (some key.name) = .ok r' ∧ r.voicing.Alike r'.voicing := by
  obtain ⟨r, mode, rfl, canonical, tonal⟩ := Key.read_ok hhome
  cases ht : Target.readChars? target.toList with
  | none =>
    rw [Key.tonicized, ht] at hkey
    cases hkey
  | some t =>
    obtain rfl := Except.ok.inj (hkey.symm.trans (Key.tonicized_onRoot canonical mode ht))
    have tonal' := Key.targetMode_tonal t
    have canonical' := (Key.read_name_iff _ tonal').mp named
    have plain := Numeral.plain_of_read slashless hn
    have spellable := spellable_of_canonical canonical' (Key.targetMode t) n
    obtain ⟨m, m', hm, hm', hchord, real⟩ :=
      Key.modify_agrees spellable.1 hn (Numeral.read_relation slashless hn ht)
    have few := real.alter spellable
    obtain ⟨b, hb⟩ := Voicing.bassOf_ok few plain.figured.bass_mem
    have hrelated := inKeys_modified tonal canonical hm' (hchord ▸ few)
    have hdirect := inKeys_modified tonal' canonical' hm few
    rw [hchord, hb] at hrelated
    rw [hb] at hdirect
    refine ⟨_, _, (ofTexts_related slashless hn ht canonical hhome).trans hrelated,
      (ofTexts_of_none hn (Key.read_name canonical' tonal') plain.2).trans hdirect, ?_⟩
    exact Voicing.sounding_alike few r.pitchClass (Key.targetRoot r mode t).pitchClass b

theorem target_agrees_eFlatMinor :
    ∃ r r', ofTexts (some ("viiø65" ++ "/" ++ "iv")) (some "Bb") = .ok r ∧
      ofTexts (some "viiø65") (some "Eb minor") = .ok r' ∧ r.voicing.Alike r'.voicing := by
  have hread : Numeral.read (some "viiø65") =
      .ok ⟨"viiø", ⟨none, ⟨6, false⟩, some .slashed, false, none⟩, "3", some "65", none⟩ := rfl
  have hhome : Key.read (some "Bb") = .ok (Key.onRoot ⟨.b, -1⟩ .major) := rfl
  have htarget : Target.readChars? "iv".toList = some ⟨none, ⟨3, false⟩⟩ := by decide
  have hkey : Key.tonicized (some (Key.onRoot ⟨.b, -1⟩ .major)) "iv" =
      .ok (Key.onRoot ⟨.e, -1⟩ .minor) :=
    Key.tonicized_onRoot ⟨by decide, by decide⟩ .major htarget
  have named := Key.read_name (r := ⟨.e, -1⟩) ⟨by decide, by decide⟩ (.inr rfl)
  have hname : (Key.onRoot ⟨.e, -1⟩ .minor).name = "Eb minor" := by decide
  have h := target_agrees (by decide) hread hhome hkey ⟨_, named⟩
  rwa [hname] at h

end Resolution
end Tonality
