import Tonality.Harmony.Resolution
import Tonality.Proofs.Harmony.Modification
import Tonality.Proofs.Harmony.Tonicization
import Tonality.Proofs.Voicing

/-!
Numerals resolved in a key. Once both keys are known the outcome depends on the
signs of two roots, that of the chord on the degree and the same after the sign of
the numeral: with three signs at most on each the chord sounds as the numeral asks,
and otherwise a chord symbol cannot be read. In a key with a name both roots are
within two and three signs, so a numeral without a target always resolves.
-/

namespace Tonality

/-- The roots that a numeral passes through over a chord can both be read. -/
def Numeral.Spellable (n : Numeral) (diatonic : Chord) : Prop :=
  diatonic.root.alter.natAbs ≤ 3 ∧ (diatonic.root.shift n.base.shift).alter.natAbs ≤ 3

theorem Numeral.Realizes.alter {n : Numeral} {diatonic c : Chord} (real : n.Realizes diatonic c)
    (spellable : n.Spellable diatonic) : c.root.alter.natAbs ≤ 3 := by
  rw [real.root]
  exact spellable.2

/-- The chord of a numeral, in the key of its target when it has one. -/
def Numeral.chordFrom (n : Numeral) (home : Root) (mode : Mode) : Chord :=
  match n.secondary.bind fun target => Target.readChars? target.toList with
  | none => n.chordIn home mode
  | some t => n.chordIn (Key.targetRoot home mode t) (Key.targetMode t)

theorem Numeral.isSeventh_chordFrom (n : Numeral) (home : Root) (mode : Mode) :
    (n.chordFrom home mode).quality.isSeventh = n.wantsSeventh := by
  unfold chordFrom
  split
  · exact (n.triad_isSeventh_qualityIn _).2
  · exact (n.triad_isSeventh_qualityIn _).2

namespace Resolution

/-- A numeral over the chords of one key, in the register of another. -/
def inKeys (home key : Key) (roman : Option String) (n : Numeral) : Except Error Resolution := do
  let symbol ← key.diatonic n.base.degree.index.val n.written
  let m ← Key.modify (some key) (some symbol) roman n.base.degree.index.val
  let v ← Voicing.ofSymbol (some m.chord.symbol) (some n.bass) home.mode home.tonic
  pure ⟨v, m.log⟩

section
variable {roman name : Option String} {n : Numeral} {home : Key}
  (hn : Numeral.read roman = .ok n) (hhome : Key.read name = .ok home)
include hn hhome

theorem ofTexts_of_none (h : n.secondary = none) :
    ofTexts roman name = inKeys home home roman n := by
  simp only [ofTexts, hn, hhome, h, bind, Except.bind, pure, Except.pure, inKeys]

theorem ofTexts_of_some {target : String} (h : n.secondary = some target) :
    ofTexts roman name = Key.tonicized (some home) target >>= fun key =>
      inKeys home key roman n := by
  simp only [ofTexts, hn, hhome, h, bind, Except.bind, pure, Except.pure, inKeys]

end

section
variable {home r : Root} {homeMode mode : Mode}
  (tonal : homeMode.Tonal) {roman : Option String} {n : Numeral}
  (hn : Numeral.read roman = .ok n)
include tonal

theorem ofSymbol_onRoot (symbol bass : Option String) :
    Voicing.ofSymbol symbol bass (Key.onRoot home homeMode).mode (Key.onRoot home homeMode).tonic =
      Chord.read symbol >>= fun c => Voicing.ofChord c bass home.name := by
  rw [Key.mode_onRoot home tonal, Key.tonic_onRoot]
  exact Voicing.ofSymbol_tonal tonal symbol bass home.name

theorem inKeys_modified (canonical : home.Canonical) {m : Modified}
    (hm : Key.modify (some (Key.onRoot r mode))
      (some (Key.chordOn r mode n.base.degree.index).symbol) roman n.base.degree.index.val = .ok m)
    (few : m.chord.root.alter.natAbs ≤ 3) :
    inKeys (Key.onRoot home homeMode) (Key.onRoot r mode) roman n =
      (Voicing.bassOf m.chord (some n.bass)).map fun b =>
        ⟨Voicing.sounding m.chord home.pitchClass b, m.log⟩ := by
  have htonic : readPitchClass home.name = .ok home.pitchClass :=
    Root.readPitchClass_name canonical.open.1
  rw [inKeys, Key.diatonic_onRoot]
  simp only [bind, Except.bind, hm, ofSymbol_onRoot tonal, Chord.read_symbol few,
    Voicing.ofChord_eq few htonic]
  cases Voicing.bassOf m.chord (some n.bass) <;> rfl

include hn

/-- Only the bass can fail once both roots can be read. -/
theorem inKeys_chordIn (canonical : home.Canonical)
    (spellable : n.Spellable (Key.chordOn r mode n.base.degree.index)) :
    ∃ log, inKeys (Key.onRoot home homeMode) (Key.onRoot r mode) roman n =
      (Voicing.bassOf (n.chordIn r mode) (some n.bass)).map fun b =>
        ⟨Voicing.sounding (n.chordIn r mode) home.pitchClass b, log⟩ := by
  obtain ⟨log, hm⟩ := Key.modify_onRoot spellable.1 hn
  have few := (n.realizes_chordIn r mode).alter spellable
  exact ⟨log, inKeys_modified (m := ⟨n.chordIn r mode, log⟩) tonal canonical hm few⟩

theorem inKeys_of_spellable (canonical : home.Canonical)
    (spellable : n.Spellable (Key.chordOn r mode n.base.degree.index)) :
    ∃ m : Modified, n.Realizes (Key.chordOn r mode n.base.degree.index) m.chord ∧
      inKeys (Key.onRoot home homeMode) (Key.onRoot r mode) roman n =
        (Voicing.bassOf m.chord (some n.bass)).map fun b =>
          ⟨Voicing.sounding m.chord home.pitchClass b, m.log⟩ := by
  obtain ⟨log, hresult⟩ := inKeys_chordIn tonal hn canonical spellable
  exact ⟨⟨n.chordIn r mode, log⟩, n.realizes_chordIn r mode, hresult⟩

theorem inKeys_of_figure (canonical : home.Canonical)
    (spellable : n.Spellable (Key.chordOn r mode n.base.degree.index))
    (figure : n.bass ∈ ["1", "3", "5", "7"]) :
    ∃ (m : Modified) (b : Option Int),
      n.Realizes (Key.chordOn r mode n.base.degree.index) m.chord ∧
      inKeys (Key.onRoot home homeMode) (Key.onRoot r mode) roman n =
        .ok ⟨Voicing.sounding m.chord home.pitchClass b, m.log⟩ := by
  obtain ⟨m, real, hm⟩ := inKeys_of_spellable tonal hn canonical spellable
  obtain ⟨b, hb⟩ := Voicing.bassOf_ok (real.alter spellable) figure
  refine ⟨m, b, real, ?_⟩
  rw [hm, hb]
  rfl

/-- A root with too many signs makes a symbol that is no chord. -/
theorem inKeys_of_not_spellable
    (h : ¬n.Spellable (Key.chordOn r mode n.base.degree.index)) :
    ∃ symbol, inKeys (Key.onRoot home homeMode) (Key.onRoot r mode) roman n =
      .error (.unknownChord symbol) := by
  rw [inKeys, Key.diatonic_onRoot]
  simp only [bind, Except.bind, ofSymbol_onRoot tonal]
  by_cases few : (Key.chordOn r mode n.base.degree.index).root.alter.natAbs ≤ 3
  · -- the chord on the degree is read, so it is the numeral's own sign that is too much
    obtain ⟨log, hm⟩ := Key.modify_onRoot few hn
    have many : 3 < (n.chordIn r mode).root.alter.natAbs :=
      Nat.lt_of_not_le fun hafter => h ⟨few, hafter⟩
    simp only [hm, Chord.read_symbol_of_many many]
    exact ⟨_, rfl⟩
  · rw [Key.modify_of_error (Chord.read_symbol_of_many (Nat.lt_of_not_le few))]
    exact ⟨_, rfl⟩

theorem inKeys_ok (canonical : home.Canonical) {res : Resolution}
    (h : inKeys (Key.onRoot home homeMode) (Key.onRoot r mode) roman n = .ok res) :
    ∃ b, (n.chordIn r mode).root.alter.natAbs ≤ 3 ∧
      Voicing.bassOf (n.chordIn r mode) (some n.bass) = .ok b ∧
      res.voicing = Voicing.sounding (n.chordIn r mode) home.pitchClass b := by
  by_cases spellable : n.Spellable (Key.chordOn r mode n.base.degree.index)
  · obtain ⟨log, hresult⟩ := inKeys_chordIn tonal hn canonical spellable
    obtain ⟨b, hb, rfl⟩ := exists_of_map (hresult.symm.trans h)
    exact ⟨b, (n.realizes_chordIn r mode).alter spellable, hb, rfl⟩
  · obtain ⟨symbol, hrefused⟩ := inKeys_of_not_spellable tonal hn spellable
    rw [h] at hrefused
    cases hrefused

/-- A numeral resolves exactly when its chord has a symbol and its bass can be found. -/
theorem inKeys_resolves_iff (canonical : home.Canonical) :
    (∃ res, inKeys (Key.onRoot home homeMode) (Key.onRoot r mode) roman n = .ok res) ↔
      n.Spellable (Key.chordOn r mode n.base.degree.index) ∧
        ∃ b, Voicing.bassOf (n.chordIn r mode) (some n.bass) = .ok b := by
  by_cases spellable : n.Spellable (Key.chordOn r mode n.base.degree.index)
  · obtain ⟨log, hresult⟩ := inKeys_chordIn tonal hn canonical spellable
    rw [hresult]
    cases Voicing.bassOf (n.chordIn r mode) (some n.bass) <;> simp [spellable, Except.map]
  · obtain ⟨symbol, hrefused⟩ : ∃ symbol, inKeys (Key.onRoot home homeMode) (Key.onRoot r mode)
        roman n = .error (.unknownChord symbol) := inKeys_of_not_spellable tonal hn spellable
    simp [hrefused, spellable]

theorem inKeys_kind (canonical : home.Canonical) :
    Within [.key, .theory] (fun _ => True)
      (inKeys (Key.onRoot home homeMode) (Key.onRoot r mode) roman n) := by
  by_cases h : n.Spellable (Key.chordOn r mode n.base.degree.index)
  · obtain ⟨m, real, hm⟩ := inKeys_of_spellable tonal hn canonical h
    have hbass := Voicing.bassOf_kind (real.alter h) (some n.bass)
    rw [hm]
    exact (hbass.map _ fun _ _ => trivial).weaken (by simp)
  · obtain ⟨symbol, hsymbol⟩ := inKeys_of_not_spellable tonal hn h
    rw [hsymbol]
    exact List.mem_cons_of_mem _ (List.mem_singleton.mpr rfl)

end

theorem ofTexts_of_error {roman name : Option String} {n : Numeral} {e : Error}
    (hn : Numeral.read roman = .ok n) (hname : Key.read name = .error e) :
    ofTexts roman name = .error e := by
  simp only [ofTexts, hn, hname, bind, Except.bind]

theorem reads_of_ofTexts {roman name : Option String} {n : Numeral} {res : Resolution}
    (hn : Numeral.read roman = .ok n) (h : ofTexts roman name = .ok res) :
    ∃ home mode, Key.read name = .ok (Key.onRoot home mode) ∧ home.Canonical ∧ mode.Tonal := by
  rcases Key.read_cases name with ⟨e, hname, -⟩ | ⟨home, mode, hhome, canonical, tonal⟩
  · rw [ofTexts_of_error hn hname] at h
    cases h
  · exact ⟨home, mode, hhome, canonical, tonal⟩

theorem ofTexts_kind (roman name : Option String) :
    Within [.key, .theory] (fun _ => True) (ofTexts roman name) := by
  cases hn : Numeral.read roman with
  | error e =>
    have htheory := Numeral.read_kind roman
    have he : ofTexts roman name = .error e := by
      simp only [ofTexts, hn, bind, Except.bind]
    rw [hn] at htheory
    rw [he]
    exact htheory.weaken (by simp)
  | ok n =>
    rcases Key.read_cases name with ⟨e, hname, hkey⟩ | ⟨home, mode, hname, canonical, tonal⟩
    · rw [ofTexts_of_error hn hname]
      exact List.mem_cons.mpr (.inl hkey)
    · cases hsecondary : n.secondary with
      | none =>
        rw [ofTexts_of_none hn hname hsecondary]
        exact inKeys_kind tonal hn canonical
      | some target =>
        rw [ofTexts_of_some hn hname hsecondary]
        cases ht : Target.readChars? target.toList with
        | none =>
          rw [Key.tonicized, ht]
          exact List.mem_cons_of_mem _ (List.mem_singleton.mpr rfl)
        | some t =>
          -- four signs in the target's key are no harm here, the lemma holds over any root
          rw [Key.tonicized_onRoot canonical mode ht]
          exact inKeys_kind tonal hn canonical

/-- Whatever the two texts are, a chord comes back or a fault of the key or of theory. -/
theorem resolved_or_refused (roman name : Option String) :
    (∃ r, ofTexts roman name = .ok r) ∨
      ∃ e, ofTexts roman name = .error e ∧ (e.kind = .key ∨ e.kind = .theory) := by
  have hkind := ofTexts_kind roman name
  cases h : ofTexts roman name with
  | ok r => exact .inl ⟨r, rfl⟩
  | error e =>
    rw [h] at hkind
    exact .inr ⟨e, rfl, by simpa [Within] using hkind⟩

/-- What a numeral without a target sounds as in a key. The root lies on the degree, moved
by the sign, and the other notes stand above it. -/
structure Sounds (r : Resolution) (text : String) (n : Numeral) (home : Key) (c : Chord)
    (root : Int) : Prop where
  symbol : Chord.read (some r.voicing.symbol) = .ok c
  notes : r.voicing.notes = c.quality.intervals.map fun i => root + i.semitones
  first : r.voicing.notes.head? = some root
  lowest : ∀ note ∈ r.voicing.notes, root ≤ note
  pitchClass : ∃ tonic, readPitchClass home.tonic = .ok tonic ∧
    root % 12 = (tonic + home.mode.offset n.base.degree.index + n.base.shift) % 12
  triad : c.quality.triad =
    n.triadOver (Scale.stackedTriad (Key.stackOn home.mode n.base.degree.index))
  fourth : r.voicing.notes.length = 4 ↔
    '7' ∈ text.toList ∨ (∃ f ∈ seventhFigures, n.figure = some f) ∨
      n.base.token = some .slashed ∨ n.base.token = some .hd

theorem spellable_of_canonical {r : Root} (canonical : r.Canonical) (mode : Mode) (n : Numeral) :
    n.Spellable (Key.chordOn r mode n.base.degree.index) := by
  have hroot := Key.alter_chordOn canonical mode n.base.degree.index
  have hshift := Sign.shift_natAbs n.base.sign
  unfold Numeral.Spellable
  simp only [Root.shift, Base.shift]
  omega

theorem ofTexts_ok {roman name : Option String} {n : Numeral} {home : Root} {mode : Mode}
    {res : Resolution} (hn : Numeral.read roman = .ok n)
    (hhome : Key.read name = .ok (Key.onRoot home mode)) (canonical : home.Canonical)
    (tonal : mode.Tonal) (h : ofTexts roman name = .ok res) :
    ∃ b, (n.chordFrom home mode).root.alter.natAbs ≤ 3 ∧
      Voicing.bassOf (n.chordFrom home mode) (some n.bass) = .ok b ∧
      res.voicing = Voicing.sounding (n.chordFrom home mode) home.pitchClass b := by
  unfold Numeral.chordFrom
  cases hsecondary : n.secondary with
  | none =>
    rw [ofTexts_of_none hn hhome hsecondary] at h
    exact inKeys_ok tonal hn canonical h
  | some target =>
    rw [ofTexts_of_some hn hhome hsecondary] at h
    rw [Option.bind_some]
    cases ht : Target.readChars? target.toList with
    | none =>
      rw [Key.tonicized, ht] at h
      cases h
    | some t =>
      rw [Key.tonicized_onRoot canonical mode ht] at h
      exact inKeys_ok tonal hn canonical h

/-- A numeral without a slash resolves in every key with a name. -/
theorem ofTexts_slashless {text : String} {name : Option String} {n : Numeral} {r : Root}
    {mode : Mode} (slashless : '/' ∉ text.toList) (hn : Numeral.read (some text) = .ok n)
    (hhome : Key.read name = .ok (Key.onRoot r mode)) (canonical : r.Canonical)
    (tonal : mode.Tonal) :
    ∃ b log, Voicing.bassOf (n.chordIn r mode) (some n.bass) = .ok b ∧
      ofTexts (some text) name =
        .ok ⟨Voicing.sounding (n.chordIn r mode) r.pitchClass b, log⟩ := by
  have plain := Numeral.plain_of_read slashless hn
  have spellable := spellable_of_canonical canonical mode n
  obtain ⟨log, hresult⟩ := inKeys_chordIn tonal hn canonical spellable
  obtain ⟨b, hb⟩ := Voicing.bassOf_ok ((n.realizes_chordIn r mode).alter spellable) plain.figured.bass_mem
  rw [hb] at hresult
  exact ⟨b, log, hb, (ofTexts_of_none hn hhome plain.2).trans hresult⟩

/-- A numeral without a slash resolves in every key with a name, to the chord it asks for. -/
theorem slashless_sounds {text : String} {name : Option String} {n : Numeral} {home : Key}
    (slashless : '/' ∉ text.toList) (hn : Numeral.read (some text) = .ok n)
    (hhome : Key.read name = .ok home) :
    ∃ r c root, ofTexts (some text) name = .ok r ∧ r.Sounds text n home c root := by
  obtain ⟨r, mode, rfl, canonical, tonal⟩ := Key.read_ok hhome
  have plain := Numeral.plain_of_read slashless hn
  have spellable := spellable_of_canonical canonical mode n
  obtain ⟨m, b, real, hm⟩ := inKeys_of_figure tonal hn canonical spellable plain.figured.bass_mem
  have few := real.alter spellable
  have hnotes : (Voicing.sounding m.chord r.pitchClass b).notes.length =
      m.chord.quality.intervals.length := List.length_map _
  rw [ofTexts_of_none hn hhome plain.2, hm]
  refine ⟨_, m.chord, (Voicing.rootNote m.chord.root r.pitchClass).midi, rfl, ?_⟩
  exact
    { symbol := Chord.read_symbol few
      notes := rfl
      first := Voicing.head?_sounding m.chord r.pitchClass b
      lowest := by
        intro note hnote
        obtain ⟨i, hi, rfl⟩ := List.mem_map.mp hnote
        have hsemitones := Quality.semitones_mem hi
        omega
      pitchClass := by
        refine ⟨r.pitchClass, ?_, ?_⟩
        · rw [Key.tonic_onRoot]
          exact Root.readPitchClass_name canonical.open.1
        · rw [Voicing.midi_rootNote_emod few, real.root, Root.pitchClass_shift,
            Key.pitchClass_chordOn, Key.mode_onRoot r tonal, Int.emod_add_emod]
      triad := by
        rw [real.triad, Key.mode_onRoot r tonal]
        rfl
      fourth := by
        rw [hnotes, ← beq_iff_eq, ← Quality.isSeventh, real.seventh, Numeral.wantsSeventh_iff,
          Numeral.seven_mem_iff slashless hn] }

theorem slashless_sounds_gMinor :
    ∃ r c root, ofTexts (some "viiø65") (some "Gm") = .ok r ∧
      r.Sounds "viiø65" ⟨"viiø", ⟨none, ⟨6, false⟩, some .slashed, false, none⟩, "3", some "65",
        none⟩ (Key.onRoot ⟨.g, 0⟩ .minor) c root :=
  slashless_sounds (by decide) rfl rfl

end Resolution
end Tonality
