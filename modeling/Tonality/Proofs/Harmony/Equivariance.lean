import Tonality.Proofs.Harmony.Resolution
import Tonality.Proofs.Voicing.Bass

/-!
One numeral in two keys of the same mode. Every step on the way from the tonic to the
chord moves the pitch class by a number of semitones that the numeral and the mode tell,
however the notes are spelled; so the second chord is the first one moved by the
distance between the tonics, and its bass is moved along.
-/

namespace Tonality

namespace Root

/-- The second root has the pitch class some semitones above the first one's. -/
def Transposed (d : Int) (r r' : Root) : Prop := r'.pitchClass = (r.pitchClass + d) % 12

variable {d : Int} {r r' : Root}

theorem Transposed.up (h : r.Transposed d r') (i : Interval) : (r.up i).Transposed d (r'.up i) := by
  unfold Transposed at h ⊢
  rw [pitchClass_up, pitchClass_up, h]
  omega

theorem Transposed.shift (h : r.Transposed d r') (semitones : Int) :
    (r.shift semitones).Transposed d (r'.shift semitones) := by
  unfold Transposed at h ⊢
  rw [pitchClass_shift, pitchClass_shift, h]
  omega

end Root

structure Chord.Transposed (d : Int) (c c' : Chord) : Prop where
  root : c.root.Transposed d c'.root
  quality : c'.quality = c.quality

section
variable {d : Int} {r r' : Root} (h : r.Transposed d r') (mode : Mode)
include h

theorem Key.chordOn_transposed (degree : Fin 7) :
    (chordOn r mode degree).Transposed d (chordOn r' mode degree) := ⟨h.up _, rfl⟩

theorem Key.targetRoot_transposed (t : Target) :
    (targetRoot r mode t).Transposed d (targetRoot r' mode t) :=
  (chordOn_transposed h mode t.degree.index).root.shift t.shift

theorem Numeral.chordIn_transposed (n : Numeral) :
    (n.chordIn r mode).Transposed d (n.chordIn r' mode) :=
  ⟨(Key.chordOn_transposed h mode n.base.degree.index).root.shift n.base.shift, rfl⟩

/-- The key of a target is transposed before the numeral is taken in it. -/
theorem Numeral.chordFrom_transposed (n : Numeral) :
    (n.chordFrom r mode).Transposed d (n.chordFrom r' mode) := by
  unfold chordFrom
  cases n.secondary.bind fun target => Target.readChars? target.toList with
  | none => exact chordIn_transposed h mode n
  | some t => exact chordIn_transposed (Key.targetRoot_transposed h mode t) (Key.targetMode t) n

end

namespace Voicing

/-- The distances between neighbouring notes. -/
def steps (v : Voicing) : List Int := List.zipWith (· - ·) v.notes.tail v.notes

/-- The same chord some semitones higher, octaves aside. -/
structure Transposed (d : Int) (v w : Voicing) : Prop where
  quality : ∃ c c', Chord.read (some v.symbol) = .ok c ∧ Chord.read (some w.symbol) = .ok c' ∧
    c'.quality = c.quality
  length : w.notes.length = v.notes.length
  steps : w.steps = v.steps
  pitchClasses : ∀ p, p ∈ w.pitchClasses ↔ ∃ q ∈ v.pitchClasses, p = (q + d) % 12
  bass : w.bass = v.bass.map fun p => (p + d) % 12

theorem steps_shifted {v w : Voicing} {k : Int} (h : w.notes = v.notes.map (· + k)) :
    w.steps = v.steps := by
  simp only [steps, h, ← List.map_tail, List.zipWith_map, Int.add_sub_add_right]

section
variable {d : Int} {c c' : Chord} (h : c.Transposed d c') (few : c.root.alter.natAbs ≤ 3)
  (few' : c'.root.alter.natAbs ≤ 3)
include h few few'

theorem bassOf_transposed {bass : Option String} {b b' : Option Int}
    (hb : bassOf c bass = .ok b) (hb' : bassOf c' bass = .ok b') :
    b' = b.map fun p => (p + d) % 12 := by
  have hroot : c'.root.pitchClass = (c.root.pitchClass + d) % 12 := h.root
  rw [bassOf_eq few hb, bassOf_eq few' hb', Bass.distance?_congr h.quality, hroot]
  split_ifs
  · rfl
  · cases Bass.distance? c bass with
    | none => rfl
    | some s =>
      simp only [Option.map_some, Option.some.injEq]
      omega

theorem sounding_transposed {b b' : Option Int} (t t' : Int)
    (hb : b' = b.map fun p => (p + d) % 12) :
    (sounding c t b).Transposed d (sounding c' t' b') := by
  have hnotes : (sounding c' t' b').notes = (sounding c t b).notes.map
      (· + ((rootNote c'.root t').midi - (rootNote c.root t).midi)) := by
    simp only [sounding, h.quality, List.map_map]
    apply List.map_congr_left
    intro i _
    simp only [Function.comp_apply]
    omega
  exact
    { quality := ⟨c, c', Chord.read_symbol few, Chord.read_symbol few', h.quality⟩
      length := by rw [hnotes, List.length_map]
      steps := steps_shifted hnotes
      pitchClasses := by
        intro p
        have hroot : c'.root.pitchClass = (c.root.pitchClass + d) % 12 := h.root
        simp only [mem_pitchClasses_sounding few, mem_pitchClasses_sounding few', h.quality, hroot]
        constructor
        · rintro ⟨i, hi, rfl⟩
          exact ⟨_, ⟨i, hi, rfl⟩, by omega⟩
        · rintro ⟨q, ⟨i, hi, rfl⟩, rfl⟩
          exact ⟨i, hi, by omega⟩
      bass := hb }

end

end Voicing

namespace Resolution

/-- Whenever a text resolves in two keys of one mode, the second chord is the first one
transposed by the distance of the tonics. -/
theorem transposed_with_key {roman name name' : Option String} {home home' : Key} {t t' d : Int}
    {r r' : Resolution} (hhome : Key.read name = .ok home) (hhome' : Key.read name' = .ok home')
    (mode : home'.mode = home.mode) (ht : readPitchClass home.tonic = .ok t)
    (ht' : readPitchClass home'.tonic = .ok t') (apart : t' = (t + d) % 12)
    (h : ofTexts roman name = .ok r) (h' : ofTexts roman name' = .ok r') :
    r.voicing.Transposed d r'.voicing := by
  obtain ⟨root, m, rfl, canonical, tonal⟩ := Key.read_ok hhome
  obtain ⟨root', m', rfl, canonical', tonal'⟩ := Key.read_ok hhome'
  rw [Key.mode_onRoot root tonal, Key.mode_onRoot root' tonal'] at mode
  subst mode
  rw [Key.tonic_onRoot, Root.readPitchClass_name canonical.open.1, Except.ok.injEq] at ht
  rw [Key.tonic_onRoot, Root.readPitchClass_name canonical'.open.1, Except.ok.injEq] at ht'
  subst ht ht'
  cases hn : Numeral.read roman with
  | error e =>
    rw [ofTexts, hn] at h
    cases h
  | ok n =>
    obtain ⟨b, few, hb, hv⟩ := ofTexts_ok hn hhome canonical tonal h
    obtain ⟨b', few', hb', hv'⟩ := ofTexts_ok hn hhome' canonical' tonal' h'
    have hroot : root.Transposed d root' := apart
    have hchord := Numeral.chordFrom_transposed hroot m' n
    have hbass := Voicing.bassOf_transposed hchord few few' hb hb'
    rw [hv, hv']
    exact Voicing.sounding_transposed hchord few few' _ _ hbass

theorem transposed_with_key_eFlat_fSharp :
    ∃ r r', ofTexts (some "V43/ii") (some "Eb") = .ok r ∧
      ofTexts (some "V43/ii") (some "F#") = .ok r' ∧ r.voicing.Transposed 3 r'.voicing := by
  have hhome : Key.read (some "Eb") = .ok (Key.onRoot ⟨.e, -1⟩ .major) := rfl
  have hhome' : Key.read (some "F#") = .ok (Key.onRoot ⟨.f, 1⟩ .major) := rfl
  obtain ⟨r, hr⟩ : ∃ r, ofTexts (some "V43/ii") (some "Eb") = .ok r := ⟨_, rfl⟩
  obtain ⟨r', hr'⟩ : ∃ r, ofTexts (some "V43/ii") (some "F#") = .ok r := ⟨_, rfl⟩
  have ht : readPitchClass "Eb" = .ok 3 := rfl
  have ht' : readPitchClass "F#" = .ok 6 := rfl
  exact ⟨r, r', hr, hr', transposed_with_key hhome hhome' rfl ht ht' rfl hr hr'⟩

end Resolution
end Tonality
