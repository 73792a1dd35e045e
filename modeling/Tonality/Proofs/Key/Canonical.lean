import Tonality.Key.Name
import Tonality.Proofs.Key.Degrees
import Tonality.Proofs.Pitch.Fifths

/-!
Keys read from names. A name either fails with a fault of the key or gives the
major or minor key on a canonical root: a letter with one sign at most that heads
a key of at most seven signs. The chords of such a key stand on roots with two
signs at most, so a chromatic sign leaves them with three.
-/

namespace Tonality

/-- Roots of the keys that have names. -/
def Root.Canonical (r : Root) : Prop := r.alter.natAbs ≤ 1 ∧ Key.hasSignature r.note = true

theorem Root.Canonical.open {r : Root} (h : r.Canonical) : r.Open :=
  .of_alter (h.1.trans (by decide))

theorem Root.Canonical.fifths_bounds {r : Root} (h : r.Canonical) :
    -7 ≤ r.fifths ∧ r.fifths ≤ 10 := by
  have hsignature : (Key.signature r.note).natAbs ≤ 7 ∨ (Key.signature r.note - 3).natAbs ≤ 7 := by
    simpa [Key.hasSignature] using h.2
  have hfifths : Key.signature r.note = r.fifths := rfl
  omega

theorem Root.Canonical.fifths_le {r : Root} (h : r.Canonical) (other : r ≠ ⟨.a, 1⟩) :
    r.fifths ≤ 9 := by
  obtain ⟨hlow, hhigh⟩ := h.fifths_bounds
  obtain ⟨letter, alter⟩ := r
  have few : alter.natAbs ≤ 1 := h.1
  by_cases hten : (Root.mk letter alter).fifths = 10
  · have hletter := letter.fifths_bounds
    have hplace : letter.fifths + 7 * alter = 10 := hten
    have halter : alter = 1 := by omega
    subst halter
    cases letter <;> first | exact absurd rfl other | exact absurd hten (by decide)
  · omega

def Mode.Tonal (mode : Mode) : Prop := mode = .major ∨ mode = .minor

namespace Key

theorem takeSign_alter (cs : List Char) : (takeSign cs).1.natAbs ≤ 1 := by
  unfold takeSign
  split <;> simp

theorem readName?_alter {cs : List Char} {n : Name} (h : readName? cs = some n) :
    n.root.alter.natAbs ≤ 1 := by
  unfold readName? at h
  split at h
  · cases h
  · rename_i c rest _
    have halter := takeSign_alter rest
    cases hletter : Letter.ofChar? c.toUpper with
    | none => simp [hletter] at h
    | some letter =>
      simp only [hletter, bind, Option.bind_some] at h
      split_ifs at h
      obtain rfl := Option.some.inj h
      exact halter

theorem modeOfWord?_tonal {word : List Char} {mode : Mode} (h : modeOfWord? word = some mode) :
    mode.Tonal := by
  have hwords : ∀ p ∈ modeWords, p.2 = .major ∨ p.2 = .minor := by decide
  unfold modeOfWord? at h
  split_ifs at h
  · exact .inl (Option.some.inj h).symm
  · obtain ⟨l₁, l₂, hsplit, -⟩ := List.lookup_eq_some_iff.mp h
    exact hwords (String.ofList (word.map Char.toLower), mode) (by rw [hsplit]; simp)

/-- A name is refused as a key, or it names the key on a canonical root. -/
theorem read_cases (name : Option String) :
    (∃ e, read name = .error e ∧ e.kind = .key) ∨
      ∃ r mode, read name = .ok (onRoot r mode) ∧ r.Canonical ∧ mode.Tonal := by
  unfold read
  split
  · exact .inl ⟨_, rfl, rfl⟩
  · rename_i n hname
    split
    · exact .inl ⟨_, rfl, rfl⟩
    · rename_i mode hmode
      split_ifs with hsignature
      · have canonical : n.root.Canonical := ⟨readName?_alter hname, hsignature⟩
        exact .inr ⟨n.root, mode, ofTonic_name canonical.open mode, canonical,
          modeOfWord?_tonal hmode⟩
      · exact .inl ⟨_, rfl, rfl⟩

theorem read_ok {name : Option String} {k : Key} (h : read name = .ok k) :
    ∃ r mode, k = onRoot r mode ∧ r.Canonical ∧ mode.Tonal := by
  rcases read_cases name with ⟨e, he, -⟩ | ⟨r, mode, hr, canonical, tonal⟩
  · rw [he] at h
    cases h
  · rw [hr] at h
    exact ⟨r, mode, (Except.ok.inj h).symm, canonical, tonal⟩

theorem mode_onRoot (r : Root) {mode : Mode} (tonal : mode.Tonal) :
    (onRoot r mode).mode = mode := by
  rcases tonal with rfl | rfl <;> rfl

theorem tonic_onRoot (r : Root) (mode : Mode) : (onRoot r mode).tonic = r.name := by
  cases mode <;> rfl

theorem fifths_stackOn (mode : Mode) (degree : Fin 7) :
    -4 ≤ (stackOn mode degree).1.fifths ∧ (stackOn mode degree).1.fifths ≤ 5 := by
  have hminor : ∀ d, -4 ≤ (stackOn .minor d).1.fifths ∧ (stackOn .minor d).1.fifths ≤ 5 := by
    decide
  cases mode with
  | major => revert degree; decide
  | minor => exact hminor degree
  | other name => exact hminor degree

theorem fifths_chordOn {r : Root} (low : -25 ≤ r.fifths) (high : r.fifths ≤ 28) (mode : Mode)
    (degree : Fin 7) :
    (chordOn r mode degree).root.fifths = r.fifths + (stackOn mode degree).1.fifths := by
  obtain ⟨hlow, hhigh⟩ := fifths_stackOn mode degree
  exact Root.fifths_up (by omega) (by omega)

/-- Double sharps and double flats are as far as a key with a name goes. -/
theorem alter_chordOn {r : Root} (canonical : r.Canonical) (mode : Mode) (degree : Fin 7) :
    (chordOn r mode degree).root.alter.natAbs ≤ 2 := by
  obtain ⟨hlow, hhigh⟩ := canonical.fifths_bounds
  obtain ⟨hdown, hup⟩ := fifths_stackOn mode degree
  rw [Root.alter_le_iff, fifths_chordOn (by omega) (by omega)]
  omega

end Key

/-- Semitones of the degrees above the tonic, the leading tone being raised in minor. -/
def Mode.offset (mode : Mode) (degree : Fin 7) : Int :=
  (if mode = .major then [0, 2, 4, 5, 7, 9, 11] else [0, 2, 3, 5, 7, 8, 11]).getD degree.val 0

theorem Key.semitones_stackOn (mode : Mode) (degree : Fin 7) :
    (stackOn mode degree).1.semitones = mode.offset degree := by
  cases mode <;> fin_cases degree <;> rfl

theorem Key.pitchClass_chordOn (r : Root) (mode : Mode) (degree : Fin 7) :
    (chordOn r mode degree).root.pitchClass = (r.pitchClass + mode.offset degree) % 12 := by
  rw [← semitones_stackOn]
  exact r.pitchClass_up _

end Tonality
