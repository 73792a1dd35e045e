import Tonality.Harmony.Tonicization
import Tonality.Proofs.Key.Canonical
import Tonality.Proofs.Numeral.Written

/-!
Degrees taken for keys. Every degree of a key with a name, shifted by a sign or
not, has a root of three signs at most and so heads a key of its own; its place
among the fifths is that of the tonic, moved by the degree and by the sign.
-/

namespace Tonality

theorem Sign.shift_natAbs (s : Option Sign) : (s.elim 0 Sign.shift).natAbs ≤ 1 := by
  rcases s with _ | _ | _ <;> decide

namespace Key

def targetRoot (r : Root) (mode : Mode) (t : Target) : Root :=
  (chordOn r mode t.degree.index).root.shift t.shift

def targetMode (t : Target) : Mode := if t.degree.upper then .major else .minor

theorem targetMode_tonal (t : Target) : (targetMode t).Tonal := by
  unfold targetMode
  split_ifs
  · exact .inl rfl
  · exact .inr rfl

section
variable {r : Root} {mode : Mode} {target : String} {t : Target}
  (h : Target.readChars? target.toList = some t)
include h

theorem tonicized_of_few (few : (chordOn r mode t.degree.index).root.alter.natAbs ≤ 3) :
    tonicized (some (onRoot r mode)) target = ofTonic (targetRoot r mode t).name (targetMode t) := by
  rw [tonicized, h]
  simp only [diatonic?, diatonic_onRoot, Chord.read_symbol few, bind, Except.bind]
  rfl

/-- A chord symbol with four signs is not read. -/
theorem tonicized_of_many (many : 3 < (chordOn r mode t.degree.index).root.alter.natAbs) :
    tonicized (some (onRoot r mode)) target =
      .error (.unknownChord (chordOn r mode t.degree.index).symbol) := by
  rw [tonicized, h]
  simp only [diatonic?, diatonic_onRoot, Chord.read_symbol_of_many many, bind, Except.bind]

end

section
variable {r : Root} (canonical : r.Canonical) (mode : Mode)
include canonical

theorem alter_targetRoot (t : Target) : (targetRoot r mode t).alter.natAbs ≤ 3 := by
  have hroot := alter_chordOn canonical mode t.degree.index
  have hshift := Sign.shift_natAbs t.sign
  simp only [targetRoot, Root.shift, Target.shift]
  omega

theorem fifths_targetRoot (t : Target) :
    (targetRoot r mode t).fifths =
      r.fifths + (stackOn mode t.degree.index).1.fifths + 7 * t.shift := by
  obtain ⟨hlow, hhigh⟩ := canonical.fifths_bounds
  rw [targetRoot, Root.fifths_shift, fifths_chordOn (by omega) (by omega)]

theorem tonicized_onRoot {target : String} {t : Target}
    (h : Target.readChars? target.toList = some t) :
    tonicized (some (onRoot r mode)) target = .ok (onRoot (targetRoot r mode t) (targetMode t)) := by
  rw [tonicized_of_few h (Nat.le_succ_of_le (alter_chordOn canonical mode t.degree.index))]
  exact ofTonic_name (.of_alter (alter_targetRoot canonical mode t)) (targetMode t)

end

end Key
end Tonality
