import Mathlib.Tactic.SplitIfs
import Tonality.Chord
import Tonality.Proofs.Text

/-!
Names of notes read back. After the letter the digits are the octave and everything
else is the alteration, so the name of a note with at most four signs is read as that
note, whether it has no octave or one that its digits can count.
-/

namespace Tonality

def alterations : List Int := [-4, -3, -2, -1, 0, 1, 2, 3, 4]

theorem mem_alterations {alter : Int} (few : alter.natAbs ≤ 4) : alter ∈ alterations := by
  simp only [alterations, List.mem_cons, List.not_mem_nil, or_false]
  omega

namespace Note

def dashSigns (alter : Int) : List Char := (signs alter).map fun x => if x = 'b' then '-' else x

theorem readAlter?_dashSigns {alter : Int} (few : alter.natAbs ≤ 4) :
    readAlter? (Text.lowerText (dashSigns alter)) = some (alter, false) := by
  have hall : ∀ alter ∈ alterations,
      readAlter? (Text.lowerText (dashSigns alter)) = some (alter, false) := by decide
  exact hall alter (mem_alterations few)

theorem mem_dashSigns {alter : Int} {c : Char} (h : c ∈ dashSigns alter) : c = '#' ∨ c = '-' := by
  obtain ⟨x, hx, rfl⟩ := List.mem_map.mp h
  unfold signs at hx
  split_ifs at hx
  · rw [List.eq_of_mem_replicate hx]
    exact .inl rfl
  · rw [List.eq_of_mem_replicate hx]
    exact .inr rfl

theorem isDigit_dashSigns {alter : Int} {c : Char} (h : c ∈ dashSigns alter) :
    Text.isDigit c = false := by
  rcases mem_dashSigns h with rfl | rfl <;> decide

section
variable (letter : Letter) (alter : Int) {digits : List Char}
  (digit : ∀ c ∈ digits, Text.isDigit c = true)
include digit

theorem dashed_signs : dashed (letter.char :: (signs alter ++ digits)) =
    letter.char :: (dashSigns alter ++ digits) := by
  have hkept : ∀ c ∈ digits, (if c = 'b' then '-' else c) = id c := by
    intro c hc
    have hb : c ≠ 'b' := by
      rintro rfl
      exact absurd (digit 'b' hc) (by decide)
    exact if_neg hb
  rw [dashed, List.map_append, List.map_congr_left hkept, List.map_id, dashSigns]

theorem strip_signs : Text.strip (letter.char :: (dashSigns alter ++ digits)) =
    letter.char :: (dashSigns alter ++ digits) := by
  apply Text.strip_of_noBlank
  intro c hc
  rw [List.mem_cons, List.mem_append] at hc
  rcases hc with rfl | hc | hc
  · cases letter <;> decide
  · rcases mem_dashSigns hc with rfl | rfl <;> decide
  · exact Text.isBlank_of_isDigit (digit c hc)

theorem filter_isDigit_signs : (dashSigns alter ++ digits).filter Text.isDigit = digits := by
  have hsigns : (dashSigns alter).filter Text.isDigit = [] := by
    rw [List.filter_eq_nil_iff]
    intro c hc
    rw [isDigit_dashSigns hc]
    exact Bool.false_ne_true
  rw [List.filter_append, hsigns, List.filter_eq_self.mpr digit, List.nil_append]

theorem filter_not_isDigit_signs :
    ((dashSigns alter ++ digits).filter fun c => !Text.isDigit c) = dashSigns alter := by
  have hsigns : ((dashSigns alter).filter fun c => !Text.isDigit c) = dashSigns alter := by
    rw [List.filter_eq_self]
    intro c hc
    rw [isDigit_dashSigns hc, Bool.not_false]
  have hdigits : (digits.filter fun c => !Text.isDigit c) = [] := by
    rw [List.filter_eq_nil_iff]
    intro c hc
    rw [digit c hc]
    exact Bool.false_ne_true
  rw [List.filter_append, hsigns, hdigits, List.append_nil]

end

/-- Digits after the signs of a name are read as its octave. -/
theorem readChars_signs (letter : Letter) {alter : Int} (few : alter.natAbs ≤ 4)
    {digits : List Char} (digit : ∀ c ∈ digits, Text.isDigit c = true)
    (short : digits.length ≤ octaveLimit) :
    readChars (letter.char :: (signs alter ++ digits)) = .ok ⟨letter, alter,
      if digits.isEmpty then none else some (Text.digitsValue digits), false⟩ := by
  have hletter : Text.isDigit letter.char = false ∧ letter.char.toUpper = letter.char := by
    cases letter <;> decide
  rw [readChars, dashed_signs letter alter digit, strip_signs letter alter digit]
  simp only [filter_isDigit_signs alter digit, filter_not_isDigit_signs alter digit,
    readAlter?_dashSigns few, hletter, Letter.ofChar?_char, Bool.false_eq_true, if_false,
    if_neg (Nat.not_lt.mpr short)]
  rfl

theorem read_name {n : Note} {octave : Nat} (whole : n.quarter = false) (few : n.alter.natAbs ≤ 4)
    (ho : n.octave = some (octave : Int)) (short : (Nat.toDigits 10 octave).length ≤ octaveLimit) :
    read n.name = .ok n := by
  obtain ⟨letter, alter, o, quarter⟩ := n
  obtain rfl : quarter = false := whole
  obtain rfl : o = some (octave : Int) := ho
  have hdigits := Text.digits_toDigits octave
  have hchars : (mk letter alter (some (octave : Int)) false).name.toList =
      letter.char :: (signs alter ++ Nat.toDigits 10 octave) := by
    simp [name, chars, spelling, Int.repr, Nat.repr_eq_ofList_toDigits]
  rw [read, hchars, readChars_signs letter few hdigits.digit short, hdigits.isEmpty,
    Text.digitsValue_toDigits]
  rfl

end Note

theorem Root.read_name {r : Root} (few : r.alter.natAbs ≤ 4) : Note.read r.name = .ok r.note := by
  have hread := Note.readChars_signs r.letter few (List.forall_mem_nil _) (Nat.zero_le _)
  rw [List.append_nil] at hread
  rw [Note.read, name, String.toList_ofList, chars, hread]
  rfl

end Tonality
