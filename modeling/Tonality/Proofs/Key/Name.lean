import Tonality.Proofs.Key.Canonical
import Tonality.Proofs.Text

/-!
A key's own name read as a key name. Only one sign is taken after the letter, so
the tonic of a key that has more is not read, and the name of any other key is read
as its tonic and mode. A key whose name is accepted is the key that it names.
-/

namespace Tonality.Key

theorem toList_name (r : Root) {mode : Mode} (tonal : mode.Tonal) :
    (onRoot r mode).name.toList =
      r.letter.char :: (signs r.alter ++ ' ' :: mode.name.toList) := by
  simp [name, tonic_onRoot, mode_onRoot r tonal, Root.name, Root.chars]

theorem strip_name (r : Root) {mode : Mode} (tonal : mode.Tonal) :
    Text.strip (onRoot r mode).name.toList = (onRoot r mode).name.toList := by
  have hletter : Text.isBlank r.letter.char = false := by cases r.letter <;> decide
  have hmode : mode.name.toList.getLast? = some 'r' := by rcases tonal with rfl | rfl <;> decide
  rw [toList_name r tonal]
  apply Text.strip_of_ends
  · intro c hc
    rwa [← Option.some.inj hc]
  · intro c hc
    rw [List.getLast?_cons, List.getLast?_append, List.getLast?_cons, hmode] at hc
    obtain rfl : 'r' = c := by simpa using hc
    decide

theorem takeSign_of_head {cs : List Char} (h : ∀ c, cs.head? = some c → ¬IsSign c) :
    takeSign cs = (0, cs) := by
  unfold takeSign
  split
  · exact absurd (.inl rfl) (h '#' rfl)
  · exact absurd (.inr rfl) (h 'b' rfl)
  · rfl

theorem takeSign_signs {alter : Int} (few : alter.natAbs ≤ 1) {rest : List Char}
    (h : ∀ c, rest.head? = some c → ¬IsSign c) :
    takeSign (signs alter ++ rest) = (alter, rest) := by
  obtain rfl | rfl | rfl : alter = 0 ∨ alter = 1 ∨ alter = -1 := by omega
  · exact takeSign_of_head h
  · rfl
  · rfl

theorem not_isSign_of_isBlank {c : Char} (h : Text.isBlank c = true) : ¬IsSign c := by
  rintro (rfl | rfl) <;> revert h <;> decide

/-- The second sign is not taken. -/
theorem takeSign_of_many {alter : Int} (many : 1 < alter.natAbs) (rest : List Char) :
    ∃ c cs, (c = '#' ∨ c = 'b') ∧ (takeSign (signs alter ++ ' ' :: rest)).2 = c :: cs ∧
      ' ' ∈ cs := by
  by_cases hpos : 0 < alter
  · obtain ⟨k, hk⟩ : ∃ k, alter.toNat = k + 2 := ⟨alter.toNat - 2, by omega⟩
    refine ⟨'#', List.replicate k '#' ++ ' ' :: rest, .inl rfl, ?_, by simp⟩
    simp [signs, hpos, hk, List.replicate_succ, takeSign]
  · obtain ⟨k, hk⟩ : ∃ k, (-alter).toNat = k + 2 := ⟨(-alter).toNat - 2, by omega⟩
    refine ⟨'b', List.replicate k 'b' ++ ' ' :: rest, .inr rfl, ?_, by simp⟩
    simp [signs, hpos, hk, List.replicate_succ, takeSign]

theorem readName?_name (r : Root) {mode : Mode} (tonal : mode.Tonal) :
    readName? (onRoot r mode).name.toList =
      if r.alter.natAbs ≤ 1 then some ⟨r, mode.name.toList⟩ else none := by
  have hletter : Letter.ofChar? r.letter.char.toUpper = some r.letter := by
    cases r.letter <;> decide
  rw [readName?, strip_name r tonal, toList_name r tonal]
  simp only [hletter, bind, Option.bind_some]
  by_cases few : r.alter.natAbs ≤ 1
  · have hword : mode.name.toList.all Text.isLetter = true ∧
        Text.dropBlanks (' ' :: mode.name.toList) = mode.name.toList := by
      rcases tonal with rfl | rfl <;> decide
    have hblank : ∀ c, (' ' :: mode.name.toList).head? = some c → ¬IsSign c := by
      intro c hc
      obtain rfl := Option.some.inj hc
      exact not_isSign_of_isBlank Text.isBlank_space
    rw [takeSign_signs few hblank, if_pos few]
    simp only [hword.2, hword.1, if_true]
    rfl
  · obtain ⟨c, cs, hsign, htake, hblank⟩ :=
      takeSign_of_many (Nat.lt_of_not_le few) mode.name.toList
    have hdrop : Text.dropBlanks (c :: cs) = c :: cs := Text.dropBlanks_of_head fun d hd => by
      obtain rfl := Option.some.inj hd
      rcases hsign with rfl | rfl <;> decide
    have hword : (c :: cs).all Text.isLetter = false := by
      rw [List.all_eq_false]
      exact ⟨' ', List.mem_cons_of_mem c hblank, by decide⟩
    rw [if_neg few]
    simp only [htake, hdrop, hword, Bool.false_eq_true, if_false]

theorem modeOfWord?_name {mode : Mode} (tonal : mode.Tonal) :
    modeOfWord? mode.name.toList = some mode := by
  rcases tonal with rfl | rfl <;> decide

theorem read_name {r : Root} {mode : Mode} (canonical : r.Canonical) (tonal : mode.Tonal) :
    read (some (onRoot r mode).name) = .ok (onRoot r mode) := by
  rw [read, Option.getD_some, readName?_name r tonal, if_pos canonical.1]
  simp only [modeOfWord?_name tonal, canonical.2, if_true]
  exact ofTonic_name canonical.open mode

/-- The name of a key is accepted just when its tonic is one that names have. -/
theorem read_name_iff (r : Root) {mode : Mode} (tonal : mode.Tonal) :
    (∃ k, read (some (onRoot r mode).name) = .ok k) ↔ r.Canonical := by
  constructor
  · rintro ⟨k, h⟩
    have hmode := modeOfWord?_name tonal
    rw [read, Option.getD_some, readName?_name r tonal] at h
    by_cases few : r.alter.natAbs ≤ 1
    · rw [if_pos few] at h
      simp only [hmode] at h
      by_cases hsignature : hasSignature r.note = true
      · exact ⟨few, hsignature⟩
      · rw [if_neg hsignature] at h
        cases h
    · rw [if_neg few] at h
      cases h
  · intro canonical
    exact ⟨_, read_name canonical tonal⟩

end Tonality.Key
