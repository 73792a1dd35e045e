import Mathlib.Tactic.SplitIfs
import Tonality.Meter
import Tonality.Proofs.Text

/-!
Which texts are meters. A meter is written as two fields of digits on the two sides of a
slash, with blanks anywhere around them, and it is accepted when its two numbers are those
of a supported meter. A text of that form whose fields are not too long is read as the two
numbers or refused as a meter, and so is a text of any other form.
-/

namespace Tonality.Meter

/-- Two fields of digits as they may stand in a text. -/
inductive Spells : List Char → List Char → List Char → Prop
  | intro {before beats left right unit after : List Char} (front : Text.Blank before)
      (number : Text.Digits beats) (middle : Text.Blank left) (next : Text.Blank right)
      (value : Text.Digits unit) (back : Text.Blank after) :
      Spells (before ++ (beats ++ (left ++ '/' :: (right ++ (unit ++ after))))) beats unit

section
variable {cs beats unit : List Char}

theorem spells_of_fields? (h : fields? cs = some (beats, unit)) : Spells cs beats unit := by
  unfold fields? at h
  dsimp only at h
  split at h
  · rename_i rest hslash
    split_ifs at h with hbad
    obtain ⟨rfl, rfl⟩ := Prod.mk.inj (Option.some.inj h)
    simp only [Bool.or_eq_true, List.isEmpty_iff, Bool.not_eq_true', List.isEmpty_eq_false_iff,
      not_or, not_not] at hbad
    obtain ⟨⟨hbeats, hunit⟩, hafter⟩ := hbad
    obtain ⟨before, front, hcs⟩ := Text.exists_append_dropBlanks cs
    obtain ⟨left, middle, hleft⟩ :=
      Text.exists_append_dropBlanks ((Text.dropBlanks cs).dropWhile Text.isDigit)
    obtain ⟨right, next, hright⟩ := Text.exists_append_dropBlanks rest
    have number : Text.Digits ((Text.dropBlanks cs).takeWhile Text.isDigit) :=
      ⟨hbeats, fun _ hc => List.mem_takeWhile_imp hc⟩
    have value : Text.Digits ((Text.dropBlanks rest).takeWhile Text.isDigit) :=
      ⟨hunit, fun _ hc => List.mem_takeWhile_imp hc⟩
    have back : Text.Blank ((Text.dropBlanks rest).dropWhile Text.isDigit) :=
      List.dropWhile_eq_nil_iff.mp hafter
    have spells := Spells.intro front number middle next value back
    rwa [List.takeWhile_append_dropWhile, ← hright, ← hslash, ← hleft,
      List.takeWhile_append_dropWhile, ← hcs] at spells
  · cases h

theorem fields?_of_spells (h : Spells cs beats unit) : fields? cs = some (beats, unit) := by
  cases h with
  | @intro before beats left right unit after front number middle next value back =>
    have slash : ∀ c, ('/' :: (right ++ (unit ++ after))).head? = some c →
        Text.isBlank c = false := by
      rintro _ ⟨⟩
      rfl
    have beatsEnd : ∀ c, (left ++ '/' :: (right ++ (unit ++ after))).head? = some c →
        Text.isDigit c = false := by
      intro c hc
      cases left with
      | nil =>
        obtain rfl := Option.some.inj hc
        rfl
      | cons b left =>
        obtain rfl := Option.some.inj hc
        exact Text.isDigit_of_isBlank (middle b List.mem_cons_self)
    have unitEnd : ∀ c, after.head? = some c → Text.isDigit c = false := fun c hc =>
      Text.isDigit_of_isBlank (back c (List.mem_of_head? hc))
    have hafter : after.dropWhile Text.isBlank = [] := List.dropWhile_eq_nil_iff.mpr back
    simp only [fields?, Text.dropBlanks, Text.dropWhile_append_stop front number.head_append,
      Text.takeWhile_append_stop number.digit beatsEnd,
      Text.dropWhile_append_stop number.digit beatsEnd, Text.dropWhile_append_stop middle slash,
      Text.dropWhile_append_stop next value.head_append,
      Text.takeWhile_append_stop value.digit unitEnd,
      Text.dropWhile_append_stop value.digit unitEnd, hafter, number.isEmpty, value.isEmpty]
    rfl

theorem Spells.unique {beats' unit' : List Char} (h : Spells cs beats unit)
    (h' : Spells cs beats' unit') : beats' = beats ∧ unit' = unit := by
  have hfields := fields?_of_spells h'
  rw [fields?_of_spells h] at hfields
  obtain ⟨rfl, rfl⟩ := Prod.mk.inj (Option.some.inj hfields)
  exact ⟨rfl, rfl⟩

end

theorem spells_text (beats unit : Nat) :
    Spells (text ⟨beats, unit⟩).toList (Nat.toDigits 10 beats) (Nat.toDigits 10 unit) := by
  have blank : Text.Blank [] := List.forall_mem_nil _
  have spells := Spells.intro blank (Text.digits_toDigits beats) blank blank
    (Text.digits_toDigits unit) blank
  have htext : (text ⟨beats, unit⟩).toList =
      [] ++ (Nat.toDigits 10 beats ++ ([] ++ '/' :: ([] ++ (Nat.toDigits 10 unit ++ [])))) := by
    simp [text, Int.repr, Nat.repr_eq_ofList_toDigits]
    rfl
  rwa [← htext] at spells

/-- The fields of a text, if it has any, are not too long. -/
def Short (cs : List Char) : Prop :=
  ∀ beats unit, Spells cs beats unit → beats.length ≤ fieldLimit ∧ unit.length ≤ fieldLimit

/-- The numbers of beats that go with a unit. -/
def supported : List (Nat × Nat) :=
  [(2, 2), (2, 4), (3, 4), (4, 4), (5, 4), (7, 4),
   (3, 8), (5, 8), (6, 8), (7, 8), (9, 8), (12, 8)]

def Notates (cs : List Char) (m : Meter) : Prop :=
  ∃ beats unit, Spells cs beats unit ∧
    (Nat.ofDigitChars 10 beats 0, Nat.ofDigitChars 10 unit 0) ∈ supported ∧
    m = ⟨Nat.ofDigitChars 10 beats 0, Nat.ofDigitChars 10 unit 0⟩

theorem mem_supported_iff {beats unit : Nat} :
    (beats, unit) ∈ supported ↔ beats ∈ beatsFor unit := by
  unfold beatsFor
  split <;> simp_all [supported]

theorem check_of_supported {beats unit : Nat} (h : (beats, unit) ∈ supported) (text : String) :
    check beats unit text = .ok ⟨beats, unit⟩ := by
  have hall : ∀ p ∈ supported, ¬(p.1 = 0 ∨ p.2 = 0) ∧ units.contains p.2 = true := by decide
  obtain ⟨hpos, hunit⟩ := hall _ h
  have hbeats : (beatsFor unit).contains beats = true :=
    List.contains_iff_mem.mpr (mem_supported_iff.mp h)
  rw [check, if_neg hpos, hunit, hbeats]
  rfl

theorem check_of_unsupported {beats unit : Nat} (h : (beats, unit) ∉ supported) (text : String) :
    ∃ e, check beats unit text = .error e ∧ e.kind = .meter := by
  unfold check
  split_ifs with hzero hunit hbeats
  · exact ⟨_, rfl, rfl⟩
  · exact ⟨_, rfl, rfl⟩
  · exact ⟨_, rfl, rfl⟩
  · exact absurd (mem_supported_iff.mpr (by simpa using hbeats)) h

theorem readField_of_le {ds : List Char} (h : ds.length ≤ fieldLimit) :
    readField ds = .ok (Nat.ofDigitChars 10 ds 0) := by
  rw [readField, if_neg (Nat.not_lt_of_le h), Text.digitsValue_eq]
  rfl

theorem readField_of_lt {ds : List Char} (h : fieldLimit < ds.length) :
    readField ds = .error .meterFieldTooLong := if_pos h

section
variable {s : String} {beats unit : List Char}

theorem read_of_spells (h : Spells s.toList beats unit) :
    read s = (do check (← readField beats) (← readField unit) s) := by
  rw [read, fields?_of_spells h]

theorem read_of_not_spells (h : ¬∃ beats unit, Spells s.toList beats unit) :
    read s = .error (.unreadableMeter s) := by
  unfold read
  split
  · rfl
  · rename_i beats unit hfields
    exact absurd ⟨beats, unit, spells_of_fields? hfields⟩ h

theorem read_of_short (short : Short s.toList) (h : Spells s.toList beats unit) :
    read s = check (Nat.ofDigitChars 10 beats 0) (Nat.ofDigitChars 10 unit 0) s := by
  obtain ⟨hbeats, hunit⟩ := short beats unit h
  rw [read_of_spells h, readField_of_le hbeats, readField_of_le hunit]
  rfl

theorem read_of_long (long : ¬Short s.toList) : read s = .error .meterFieldTooLong := by
  simp only [Short, not_forall, not_and_or, Nat.not_le] at long
  obtain ⟨beats, unit, h, hlong⟩ := long
  rw [read_of_spells h]
  rcases Nat.lt_or_ge fieldLimit beats.length with hbeats | hbeats
  · rw [readField_of_lt hbeats]
    rfl
  · have hunit := hlong.resolve_left (Nat.not_lt_of_le hbeats)
    rw [readField_of_le hbeats, readField_of_lt hunit]
    rfl

end

section
variable {s : String} {m : Meter}

theorem read_of_notates (short : Short s.toList) (h : Notates s.toList m) : read s = .ok m := by
  obtain ⟨beats, unit, spells, hmem, rfl⟩ := h
  rw [read_of_short short spells, check_of_supported hmem]

theorem read_of_not_notates (short : Short s.toList) (h : ¬∃ m, Notates s.toList m) :
    ∃ e, read s = .error e ∧ e.kind = .meter := by
  by_cases hspells : ∃ beats unit, Spells s.toList beats unit
  · obtain ⟨beats, unit, spells⟩ := hspells
    rw [read_of_short short spells]
    exact check_of_unsupported (fun hmem => h ⟨_, beats, unit, spells, hmem, rfl⟩) s
  · exact ⟨_, read_of_not_spells hspells, rfl⟩

theorem notates_of_read (h : read s = .ok m) : Notates s.toList m := by
  by_cases short : Short s.toList
  · by_cases hnotates : ∃ m, Notates s.toList m
    · obtain ⟨m', h'⟩ := hnotates
      rw [read_of_notates short h'] at h
      rwa [← Except.ok.inj h]
    · obtain ⟨e, he, -⟩ := read_of_not_notates short hnotates
      rw [he] at h
      cases h
  · rw [read_of_long short] at h
    cases h

/-- A meter in use is written so that it is read again. -/
theorem notates_text {beats unit : Nat} (h : (beats, unit) ∈ supported) :
    Notates (text ⟨beats, unit⟩).toList ⟨beats, unit⟩ :=
  ⟨_, _, spells_text beats unit, by simpa only [Nat.ofDigitChars_ten_toDigits] using h,
    by simp only [Nat.ofDigitChars_ten_toDigits]⟩

theorem short_text {beats unit : Nat} (hbeats : (Nat.toDigits 10 beats).length ≤ fieldLimit)
    (hunit : (Nat.toDigits 10 unit).length ≤ fieldLimit) : Short (text ⟨beats, unit⟩).toList := by
  intro beats' unit' h
  obtain ⟨rfl, rfl⟩ := (spells_text beats unit).unique h
  exact ⟨hbeats, hunit⟩

theorem read_text (h : Notates s.toList m) : read m.text = .ok m := by
  obtain ⟨beats, unit, -, hmem, rfl⟩ := h
  have hsmall : ∀ p ∈ supported, (Nat.toDigits 10 p.1).length ≤ fieldLimit ∧
      (Nat.toDigits 10 p.2).length ≤ fieldLimit := by decide
  obtain ⟨hbeats, hunit⟩ := hsmall _ hmem
  exact read_of_notates (short_text hbeats hunit) (notates_text hmem)

end

/-- Of the texts whose fields are not too long, those that notate a supported meter are read as
that meter, and all others are refused as meters; and the text of a meter that was read is read
as the same meter. -/
theorem read_exactly {s : String} (short : Short s.toList) :
    (∀ m, read s = .ok m ↔ Notates s.toList m) ∧
      ((¬∃ m, Notates s.toList m) → ∃ e, read s = .error e ∧ e.kind = .meter) ∧
      ∀ m, read s = .ok m → read m.text = .ok m :=
  ⟨fun _ => ⟨notates_of_read, read_of_notates short⟩, read_of_not_notates short,
    fun _ h => read_text (notates_of_read h)⟩

theorem read_exactly_twelveEight :
    Short "\t0012 /\u205f08\n".toList ∧ read "\t0012 /\u205f08\n" = .ok ⟨12, 8⟩ ∧
      read (text ⟨12, 8⟩) = .ok ⟨12, 8⟩ := by
  have spells : Spells "\t0012 /\u205f08\n".toList ['0', '0', '1', '2'] ['0', '8'] :=
    spells_of_fields? (by decide)
  have short : Short "\t0012 /\u205f08\n".toList := by
    intro beats unit h
    obtain ⟨rfl, rfl⟩ := spells.unique h
    decide
  obtain ⟨hread, -, hagain⟩ := read_exactly short
  have h := (hread ⟨12, 8⟩).mpr ⟨_, _, spells, by decide, by decide⟩
  exact ⟨short, h, hagain _ h⟩

end Tonality.Meter
