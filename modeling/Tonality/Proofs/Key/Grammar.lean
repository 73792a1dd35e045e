import Tonality.Proofs.Key.Name

/-!
Which texts are key names. A key name is written as a tonic, a letter in either case with
an optional sign directly after it, and a word for the mode, with blanks around and
between the two. Reading takes such a text apart and reads no other; and all the tonics
that can be written so head a key, but for E sharp, B sharp and F flat.
-/

namespace Tonality

/-- The character that a letter is read from stands in either case. -/
theorem Letter.cased_of_ofChar? {c : Char} {l : Letter} (h : ofChar? c.toUpper = some l) :
    c = l.char ∨ c = l.char.toLower := by
  have hupper := eq_of_ofChar? h
  unfold Char.toUpper at hupper
  split_ifs at hupper with lower
  · right
    apply Char.ext
    calc c.val = c.val + ('A'.val - 'a'.val) + 32 := by
          rw [UInt32.add_assoc, show 'A'.val - 'a'.val + 32 = 0 from rfl, UInt32.add_zero]
      _ = l.char.val + 32 := by rw [← hupper]
      _ = l.char.toLower.val := by cases l <;> rfl
  · exact .inl hupper

theorem Text.isBlank_of_isLetter {c : Char} (h : isLetter c = true) : isBlank c = false := by
  simp only [isLetter, Bool.or_eq_true, Bool.and_eq_true, decide_eq_true_eq, Char.le_def,
    UInt32.le_iff_toNat_le] at h
  change 97 ≤ c.toNat ∧ c.toNat ≤ 122 ∨ 65 ≤ c.toNat ∧ c.toNat ≤ 90 at h
  exact isBlank_of_visible (by omega) (by omega)

namespace Key

/-- The words for a mode. An upper-case M that stands alone is major, and otherwise case does
not matter. -/
inductive ModeWord : List Char → Mode → Prop
  | lone : ModeWord ['M'] .major
  | major {word : List Char}
      (h : String.ofList (word.map Char.toLower) ∈ ["", "major", "maj"]) : ModeWord word .major
  | minor {word : List Char} (other : word ≠ ['M'])
      (h : String.ofList (word.map Char.toLower) ∈ ["minor", "min", "m"]) : ModeWord word .minor

theorem lookup_modeWords (text : String) (mode : Mode) :
    modeWords.lookup text = some mode ↔
      text ∈ ["", "major", "maj"] ∧ mode = .major ∨ text ∈ ["minor", "min", "m"] ∧ mode = .minor := by
  constructor
  · intro h
    obtain ⟨l₁, l₂, hsplit, -⟩ := List.lookup_eq_some_iff.mp h
    have hmem : (text, mode) ∈ modeWords := by simp [hsplit]
    simpa [modeWords, or_and_right, or_assoc] using hmem
  · rintro (⟨h, rfl⟩ | ⟨h, rfl⟩)
    · simp only [List.mem_cons, List.not_mem_nil, or_false] at h
      rcases h with rfl | rfl | rfl <;> decide
    · simp only [List.mem_cons, List.not_mem_nil, or_false] at h
      rcases h with rfl | rfl | rfl <;> decide

theorem modeOfWord?_eq_some_iff {word : List Char} {mode : Mode} :
    modeOfWord? word = some mode ↔ ModeWord word mode := by
  unfold modeOfWord?
  split_ifs with alone
  · subst alone
    constructor
    · intro h
      obtain rfl := Option.some.inj h
      exact .lone
    · intro h
      cases h with
      | lone => rfl
      | major h => rfl
      | minor other h => exact absurd rfl other
  · rw [lookup_modeWords]
    constructor
    · rintro (⟨h, rfl⟩ | ⟨h, rfl⟩)
      · exact .major h
      · exact .minor alone h
    · intro h
      cases h with
      | lone => exact absurd rfl alone
      | major h => exact .inl ⟨h, rfl⟩
      | minor other h => exact .inr ⟨h, rfl⟩

theorem toLower_head {word : List Char} {texts : List String}
    (htexts : texts.all (fun t => t.toList.head?.all (· == 'm')) = true)
    (h : String.ofList (word.map Char.toLower) ∈ texts) {c : Char} (hc : word.head? = some c) :
    c.toLower = 'm' := by
  have hall := List.all_eq_true.mp htexts _ h
  rw [String.toList_ofList, List.head?_map, hc] at hall
  simpa using hall

/-- No word for a mode begins with a sign. -/
theorem ModeWord.head {word : List Char} {mode : Mode} (h : ModeWord word mode) {c : Char}
    (hc : word.head? = some c) : ¬IsSign c := by
  have hm : c.toLower = 'm' := by
    cases h with
    | lone =>
      obtain rfl := Option.some.inj hc
      rfl
    | major h => exact toLower_head rfl h hc
    | minor other h => exact toLower_head rfl h hc
  rintro (rfl | rfl) <;> exact absurd hm (by decide)

/-- A tonic and a word as they may stand in a text. -/
inductive Spells : List Char → Name → Prop
  | intro {before between after : List Char} {c : Char} {n : Name} (front : Text.Blank before)
      (middle : Text.Blank between) (back : Text.Blank after)
      (letter : c = n.root.letter.char ∨ c = n.root.letter.char.toLower)
      (few : n.root.alter.natAbs ≤ 1) (ascii : n.word.all Text.isLetter = true) :
      Spells (before ++ c :: (signs n.root.alter ++ between ++ n.word) ++ after) n

def Notates (cs : List Char) (r : Root) (mode : Mode) : Prop :=
  ∃ word, Spells cs ⟨r, word⟩ ∧ ModeWord word mode

theorem signs_takeSign (cs : List Char) : signs (takeSign cs).1 ++ (takeSign cs).2 = cs := by
  unfold takeSign
  split <;> rfl

theorem Spells.few {cs : List Char} {n : Name} (h : Spells cs n) : n.root.alter.natAbs ≤ 1 := by
  cases h with
  | intro _ _ _ _ few _ => exact few

theorem spells_of_readName? {cs : List Char} {n : Name} (h : readName? cs = some n) :
    Spells cs n := by
  obtain ⟨before, after, front, back, hcs⟩ := Text.exists_padding cs
  unfold readName? at h
  split at h
  · cases h
  · rename_i c rest hstrip
    cases hletter : Letter.ofChar? c.toUpper with
    | none => simp [hletter] at h
    | some letter =>
      have few := takeSign_alter rest
      have hsigns := signs_takeSign rest
      generalize takeSign rest = taken at h few hsigns
      obtain ⟨alter, tail⟩ := taken
      obtain ⟨between, middle, htail⟩ := Text.exists_append_dropBlanks tail
      simp only [hletter, bind, Option.bind_some] at h
      split_ifs at h with ascii
      obtain rfl := Option.some.inj h
      have spells : Spells
          (before ++ c :: (signs alter ++ between ++ Text.dropBlanks tail) ++ after)
          ⟨⟨letter, alter⟩, Text.dropBlanks tail⟩ :=
        .intro (n := ⟨⟨letter, alter⟩, Text.dropBlanks tail⟩) front middle back
          (Letter.cased_of_ofChar? hletter) few ascii
      rwa [List.append_assoc (signs alter), ← htail, hsigns, ← hstrip, ← hcs] at spells

/-- Blanks in front of a word belong to the text as long as there is a word. -/
theorem tail_of_word {between word : List Char} (middle : Text.Blank between)
    (ascii : word.all Text.isLetter = true) (head : ∀ c, word.head? = some c → ¬IsSign c) :
    Text.dropBlanks (Text.dropBlanksEnd (between ++ word)) = word ∧
      ∀ c, (Text.dropBlanksEnd (between ++ word)).head? = some c → ¬IsSign c := by
  have solid : ∀ c ∈ word, Text.isBlank c = false := fun c hc =>
    Text.isBlank_of_isLetter (List.all_eq_true.mp ascii c hc)
  rcases word.eq_nil_or_concat' with rfl | ⟨front, last, rfl⟩
  · rw [List.append_nil, Text.dropBlanksEnd_of_blank middle]
    exact ⟨rfl, by simp⟩
  · have hend : Text.dropBlanksEnd (between ++ (front ++ [last])) = between ++ (front ++ [last]) :=
      Text.dropBlanksEnd_of_last fun c hc => solid c (by
        rw [← List.append_assoc, List.getLast?_concat] at hc
        simp [Option.some.inj hc])
    have hword : Text.dropBlanks (front ++ [last]) = front ++ [last] :=
      Text.dropBlanks_of_head fun c hc => solid c (List.mem_of_head? hc)
    rw [hend, Text.dropBlanks_append middle, hword]
    refine ⟨rfl, fun c hc => ?_⟩
    rw [List.head?_append] at hc
    cases hbetween : between.head? with
    | none =>
      rw [hbetween] at hc
      exact head c hc
    | some d =>
      rw [hbetween] at hc
      obtain rfl := Option.some.inj hc
      exact not_isSign_of_isBlank (middle d (List.mem_of_head? hbetween))

theorem readName?_of_spells {cs : List Char} {n : Name} (h : Spells cs n)
    (head : ∀ c, n.word.head? = some c → ¬IsSign c) : readName? cs = some n := by
  cases h with
  | @intro before between after c n front middle back letter few ascii =>
    have hletter : Letter.ofChar? c.toUpper = some n.root.letter ∧ Text.isBlank c = false := by
      rcases letter with rfl | rfl <;> cases n.root.letter <;> decide
    obtain ⟨hword, htail⟩ := tail_of_word middle ascii head
    have hstrip : Text.strip (before ++ c :: (signs n.root.alter ++ between ++ n.word) ++ after) =
        c :: (signs n.root.alter ++ Text.dropBlanksEnd (between ++ n.word)) := by
      rw [Text.strip_padded front back, ← List.nil_append (c :: _),
        Text.strip_append_cons hletter.2, List.append_assoc,
        Text.dropBlanksEnd_solid (signs_noBlank n.root.alter)]
      rfl
    rw [readName?, hstrip]
    simp only [hletter.1, bind, Option.bind_some, takeSign_signs few htail, hword, ascii, if_true]
    rfl

/-- The tonics that head no key, though they can be written. -/
def Headless (r : Root) : Prop := r.name = "E#" ∨ r.name = "B#" ∨ r.name = "Fb"

theorem canonical_iff {r : Root} (few : r.alter.natAbs ≤ 1) : r.Canonical ↔ ¬Headless r := by
  obtain ⟨letter, alter⟩ := r
  have hcanonical : (Root.mk letter alter).Canonical ↔
      hasSignature (Root.mk letter alter).note = true := and_iff_right few
  rw [hcanonical, Headless]
  obtain rfl | rfl | rfl : alter = 0 ∨ alter = 1 ∨ alter = -1 := by
    dsimp only at few
    omega
  all_goals cases letter <;> decide

section
variable {s : String} {r : Root} {mode : Mode}

theorem read_notated (h : Notates s.toList r mode) (canonical : r.Canonical) :
    read (some s) = .ok (onRoot r mode) := by
  obtain ⟨word, spells, hword⟩ := h
  rw [read, Option.getD_some, readName?_of_spells spells fun _ => hword.head]
  simp only [modeOfWord?_eq_some_iff.mpr hword, canonical.2, if_true]
  exact ofTonic_name canonical.open mode

theorem notates_of_read_ok {k : Key} (h : read (some s) = .ok k) :
    ∃ r mode, Notates s.toList r mode ∧ r.Canonical := by
  rw [read, Option.getD_some] at h
  split at h
  · cases h
  · rename_i n hname
    split at h
    · cases h
    · rename_i mode hmode
      split_ifs at h with hsignature
      exact ⟨n.root, mode,
        ⟨n.word, spells_of_readName? hname, modeOfWord?_eq_some_iff.mp hmode⟩,
        readName?_alter hname, hsignature⟩

theorem Notates.few (h : Notates s.toList r mode) : r.alter.natAbs ≤ 1 := by
  obtain ⟨word, spells, -⟩ := h
  exact spells.few

theorem Notates.tonal (h : Notates s.toList r mode) : mode.Tonal := by
  obtain ⟨word, -, hword⟩ := h
  cases hword with
  | lone => exact .inl rfl
  | major h => exact .inl rfl
  | minor other h => exact .inr rfl

/-- A tonic alone is a major key. -/
theorem notates_tonic (few : r.alter.natAbs ≤ 1) : Notates r.name.toList r .major := by
  have blank : Text.Blank [] := List.forall_mem_nil _
  have spells : Spells ([] ++ r.letter.char :: (signs r.alter ++ [] ++ []) ++ []) ⟨r, []⟩ :=
    .intro (n := ⟨r, []⟩) blank blank blank (.inl rfl) few rfl
  refine ⟨[], ?_, .major (by decide)⟩
  simpa [Root.name, Root.chars] using spells

end

/-- A text is a key name just when it notates a tonic that heads a key. The key has that tonic
and the mode of the word, its own name names it again, and its tonic names a key on that tonic.
Any other text is refused as a key. -/
theorem named_exactly (s : String) :
    (∀ r mode, Notates s.toList r mode → ¬Headless r →
      ∃ k, read (some s) = .ok k ∧ k.tonic = r.name ∧ k.mode = mode ∧
        read (some k.name) = .ok k ∧ ∃ k', read (some k.tonic) = .ok k' ∧ k'.tonic = k.tonic) ∧
    ((¬∃ r mode, Notates s.toList r mode ∧ ¬Headless r) →
      ∃ e, read (some s) = .error e ∧ e.kind = .key) := by
  constructor
  · intro r mode h heads
    have canonical : r.Canonical := (canonical_iff h.few).mpr heads
    refine ⟨onRoot r mode, read_notated h canonical, tonic_onRoot r mode, mode_onRoot r h.tonal,
      read_name canonical h.tonal, onRoot r .major, ?_, ?_⟩
    · rw [tonic_onRoot]
      exact read_notated (notates_tonic h.few) canonical
    · rw [tonic_onRoot, tonic_onRoot]
  · intro none
    rcases read_cases (some s) with refused | ⟨r, mode, hread, -, -⟩
    · exact refused
    · obtain ⟨r', mode', h, canonical⟩ := notates_of_read_ok hread
      exact absurd ⟨r', mode', h, (canonical_iff h.few).mp canonical⟩ none

theorem named_exactly_gFlatMinor :
    ∃ k, read (some " gb\tMiN\n") = .ok k ∧ k.tonic = "Gb" ∧ k.mode = .minor ∧
      read (some k.name) = .ok k := by
  have front : Text.Blank [' '] := by decide
  have middle : Text.Blank ['\t'] := by decide
  have back : Text.Blank ['\n'] := by decide
  have spells := Spells.intro (c := 'g') (n := ⟨⟨.g, -1⟩, ['M', 'i', 'N']⟩) front middle back
    (.inr rfl) (by decide) rfl
  have notates : Notates " gb\tMiN\n".toList ⟨.g, -1⟩ .minor :=
    ⟨['M', 'i', 'N'], spells, .minor (by decide) (by decide)⟩
  have heads : ¬Headless ⟨.g, -1⟩ := by unfold Headless; decide
  obtain ⟨k, hread, htonic, hmode, hname, -⟩ :=
    (named_exactly " gb\tMiN\n").1 ⟨.g, -1⟩ .minor notates heads
  exact ⟨k, hread, htonic, hmode, hname⟩

end Key
end Tonality
