import Mathlib.Tactic.GCongr
import Mathlib.Tactic.SplitIfs
import Tonality.Chord
import Tonality.Proofs.Text

/-!
Chord symbols read back. A symbol printed from a root with at most three signs
is read as the same chord, because no suffix begins with a sign. A root with more
signs leaves signs in front of the suffix, and its symbol is no chord at all.
-/

namespace Tonality

def IsSign (c : Char) : Prop := c = '#' ∨ c = 'b'

theorem Letter.eq_of_ofChar? {c : Char} {l : Letter} (h : ofChar? c = some l) : c = l.char := by
  unfold ofChar? at h
  split at h <;> first | (obtain rfl := Option.some.inj h; rfl) | cases h

theorem signs_noBlank (alter : Int) : ∀ c ∈ signs alter, Text.isBlank c = false := by
  intro c hc
  unfold signs at hc
  split_ifs at hc
  · rw [List.eq_of_mem_replicate hc]
    decide
  · rw [List.eq_of_mem_replicate hc]
    decide

namespace Quality

theorem ofSuffix?_suffix (q : Quality) : ofSuffix? q.suffix = some q := by cases q <;> decide

theorem ofSuffix?_of_sign {c : Char} (h : IsSign c) (cs : List Char) :
    ofSuffix? (String.ofList (c :: cs)) = none := by
  have hheads : ∀ p ∈ aliases ++ all.map fun q => (q.suffix, q),
      p.1.toList.head? ≠ some '#' ∧ p.1.toList.head? ≠ some 'b' := by decide
  rw [ofSuffix?, List.lookup_eq_none_iff]
  intro p hp
  have hp' := hheads p hp
  rw [bne_iff_ne]
  intro hname
  rw [← hname, String.toList_ofList] at hp'
  rcases h with rfl | rfl
  · exact hp'.1 rfl
  · exact hp'.2 rfl

theorem suffix_noBlank (q : Quality) : ∀ c ∈ q.suffix.toList, Text.isBlank c = false := by
  apply Text.noBlank_of_all
  cases q <;> decide

theorem head_suffix (q : Quality) (c : Char) (h : q.suffix.toList.head? = some c) : ¬IsSign c := by
  rintro (rfl | rfl) <;> (revert h; cases q <;> decide)

end Quality

namespace Chord

theorem leading_replicate (s : Char) (n : Nat) {rest : List Char} (h : rest.head? ≠ some s) :
    leading s (List.replicate n s ++ rest) = min 3 n := by
  have hrest : rest.takeWhile (· = s) = [] := by
    cases rest with
    | nil => rfl
    | cons c rest =>
      have hc : c ≠ s := fun hc => h (by rw [hc]; rfl)
      exact List.takeWhile_cons_of_neg (by simpa using hc)
  rw [leading, List.takeWhile_append_of_pos (by simp), hrest]
  simp

theorem leading_of_head {s : Char} {cs : List Char} (h : cs.head? ≠ some s) : leading s cs = 0 := by
  simpa using leading_replicate s 0 h

theorem head_replicate_append {s : Char} {n : Nat} {rest : List Char} {c : Char}
    (h : (List.replicate n s ++ rest).head? = some c) : c = s ∨ rest.head? = some c := by
  cases n with
  | zero => exact .inr h
  | succ n => exact .inl (Option.some.inj h).symm

section
variable {alter : Int} {rest : List Char} (h : ∀ c, rest.head? = some c → ¬IsSign c)
include h

theorem leading_sharp :
    leading '#' (signs alter ++ rest) = if 0 < alter then min 3 alter.toNat else 0 := by
  unfold signs
  split_ifs with hpos
  · exact leading_replicate '#' _ fun hrest => h _ hrest (.inl rfl)
  · apply leading_of_head
    intro hhead
    rcases head_replicate_append hhead with hb | hrest
    · exact absurd hb (by decide)
    · exact h _ hrest (.inl rfl)

theorem leading_flat (hneg : ¬0 < alter) :
    leading 'b' (signs alter ++ rest) = min 3 (-alter).toNat := by
  rw [signs, if_neg hneg]
  exact leading_replicate 'b' _ fun hrest => h _ hrest (.inr rfl)

/-- Up to three signs are taken into the root, and nothing else. -/
theorem takeSigns_signs (few : alter.natAbs ≤ 3) :
    takeSigns (signs alter ++ rest) = (alter, rest) := by
  have hsharp : leading '#' (signs alter ++ rest) = _ := leading_sharp h
  by_cases hpos : 0 < alter
  · rw [if_pos hpos, Nat.min_eq_right (by omega)] at hsharp
    have hdrop : (signs alter ++ rest).drop alter.toNat = rest := by
      rw [signs, if_pos hpos]
      simp
    rw [takeSigns, hsharp, if_pos (by omega), hdrop, Int.toNat_of_nonneg (by omega)]
  · have hflat := leading_flat h hpos
    rw [Nat.min_eq_right (by omega)] at hflat
    have hdrop : (signs alter ++ rest).drop (-alter).toNat = rest := by
      rw [signs, if_neg hpos]
      simp
    rw [if_neg hpos] at hsharp
    rw [takeSigns, hsharp, hflat, if_neg (by omega), hdrop, Int.toNat_of_nonneg (by omega),
      Int.neg_neg]

theorem takeSigns_of_many (many : 3 < alter.natAbs) :
    ∃ c cs, IsSign c ∧ (takeSigns (signs alter ++ rest)).2 = c :: cs := by
  have hsharp : leading '#' (signs alter ++ rest) = _ := leading_sharp h
  by_cases hpos : 0 < alter
  · obtain ⟨k, hk⟩ : ∃ k, alter.toNat = k + 4 := ⟨alter.toNat - 4, by omega⟩
    rw [if_pos hpos, Nat.min_eq_left (by omega)] at hsharp
    refine ⟨'#', List.replicate k '#' ++ rest, .inl rfl, ?_⟩
    rw [takeSigns, hsharp, if_pos (by decide), signs, if_pos hpos, hk]
    simp [List.replicate_succ]
  · obtain ⟨k, hk⟩ : ∃ k, (-alter).toNat = k + 4 := ⟨(-alter).toNat - 4, by omega⟩
    have hflat := leading_flat h hpos
    rw [Nat.min_eq_left (by omega)] at hflat
    rw [if_neg hpos] at hsharp
    refine ⟨'b', List.replicate k 'b' ++ rest, .inr rfl, ?_⟩
    rw [takeSigns, hsharp, hflat, if_neg (by decide), signs, if_neg hpos, hk]
    simp [List.replicate_succ]

end

theorem alter_takeSigns (cs : List Char) : (takeSigns cs).1.natAbs ≤ 3 := by
  unfold takeSigns leading
  dsimp only
  split <;> dsimp only <;> omega

theorem alter_of_readChars? {cs : List Char} {c : Chord} (h : readChars? cs = some c) :
    c.root.alter.natAbs ≤ 3 := by
  unfold readChars? at h
  split at h
  · cases h
  · rename_i rest _
    have halter := alter_takeSigns rest
    simp only [bind, Option.bind_eq_some_iff, pure, Option.some.injEq] at h
    obtain ⟨letter, -, q, -, rfl⟩ := h
    exact halter

theorem alter_of_read {symbol : Option String} {c : Chord} (h : read symbol = .ok c) :
    c.root.alter.natAbs ≤ 3 := by
  unfold read at h
  cases hchord : readChars? (symbol.getD "").toList with
  | none =>
    rw [hchord] at h
    cases h
  | some c' =>
    rw [hchord] at h
    obtain rfl : c' = c := Except.ok.inj h
    exact alter_of_readChars? hchord

theorem read_eq_error {symbol : Option String} {e : Error} (h : read symbol = .error e) :
    e = .unknownChord (Text.shown symbol) := by
  unfold read at h
  split at h
  · cases h
  · exact (Except.error.inj h).symm

theorem toList_symbol (c : Chord) :
    c.symbol.toList = c.root.letter.char :: (signs c.root.alter ++ c.quality.suffix.toList) := by
  simp [symbol, Root.name, Root.chars]

theorem strip_symbol (c : Chord) : Text.strip c.symbol.toList = c.symbol.toList := by
  apply Text.strip_of_noBlank
  intro x hx
  have hletter : Text.isBlank c.root.letter.char = false := by cases c.root.letter <;> decide
  rw [toList_symbol, List.mem_cons, List.mem_append] at hx
  rcases hx with rfl | hx | hx
  · exact hletter
  · exact signs_noBlank _ x hx
  · exact c.quality.suffix_noBlank x hx

theorem readChars?_symbol (c : Chord) :
    readChars? c.symbol.toList =
      let (alter, suffix) := takeSigns (signs c.root.alter ++ c.quality.suffix.toList)
      (Quality.ofSuffix? (String.ofList suffix)).map fun q => ⟨⟨c.root.letter, alter⟩, q⟩ := by
  rw [readChars?, strip_symbol, toList_symbol]
  simp only [Letter.ofChar?_char, bind, Option.bind_some, pure]
  cases Quality.ofSuffix? _ <;> rfl

theorem read_symbol {c : Chord} (few : c.root.alter.natAbs ≤ 3) :
    read (some c.symbol) = .ok c := by
  have hsigns := takeSigns_signs c.quality.head_suffix few
  have hread : readChars? c.symbol.toList = some c := by
    rw [readChars?_symbol, hsigns]
    simp [Quality.ofSuffix?_suffix]
  rw [read, Option.getD_some, hread]
  rfl

theorem read_symbol_of_many {c : Chord} (many : 3 < c.root.alter.natAbs) :
    read (some c.symbol) = .error (.unknownChord c.symbol) := by
  obtain ⟨s, cs, hs, hrest⟩ := takeSigns_of_many c.quality.head_suffix many
  have hread : readChars? c.symbol.toList = none := by
    rw [readChars?_symbol]
    simp only [hrest, Quality.ofSuffix?_of_sign hs cs, Option.map_none]
  rw [read, Option.getD_some, hread]
  rfl

end Chord
end Tonality
