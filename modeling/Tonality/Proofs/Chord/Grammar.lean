import Tonality.Proofs.Chord.Symbol

/-!
Which texts are chord symbols. Blanks aside, a symbol is a root of at most three like signs with a
suffix behind it that writes a quality, the quality's own suffix or another spelling. No suffix
begins with a sign, so that a text can be cut in one way only and is read as the chord of that
cut. Printing chooses the quality's own suffix and is read back as the same chord.
-/

namespace Tonality

namespace Quality

/-- The suffix is the quality's own or another spelling of it. -/
def Writes (q : Quality) (suffix : String) : Prop := suffix = q.suffix ∨ (suffix, q) ∈ aliases

theorem mem_spellings {q : Quality} {suffix : String} :
    (suffix, q) ∈ (aliases ++ all.map fun q => (q.suffix, q)) ↔ q.Writes suffix := by
  have hown : (suffix, q) ∈ (all.map fun q => (q.suffix, q)) ↔ suffix = q.suffix := by
    rw [List.mem_map]
    constructor
    · rintro ⟨q', -, h⟩
      obtain ⟨rfl, rfl⟩ := Prod.mk.inj h
      rfl
    · rintro rfl
      exact ⟨q, mem_all q, rfl⟩
  rw [List.mem_append, hown, Writes, or_comm]

/-- The other spellings and the suffixes overlap nowhere, so it does not matter that the other
spellings are looked up first. -/
theorem ofSuffix?_eq_some_iff {q : Quality} {suffix : String} :
    ofSuffix? suffix = some q ↔ q.Writes suffix := by
  rw [← mem_spellings]
  constructor
  · intro h
    obtain ⟨before, after, hsplit, -⟩ := List.lookup_eq_some_iff.mp h
    rw [hsplit]
    exact List.mem_append_right _ List.mem_cons_self
  · have hfirst : ∀ p ∈ aliases ++ all.map fun q => (q.suffix, q), ofSuffix? p.1 = some p.2 := by
      decide
    exact hfirst (suffix, q)

theorem Writes.head {q : Quality} {suffix : String} (h : q.Writes suffix) (c : Char)
    (hc : suffix.toList.head? = some c) : ¬IsSign c := by
  intro sign
  obtain ⟨rest, hrest⟩ := List.head?_eq_some_iff.mp hc
  have hread := ofSuffix?_eq_some_iff.mpr h
  rw [← String.ofList_toList (s := suffix), hrest, ofSuffix?_of_sign sign rest] at hread
  cases hread

end Quality

namespace Chord

/-- The text is the root of the chord and then a suffix for its quality. -/
structure Spells (cs : List Char) (c : Chord) (suffix : String) : Prop where
  few : c.root.alter.natAbs ≤ 3
  writes : c.quality.Writes suffix
  text : cs = c.root.chars ++ suffix.toList

theorem take_leading (sign : Char) (cs : List Char) :
    cs.take (leading sign cs) = List.replicate (leading sign cs) sign := by
  have hsigns := List.takeWhile_prefix (l := cs) (· = sign)
  have hfew : leading sign cs ≤ (cs.takeWhile (· = sign)).length := Nat.min_le_right _ _
  have hlength := List.length_take_of_le (hfew.trans hsigns.length_le)
  have hfront : cs.take (leading sign cs) <+: cs.takeWhile (· = sign) :=
    List.prefix_of_prefix_length_le (List.take_prefix _ _) hsigns (hlength.trans_le hfew)
  rw [List.eq_replicate_iff]
  refine ⟨hlength, fun c hc => ?_⟩
  simpa using List.mem_takeWhile_imp (hfront.mem hc)

/-- Nothing is lost between the signs and the suffix. -/
theorem takeSigns_eq (cs : List Char) : signs (takeSigns cs).1 ++ (takeSigns cs).2 = cs := by
  unfold takeSigns
  dsimp only
  split_ifs with sharp
  · rw [signs, if_pos (by omega), Int.toNat_natCast, ← take_leading, List.take_append_drop]
  · rw [signs, if_neg (by omega), Int.neg_neg, Int.toNat_natCast, ← take_leading,
      List.take_append_drop]

section
variable {cs : List Char} {c : Chord} {suffix : String}

theorem spells_of_readChars? (h : readChars? cs = some c) :
    ∃ suffix, Spells (Text.strip cs) c suffix := by
  have few := alter_of_readChars? h
  unfold readChars? at h
  split at h
  · cases h
  · rename_i first rest hstrip
    simp only [bind, Option.bind_eq_some_iff, pure, Option.some.injEq] at h
    obtain ⟨letter, hletter, q, hq, rfl⟩ := h
    refine ⟨_, few, Quality.ofSuffix?_eq_some_iff.mp hq, ?_⟩
    rw [hstrip, Root.chars, String.toList_ofList, Letter.eq_of_ofChar? hletter, List.cons_append,
      takeSigns_eq]

theorem readChars?_of_spells (h : Spells (Text.strip cs) c suffix) : readChars? cs = some c := by
  have hsigns := takeSigns_signs h.writes.head h.few
  have hquality := Quality.ofSuffix?_eq_some_iff.mpr h.writes
  rw [readChars?, h.text, Root.chars, List.cons_append]
  simp only [Letter.ofChar?_char, bind, Option.bind_some, hsigns, String.ofList_toList, hquality,
    pure]

theorem read_eq_ok_iff {s : String} :
    read (some s) = .ok c ↔ readChars? s.toList = some c := by
  rw [read, Option.getD_some]
  cases readChars? s.toList with
  | none => simp [throw, throwThe, MonadExceptOf.throw]
  | some c' => simp [pure, Except.pure]

end

/-- A text is read as a chord just when it spells the chord between its blanks, which it can do in
one way only; any other text is refused. The symbol of a chord is read back as the chord, and so
is the symbol of any chord that was read. -/
theorem spelled_exactly (s : String) :
    (∀ c, read (some s) = .ok c ↔ ∃ suffix, Spells (Text.strip s.toList) c suffix) ∧
    ((¬∃ c suffix, Spells (Text.strip s.toList) c suffix) →
      ∃ e, read (some s) = .error e ∧ e.kind = .theory) ∧
    (∀ c suffix c' suffix', Spells (Text.strip s.toList) c suffix →
      Spells (Text.strip s.toList) c' suffix' → c' = c ∧ suffix' = suffix) ∧
    (∀ c, c.root.alter.natAbs ≤ 3 → read (some c.symbol) = .ok c) ∧
    ∀ c, read (some s) = .ok c → read (some c.symbol) = .ok c := by
  have spelled (c : Chord) :
      read (some s) = .ok c ↔ ∃ suffix, Spells (Text.strip s.toList) c suffix := by
    rw [read_eq_ok_iff]
    exact ⟨spells_of_readChars?, fun ⟨_, h⟩ => readChars?_of_spells h⟩
  refine ⟨spelled, fun none => ?_, fun c suffix c' suffix' h h' => ?_, fun c => read_symbol,
    fun c h => read_symbol (alter_of_read h)⟩
  · cases hread : read (some s) with
    | ok c => exact absurd ⟨c, (spelled c).mp hread⟩ none
    | error e =>
      obtain rfl := read_eq_error hread
      exact ⟨_, rfl, rfl⟩
  · have hsame := (readChars?_of_spells h).symm.trans (readChars?_of_spells h')
    obtain rfl := Option.some.inj hsame
    have htail : suffix.toList = suffix'.toList :=
      List.append_cancel_left (h.text.symm.trans h'.text)
    exact ⟨rfl, (String.toList_inj.mp htail).symm⟩

/-- E flat, half diminished, under another spelling and under its own suffix; a fourth sharp goes
neither into a root nor into a suffix. -/
theorem spelled_exactly_eFlat :
    read (some " Ebø7\n") = .ok ⟨⟨.e, -1⟩, .halfDiminishedSeventh⟩ ∧
    read (some "Ebm7b5") = .ok ⟨⟨.e, -1⟩, .halfDiminishedSeventh⟩ ∧
    ∃ e, read (some "C####") = .error e ∧ e.kind = .theory := by
  obtain ⟨spelled, -, -, -, normal⟩ := spelled_exactly " Ebø7\n"
  obtain ⟨spelled', refused, -⟩ := spelled_exactly "C####"
  have spells : Spells (Text.strip " Ebø7\n".toList) ⟨⟨.e, -1⟩, .halfDiminishedSeventh⟩ "ø7" :=
    ⟨by decide, .inr (by decide), by decide⟩
  have hread := (spelled _).mpr ⟨_, spells⟩
  have hagain := normal _ hread
  have hsymbol : symbol ⟨⟨.e, -1⟩, .halfDiminishedSeventh⟩ = "Ebm7b5" := by decide
  rw [hsymbol] at hagain
  refine ⟨hread, hagain, refused fun ⟨c, h⟩ => ?_⟩
  cases (spelled' c).mpr h

end Chord
end Tonality
