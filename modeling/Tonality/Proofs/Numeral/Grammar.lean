import Tonality.Proofs.Numeral.Base

/-!
The grammar of numerals. An accepted text, less the blanks around it, is a base with
its figure, or those before a slash and a target, or a base alone before a slash and a
bass; blanks may stand next to the slash. What is written of the base is the text of
its parts, and nothing else unless a line break stands between base and figure.
-/

namespace Tonality

namespace Numeral

inductive Notates (n : Numeral) : List Char → Prop
  | alone (figured : n.Figured) (single : n.secondary = none) : Notates n n.front
  | related {before after : List Char} (t : Target) (figured : n.Figured)
      (target : n.secondary = some t.text) (blank : Text.Blank before ∧ Text.Blank after) :
      Notates n (n.front ++ before ++ '/' :: (after ++ t.text.toList))
  | over {before after : List Char} (plain : n.figure = none) (single : n.secondary = none)
      (given : n.bass ≠ "") (blank : Text.Blank before ∧ Text.Blank after) :
      Notates n (n.written.toList ++ before ++ '/' :: (after ++ n.bass.toList))

/-- What is written of the base is its text, up to a line break that a figure hides. -/
theorem written_eq {n : Numeral} (h : n.Rereads)
    (bare : n.figure = none → Text.strip n.written.toList = n.written.toList) :
    n.written = n.base.text ∨ n.written = n.base.text ++ "\n" ∧ n.figure.isSome = true := by
  obtain ⟨line, hline, hwritten⟩ := Base.readChars?_eq h
  rw [← String.toList_inj, ← String.toList_inj, hwritten]
  cases hfigure : n.figure with
  | none =>
    have hnone : line = [] := hline.eq_nil (by rw [← hwritten]; exact bare hfigure)
    simp [hnone]
  | some f => rcases hline with rfl | rfl <;> simp

theorem splitSlash?_eq_some {cs head tail : List Char} (h : splitSlash? cs = some (head, tail)) :
    cs = head ++ '/' :: tail := by
  have hcs : cs = cs.takeWhile (· ≠ '/') ++ cs.dropWhile (· ≠ '/') :=
    List.takeWhile_append_dropWhile.symm
  unfold splitSlash? at h
  cases hrest : cs.dropWhile (· ≠ '/') with
  | nil => simp only [hrest] at h; cases h
  | cons c rest =>
    have hslash : c = '/' := by
      have hc := List.head?_dropWhile_not (· ≠ '/') cs
      rw [hrest] at hc
      simpa using hc
    simp only [hrest, Option.some.injEq, Prod.mk.injEq] at h
    rw [hrest, hslash] at hcs
    rw [← h.1, ← h.2]
    exact hcs

/-- Stripped text is read whole, or the stripped sides of its first slash are. -/
theorem readStripped_ok {cs : List Char} {n : Numeral} (h : readStripped cs = .ok n) :
    readFigured? cs = some n ∨ ∃ head tail, cs = head ++ '/' :: tail ∧ Text.strip head ≠ [] ∧
      Text.strip tail ≠ [] ∧ readSlashed? (Text.strip head) (Text.strip tail) = some n := by
  unfold readStripped at h
  split_ifs at h
  cases hsplit : splitSlash? cs with
  | none =>
    cases hread : readFigured? cs with
    | none => simp only [hsplit, hread] at h; cases h
    | some n' =>
      simp only [hsplit, hread] at h
      exact .inl (congrArg some (Except.ok.inj h))
  | some sides =>
    obtain ⟨head, tail⟩ := sides
    refine .inr ⟨head, tail, splitSlash?_eq_some hsplit, ?_⟩
    simp only [hsplit] at h
    split_ifs at h with hempty
    rw [Bool.or_eq_true, List.isEmpty_iff, List.isEmpty_iff, not_or] at hempty
    refine ⟨hempty.1, hempty.2, ?_⟩
    cases hread : readSlashed? (Text.strip head) (Text.strip tail) with
    | none => simp only [hread] at h; cases h
    | some n' =>
      simp only [hread] at h
      exact congrArg some (Except.ok.inj h)

theorem readSlashed?_ok {head tail : List Char} {n : Numeral}
    (h : readSlashed? head tail = some n) (solid : Text.strip tail = tail) :
    n.Rereads ∧
      ((∃ t : Target, n.Figured ∧ n.secondary = some t.text ∧ head = n.front ∧
          tail = t.text.toList) ∨
        n.figure = none ∧ n.secondary = none ∧ head = n.written.toList ∧ tail = n.bass.toList) := by
  unfold readSlashed? at h
  cases ht : Target.readChars? tail with
  | some t =>
    obtain ⟨line, hline, htail⟩ := Target.readChars?_eq ht
    have hnone : line = [] := hline.eq_nil (by rw [← htail]; exact solid)
    rw [hnone, List.append_nil] at htail
    rw [ht, Option.isSome_some, if_pos rfl] at h
    obtain ⟨n', hn', rfl⟩ := Option.map_eq_some_iff.mp h
    obtain ⟨hplain, hreads, hhead⟩ := readFigured?_eq hn'
    exact ⟨hreads, .inl ⟨t, hplain.1, by simp [htail], hhead, htail⟩⟩
  | none =>
    rw [ht, Option.isSome_none, if_neg Bool.false_ne_true] at h
    obtain ⟨b, hb, rfl⟩ := Option.map_eq_some_iff.mp h
    exact ⟨by simpa [Rereads] using hb, .inr (by simp)⟩

theorem Notates.written_subset {n : Numeral} {cs : List Char} (h : n.Notates cs) :
    n.written.toList ⊆ cs := by
  intro c hc
  cases h <;> simp [front, hc]

theorem Notates.figured {n : Numeral} {cs : List Char} {f : String} (h : n.Notates cs)
    (hf : n.figure = some f) : n.Figured := by
  obtain ⟨figured, -⟩ | ⟨-, figured, -, -⟩ | ⟨plain, -, -, -⟩ := h
  · exact figured
  · exact figured
  · rw [plain] at hf
    cases hf

theorem Notates.target {n : Numeral} {cs : List Char} {target : String} (h : n.Notates cs)
    (ht : n.secondary = some target) : ∃ t : Target, t.text = target := by
  obtain ⟨-, single⟩ | ⟨t, -, written, -⟩ | ⟨-, single, -, -⟩ := h
  · rw [single] at ht
    cases ht
  · exact ⟨t, Option.some.inj (written.symm.trans ht)⟩
  · rw [single] at ht
    cases ht

theorem notates_of_read {text : Option String} {n : Numeral} (h : read text = .ok n) :
    n.Notates (Text.strip (text.getD "").toList) ∧ n.Rereads ∧
      (n.written = n.base.text ∨ n.written = n.base.text ++ "\n" ∧ n.figure.isSome = true) := by
  have hsolid := Text.strip_strip (text.getD "").toList
  unfold read at h
  generalize hcs : Text.strip (text.getD "").toList = cs at h hsolid ⊢
  rcases readStripped_ok h with hread | ⟨head, tail, hsides, hhead, htail, hread⟩
  · obtain ⟨⟨hfigured, hsingle⟩, hreads, hfront⟩ := readFigured?_eq hread
    rw [hfront] at hsolid ⊢
    refine ⟨.alone hfigured hsingle, hreads, written_eq hreads fun hfigure => ?_⟩
    simpa [front, hfigure] using hsolid
  · rw [hsides] at hcs ⊢
    obtain ⟨before, after, hbefore, hafter, hleft, hright⟩ := Text.sides_of_strip hcs
    have hheadsolid := Text.strip_strip head
    obtain ⟨hreads, hnotation⟩ := readSlashed?_ok hread (Text.strip_strip tail)
    rcases hnotation with ⟨t, hfigured, htarget, hfront, htext⟩ | ⟨hplain, hsingle, hbase, hbass⟩
    · refine ⟨?_, hreads, written_eq hreads fun hfigure => ?_⟩
      · rw [hleft, hright, hfront, htext]
        exact .related t hfigured htarget ⟨hbefore, hafter⟩
      · rw [hfront] at hheadsolid
        simpa [front, hfigure] using hheadsolid
    · refine ⟨?_, hreads, written_eq hreads fun _ => ?_⟩
      · rw [hleft, hright, hbase, hbass]
        refine .over hplain hsingle ?_ ⟨hbefore, hafter⟩
        rintro hnone
        rw [hbass, hnone] at htail
        exact htail rfl
      · rw [hbase] at hheadsolid
        exact hheadsolid

/-- Every accepted text is written in the grammar, and its base consists of its parts. Only
a line break in front of a figure may come with them. -/
theorem read_notates {text : Option String} {n : Numeral} (h : read text = .ok n) :
    n.Notates (Text.strip (text.getD "").toList) ∧ n.Rereads ∧
      (n.written = n.base.text ∨ n.written = n.base.text ++ "\n" ∧ n.figure.isSome = true ∧
        '\n' ∈ (text.getD "").toList) := by
  obtain ⟨hnotates, hreads, hwritten⟩ := notates_of_read h
  refine ⟨hnotates, hreads, hwritten.imp_right fun ⟨hbreak, hfigure⟩ => ⟨hbreak, hfigure, ?_⟩⟩
  obtain ⟨xs, ys, -, -, htext⟩ := Text.exists_padding (text.getD "").toList
  have hmem : '\n' ∈ Text.strip (text.getD "").toList :=
    hnotates.written_subset (by simp [hbreak])
  rw [htext]
  simp [hmem]

theorem read_notates_related :
    ∃ n, read (some "  bVI65 / ii\n") = .ok n ∧
      n.Notates (Text.strip "  bVI65 / ii\n".toList) ∧ n.Rereads ∧
        (n.written = n.base.text ∨ n.written = n.base.text ++ "\n" ∧ n.figure.isSome = true ∧
          '\n' ∈ "  bVI65 / ii\n".toList) :=
  ⟨_, rfl, @read_notates (some "  bVI65 / ii\n") _ rfl⟩

/-- A line break between base and figure stays in the base. -/
theorem lineBreak_before_figure :
    ∃ n, read (some "V\n6") = .ok n ∧ n.figure = some "6" ∧ ∀ b : Base, n.written ≠ b.text := by
  refine ⟨⟨"V\n", ⟨none, ⟨4, true⟩, none, false, none⟩, "3", some "6", none⟩, rfl, rfl, ?_⟩
  intro b hb
  have hmem : '\n' ∈ b.text.toList := by
    rw [← hb]
    decide
  exact absurd (b.text_noBlank '\n' hmem) (by decide)

end Numeral
end Tonality
