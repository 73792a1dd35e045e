import Mathlib.Data.Fintype.Basic
import Tonality.Proofs.Numeral.Base

/-!
Numerals read back from their texts. A base is followed by a figure or nothing, and a
slash by a target or a bass, with blanks around the text and the slash. No base ends in
a digit that a figure ends in, but for the 4 of `sus4`, so figure and base come apart
where they were joined; only `sus4` with the figure 2 is read as `sus` with 42.
-/

namespace Tonality

namespace Base

/-- The base with the last word `sus4` cut to `sus`. -/
def shortened (b : Base) : Base :=
  if b.suspension = none then { b with token := some .sus } else { b with suspension := some .sus }

/-- The word that a base ends in. -/
def lastWord (b : Base) : String :=
  match b.suspension, b.seventh, b.token with
  | some s, _, _ => s.text
  | none, true, _ => "7"
  | none, false, some t => t.text
  | none, false, none => b.degree.text

/-- What stands in front of the last word. -/
def stem (b : Base) : List Char :=
  let upToToken := b.degree.text.toList ++ (b.token.elim "" Token.text).toList
  (b.sign.elim "" Sign.text).toList ++
    match b.suspension, b.seventh, b.token with
    | some _, true, _ => upToToken ++ ['7']
    | some _, false, _ => upToToken
    | none, true, _ => upToToken
    | none, false, some _ => b.degree.text.toList
    | none, false, none => []

theorem text_eq_stem (b : Base) : b.text.toList = b.stem ++ b.lastWord.toList := by
  rw [toList_text]
  cases hsuspension : b.suspension <;> cases hseventh : b.seventh <;>
    cases htoken : b.token <;>
      simp [rest, stem, lastWord, hsuspension, hseventh, htoken]

theorem text_shortened {b : Base} (h : b.lastWord = "sus4") :
    b.shortened.text.toList = b.stem ++ "sus".toList := by
  cases hsuspension : b.suspension with
  | some s =>
    cases hseventh : b.seventh <;>
      simp [toList_text, rest, stem, shortened, hsuspension, hseventh, Suspension.text]
  | none =>
    cases hseventh : b.seventh with
    | true => simp [lastWord, hsuspension, hseventh] at h
    | false =>
      cases htoken : b.token with
      | some t =>
        simp [toList_text, rest, stem, shortened, hsuspension, hseventh, htoken, Token.text]
      | none =>
        -- the last word is a numeral then
        have hletter : 's' ∈ b.degree.text.toList := by
          have hword : b.degree.text = "sus4" := by
            simpa [lastWord, hsuspension, hseventh, htoken] using h
          rw [hword]
          decide
        exact absurd (b.degree.isNumeral_text 's' hletter) (by decide)

def lastWords : List String :=
  Suspension.all.map Suspension.text ++ "7" :: Token.all.map Token.text ++
    Degree.all.map Degree.text

theorem lastWord_mem (b : Base) : b.lastWord ∈ lastWords := by
  have hsuspension (s : Suspension) : s ∈ Suspension.all := by cases s <;> decide
  have htoken (t : Token) : t ∈ Token.all := by cases t <;> decide
  unfold lastWord
  split <;> simp [lastWords, List.mem_map_of_mem, hsuspension, htoken, Degree.mem_all]

theorem getLast_lastWord (b : Base) :
    ∃ c, b.lastWord.toList.getLast? = some c ∧ c ∉ ['2', '3', '5', '6'] ∧
      (c = '4' → b.lastWord = "sus4") := by
  have hwords : ∀ w ∈ lastWords, w.toList.getLast?.any (fun c =>
      c ∉ ['2', '3', '5', '6'] ∧ (c = '4' → w = "sus4")) = true := by decide
  obtain ⟨c, hc, hend⟩ := (Option.any_eq_true _ _).mp (hwords b.lastWord b.lastWord_mem)
  exact ⟨c, hc, of_decide_eq_true hend⟩

def EndsSus4 (b : Base) : Prop := "sus4".toList <:+ b.text.toList

instance (b : Base) : Decidable b.EndsSus4 := inferInstanceAs (Decidable (_ <:+ _))

/-- A base ends in no digit of a figure but in the 4 of `sus4`. -/
theorem getLast_text (b : Base) {c : Char} (h : b.text.toList.getLast? = some c) :
    c ∉ ['2', '3', '5', '6'] ∧
      (c = '4' → b.EndsSus4 ∧ b.text.toList = b.shortened.text.toList ++ ['4']) := by
  obtain ⟨d, hd, hplain, hword⟩ := b.getLast_lastWord
  rw [text_eq_stem, List.getLast?_append, hd, Option.some_or, Option.some.injEq] at h
  rw [← h]
  refine ⟨hplain, fun hfour => ?_⟩
  rw [EndsSus4, text_eq_stem, text_shortened (hword hfour), hword hfour]
  exact ⟨⟨b.stem, rfl⟩, by simp⟩

theorem endsSus4_iff (b : Base) : b.EndsSus4 ↔ b.text.toList.getLast? = some '4' := by
  constructor
  · rintro ⟨front, hfront⟩
    rw [← hfront]
    simp
  · intro h
    exact ((b.getLast_text h).2 rfl).1

theorem readChars?_toList (b : Base) : readChars? b.text.toList = some b.settled := by
  simpa using readChars?_text (.inl rfl) b

end Base

namespace Numeral

theorem splitAt?_append {cs : List Char} {b : Base} (h : Base.readChars? cs = some b)
    (f : String × String) :
    splitAt? (cs ++ f.1.toList) f = some ⟨String.ofList cs, b, f.2, some f.1, none⟩ := by
  have hsuffix : f.1.toList.isSuffixOf (cs ++ f.1.toList) = true :=
    List.isSuffixOf_iff_suffix.mpr (List.suffix_append cs f.1.toList)
  simp only [splitAt?, hsuffix, if_true]
  simp [h]

theorem splitAt?_of_not_suffix {cs : List Char} {f : String × String} (h : ¬f.1.toList <:+ cs) :
    splitAt? cs f = none :=
  if_neg fun hsuffix => h (List.isSuffixOf_iff_suffix.mp hsuffix)

theorem getLast_of_suffix {cs : List Char} {f : String × String} (hf : f ∈ figures)
    (h : f.1.toList <:+ cs) : f.1.toList.getLast? = cs.getLast? := by
  have hlast : ∀ f ∈ figures, f.1.toList.getLast?.isSome = true := by decide
  obtain ⟨c, hc⟩ := Option.isSome_iff_exists.mp (hlast f hf)
  obtain ⟨front, rfl⟩ := h
  rw [List.getLast?_append, hc, Option.some_or]

/-- Two figures with the same last digit: the longer one is tried first. -/
theorem figures_pairwise : figures.Pairwise fun f g =>
    f.1.toList.getLast? = g.1.toList.getLast? → f = ("42", "7") ∧ g = ("2", "7") := by
  decide

/-- A figure is split off where it was put, unless it is the end of another. -/
theorem readFigured?_append {cs : List Char} {b : Base} (h : Base.readChars? cs = some b)
    {f : String × String} (hf : f ∈ figures) (apart : f = ("2", "7") → cs.getLast? ≠ some '4') :
    readFigured? (cs ++ f.1.toList) = some ⟨String.ofList cs, b, f.2, some f.1, none⟩ := by
  obtain ⟨before, after, hfigures⟩ := List.append_of_mem hf
  have hearlier (g : String × String) (hg : g ∈ before) : splitAt? (cs ++ f.1.toList) g = none := by
    apply splitAt?_of_not_suffix
    intro hsuffix
    have hpair := figures_pairwise
    rw [hfigures, List.pairwise_append] at hpair
    have hlast := getLast_of_suffix (by simp [hfigures, hg]) hsuffix
    rw [← getLast_of_suffix hf (List.suffix_append cs f.1.toList)] at hlast
    obtain ⟨rfl, rfl⟩ := hpair.2.2 g hg f List.mem_cons_self hlast
    obtain ⟨front, hfront⟩ := hsuffix
    apply apart rfl
    have hcs : cs = front ++ ['4'] := by
      have hcancel : cs ++ "2".toList = front ++ ['4'] ++ "2".toList := by
        rw [← hfront]
        simp
      exact List.append_cancel_right hcancel
    rw [hcs]
    simp
  have hfind : figures.findSome? (splitAt? (cs ++ f.1.toList)) =
      some ⟨String.ofList cs, b, f.2, some f.1, none⟩ :=
    List.findSome?_eq_some_iff.mpr ⟨before, f, after, hfigures, splitAt?_append h f, hearlier⟩
  rw [readFigured?, hfind]
  rfl

theorem readFigured?_of_no_figure {cs : List Char} {b : Base} (h : Base.readChars? cs = some b)
    (apart : ∀ f ∈ figures, ¬f.1.toList <:+ cs) :
    readFigured? cs = some { written := String.ofList cs, base := b } := by
  have hfind : figures.findSome? (splitAt? cs) = none :=
    List.findSome?_eq_none_iff.mpr fun f hf => splitAt?_of_not_suffix (apart f hf)
  rw [readFigured?, hfind, h]
  rfl

/-- A base with a figure or none. -/
def figured (b : Base) (f : Option (String × String)) : Numeral :=
  ⟨b.text, b.settled, f.elim rootPosition Prod.snd, f.map Prod.fst, none⟩

/-- What a base and a figure written one after the other are read as. -/
def rendered (b : Base) (f : Option (String × String)) : Numeral :=
  if f = some ("2", "7") ∧ b.EndsSus4 then figured b.shortened (some ("42", "7")) else figured b f

theorem figure_not_suffix (b : Base) {f : String × String} (hf : f ∈ figures) :
    ¬f.1.toList <:+ b.text.toList := by
  intro hsuffix
  have hlast := getLast_of_suffix hf hsuffix
  have hdigits : ∀ f ∈ figures, f.1 = "64" ∨
      f.1.toList.getLast?.any (· ∈ ['2', '3', '5', '6']) = true := by decide
  rcases hdigits f hf with hfour | hplain
  · -- the base ends in `sus4` then, and a 6 would be the last of `sus`
    rw [hfour] at hsuffix hlast
    obtain ⟨-, htext⟩ := (b.getLast_text hlast.symm).2 rfl
    obtain ⟨front, hfront⟩ := hsuffix
    have hcancel : front ++ ['6'] ++ ['4'] = b.shortened.text.toList ++ ['4'] := by
      rw [← htext, ← hfront]
      simp
    have hsix : b.shortened.text.toList.getLast? = some '6' := by
      rw [← List.append_cancel_right hcancel]
      simp
    exact absurd (b.shortened.getLast_text hsix).1 (by decide)
  · obtain ⟨c, hc, hmem⟩ := (Option.any_eq_true _ _).mp hplain
    exact (b.getLast_text (hlast ▸ hc)).1 (of_decide_eq_true hmem)

theorem readFigured?_rendered (b : Base) {f : Option (String × String)}
    (hf : ∀ p ∈ f, p ∈ figures) :
    readFigured? (b.text.toList ++ (f.elim "" Prod.fst).toList) = some (rendered b f) := by
  cases f with
  | none =>
    have h := readFigured?_of_no_figure b.readChars?_toList fun f hf => figure_not_suffix b hf
    simpa [rendered, figured] using h
  | some f =>
    by_cases hmerged : f = ("2", "7") ∧ b.EndsSus4
    · obtain ⟨rfl, hsus4⟩ := hmerged
      obtain ⟨-, htext⟩ := (b.getLast_text (b.endsSus4_iff.mp hsus4)).2 rfl
      have h := @readFigured?_append _ _ b.shortened.readChars?_toList ("42", "7") (by decide)
        (by simp)
      rw [htext]
      simpa [rendered, figured, hsus4] using h
    · have h := readFigured?_append b.readChars?_toList (hf f rfl) fun hf hfour =>
        hmerged ⟨hf, b.endsSus4_iff.mpr hfour⟩
      simpa [rendered, figured, hmerged] using h

theorem figures_plain {f : Option (String × String)} (hf : ∀ p ∈ f, p ∈ figures) :
    ∀ c ∈ (f.elim "" Prod.fst).toList, Text.isBlank c = false ∧ c ≠ '/' := by
  have hfigures : figures.all (fun p => p.1.toList.all fun c => !Text.isBlank c && c != '/') =
      true := by decide
  cases f with
  | none => simp
  | some f =>
    intro c hc
    have hchars := List.all_eq_true.mp hfigures f (hf f rfl)
    simpa using List.all_eq_true.mp hchars c hc

theorem rendered_plain (b : Base) {f : Option (String × String)} (hf : ∀ p ∈ f, p ∈ figures) :
    ∀ c ∈ b.text.toList ++ (f.elim "" Prod.fst).toList, Text.isBlank c = false ∧ c ≠ '/' := by
  intro c hc
  rcases List.mem_append.mp hc with hbase | hfigure
  · exact ⟨b.text_noBlank c hbase, fun hslash => b.text_slashless (hslash ▸ hbase)⟩
  · exact figures_plain hf c hfigure

theorem readStripped_sides {head tail before after : List Char} {n : Numeral}
    (slashless : '/' ∉ head) (solid : Text.strip head = head ∧ Text.strip tail = tail)
    (given : head ≠ [] ∧ tail ≠ []) (blank : Text.Blank before ∧ Text.Blank after)
    (h : readSlashed? head tail = some n) :
    readStripped (head ++ before ++ '/' :: (after ++ tail)) = .ok n := by
  have hblank : Text.isBlank '/' = false := by decide
  have hleft : Text.strip (head ++ before) = head := by
    rw [Text.strip_append blank.1, solid.1]
  have hright : Text.strip (after ++ tail) = tail := by
    simpa [solid.2] using @Text.strip_padded after [] blank.2 (by simp) tail
  have hslash : '/' ∉ head ++ before := by
    intro hc
    rcases List.mem_append.mp hc with hhead | hbefore
    · exact slashless hhead
    · rw [blank.1 _ hbefore] at hblank
      cases hblank
  apply readStripped_slashed hslash
  · rw [hleft]
    exact given.1
  · rw [hright]
    exact given.2
  · rw [hleft, hright]
    exact h

theorem strip_sides {head tail : List Char}
    (solid : Text.strip head = head ∧ Text.strip tail = tail) (given : head ≠ [] ∧ tail ≠ [])
    (middle : List Char) :
    Text.strip (head ++ middle ++ tail) = head ++ middle ++ tail := by
  apply Text.strip_of_ends
  · intro c hc
    have hfirst : (Text.strip head).head? = some c := by
      rw [solid.1]
      obtain ⟨d, ds, rfl⟩ := List.exists_cons_of_ne_nil given.1
      simpa using hc
    exact Text.head_strip hfirst
  · intro c hc
    have hlast : (Text.strip tail).getLast? = some c := by
      rw [solid.2]
      rwa [List.getLast?_append_of_ne_nil _ given.2] at hc
    exact Text.getLast_strip hlast

theorem read_padded {front back text : String} (h : Text.strip text.toList = text.toList)
    (blank : Text.Blank front.toList ∧ Text.Blank back.toList) :
    read (some (front ++ text ++ back)) = readStripped text.toList := by
  rw [read, Option.getD_some, String.toList_append, String.toList_append,
    Text.strip_padded blank.1 blank.2, h]

theorem readSlashed?_bass {head : List Char} {b : Base} (h : Base.readChars? head = some b)
    {w : String} (solid : Text.strip w.toList = w.toList) (other : ∀ t : Target, w ≠ t.text) :
    readSlashed? head w.toList = some ⟨String.ofList head, b, w, none, none⟩ := by
  have hnone : Target.readChars? w.toList = none := by
    rw [Option.eq_none_iff_forall_ne_some]
    intro t ht
    obtain ⟨line, hline, htext⟩ := Target.readChars?_eq ht
    have hend : line = [] := hline.eq_nil (by rw [← htext]; exact solid)
    apply other t
    rw [← String.toList_inj, htext, hend, List.append_nil]
  rw [readSlashed?, hnone, h]
  simp

theorem read_slashed {head tail front back before after : String} {n : Numeral}
    (slashless : '/' ∉ head.toList)
    (solid : Text.strip head.toList = head.toList ∧ Text.strip tail.toList = tail.toList)
    (given : head.toList ≠ [] ∧ tail.toList ≠ [])
    (outside : Text.Blank front.toList ∧ Text.Blank back.toList)
    (inside : Text.Blank before.toList ∧ Text.Blank after.toList)
    (h : readSlashed? head.toList tail.toList = some n) :
    read (some (front ++ (head ++ before ++ "/" ++ after ++ tail) ++ back)) = .ok n := by
  have hjoin : (head ++ before ++ "/" ++ after ++ tail).toList =
      head.toList ++ before.toList ++ '/' :: (after.toList ++ tail.toList) := by
    simp
  rw [read_padded _ outside, hjoin, readStripped_sides slashless solid given inside h]
  have hends := strip_sides solid given (before.toList ++ '/' :: after.toList)
  rw [hjoin]
  simpa using hends

/-- Numerals are read back from what is written of them. -/
theorem read_rendered (b : Base) {f : Option (String × String)} (hf : ∀ p ∈ f, p ∈ figures)
    (t : Target) {w : String} (given : w ≠ "") (solid : Text.strip w.toList = w.toList)
    (other : ∀ t : Target, w ≠ t.text) {front back before after : String}
    (outside : Text.Blank front.toList ∧ Text.Blank back.toList)
    (inside : Text.Blank before.toList ∧ Text.Blank after.toList) :
    read (some (front ++ (b.text ++ f.elim "" Prod.fst) ++ back)) = .ok (rendered b f) ∧
    read (some (front ++ (b.text ++ f.elim "" Prod.fst ++ before ++ "/" ++ after ++ t.text) ++
      back)) = .ok { rendered b f with secondary := some t.text } ∧
    read (some (front ++ (b.text ++ before ++ "/" ++ after ++ w) ++ back)) =
      .ok { figured b none with bass := w } := by
  have htext : (b.text ++ f.elim "" Prod.fst).toList =
      b.text.toList ++ (f.elim "" Prod.fst).toList := String.toList_append
  have hread := readFigured?_rendered b hf
  have hplain := rendered_plain b hf
  rw [← htext] at hread hplain
  have hslash : '/' ∉ (b.text ++ f.elim "" Prod.fst).toList := fun hc => (hplain '/' hc).2 rfl
  have hsolid := Text.strip_of_noBlank fun c hc => (hplain c hc).1
  have hgiven : (b.text ++ f.elim "" Prod.fst).toList ≠ [] := by
    intro hnil
    rw [hnil] at hread
    cases hread
  have hbase := b.readChars?_toList
  have hbasegiven : b.text.toList ≠ [] := by
    intro hnil
    rw [hnil] at hbase
    cases hbase
  refine ⟨?_, ?_, ?_⟩
  · rw [read_padded hsolid outside]
    exact readStripped_figured hslash hgiven hread
  · exact read_slashed hslash ⟨hsolid, Text.strip_of_noBlank t.text_noBlank⟩
      ⟨hgiven, t.text_ne_nil⟩ outside inside (readSlashed?_target hread t)
  · have hbass := readSlashed?_bass hbase solid other
    rw [String.ofList_toList] at hbass
    exact read_slashed b.text_slashless ⟨Text.strip_of_noBlank b.text_noBlank, solid⟩
      ⟨hbasegiven, by simpa using given⟩ outside inside hbass

theorem read_rendered_merged :
    read (some "\t#iiio7sus42 ") =
      .ok ⟨"#iiio7sus", ⟨some .sharp, ⟨2, false⟩, some .o, true, some .sus⟩, "7", some "42", none⟩ ∧
    read (some "\t#iiio7sus42 /\nbVI ") =
      .ok ⟨"#iiio7sus", ⟨some .sharp, ⟨2, false⟩, some .o, true, some .sus⟩, "7", some "42",
        some "bVI"⟩ ∧
    read (some "\t#iiio7sus4 /\nb3/V ") =
      .ok ⟨"#iiio7sus4", ⟨some .sharp, ⟨2, false⟩, some .o, true, some .sus4⟩, "b3/V", none,
        none⟩ := by
  have hother (t : Target) : "b3/V" ≠ t.text := by
    intro ht
    have hread := t.readChars?_text
    rw [← ht] at hread
    cases hread
  have hsus4 : Base.EndsSus4 ⟨some .sharp, ⟨2, false⟩, some .o, true, some .sus4⟩ := by decide
  have h := @read_rendered ⟨some .sharp, ⟨2, false⟩, some .o, true, some .sus4⟩
    (some ("2", "7")) (by decide) ⟨some .flat, ⟨5, true⟩⟩ "b3/V" (by decide) (by decide) hother
    "\t" " " " " "\n" (by decide) (by decide)
  simpa [rendered, figured, hsus4, Base.text, Base.settled, Base.shortened, Target.text, Sign.text,
    Degree.text, Degree.upperText, Degree.lowerText, Token.text, Suspension.text] using h

end Numeral

end Tonality
