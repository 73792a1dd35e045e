import Mathlib.Tactic.SplitIfs
import Tonality.Numeral
import Tonality.Proofs.Outcome
import Tonality.Proofs.Text

/-!
Numerals as they are written. Whatever a reader of one part takes off stands in
front of what it leaves, so an accepted text without a slash is the text of its
base, perhaps a line break, and its figure. A plain numeral followed by a slash
and a target is read as the same numeral with that target.
-/

namespace Tonality

theorem Sign.take_eq (cs : List Char) :
    cs = ((take cs).1.elim "" text).toList ++ (take cs).2 := by
  unfold take
  split <;> simp [text]

theorem Degree.take_eq {cs : List Char} {d : Degree}
    (h : ofChars? (cs.takeWhile isNumeral) = some d) :
    cs = d.text.toList ++ cs.dropWhile isNumeral := by
  have hd := List.find?_some h
  rw [of_decide_eq_true hd, List.takeWhile_append_dropWhile]

theorem takeText_eq {α : Type} (text : α → String) (entries : List α) (cs : List Char) :
    cs = ((takeText text entries cs).1.elim "" text).toList ++ (takeText text entries cs).2 := by
  unfold takeText
  cases hfind : entries.find? fun e => (text e).toList.isPrefixOf cs with
  | none => rfl
  | some e =>
    have hfront := List.find?_some (p := fun e => (text e).toList.isPrefixOf cs) hfind
    obtain ⟨rest, rfl⟩ := List.isPrefixOf_iff_prefix.mp hfront
    simp [← String.length_toList]

namespace Base

theorem takeSeven_eq (cs : List Char) :
    cs = (if (takeSeven cs).1 then "7" else "").toList ++ (takeSeven cs).2 := by
  unfold takeSeven
  split <;> simp

def Ending (line : List Char) : Prop := line = [] ∨ line = ['\n']

theorem ending_of_atEnd {cs : List Char} (h : atEnd cs = true) : Ending cs := by
  simpa [atEnd, Ending] using h

theorem readChars?_eq {cs : List Char} {b : Base} (h : readChars? cs = some b) :
    ∃ line, Ending line ∧ cs = b.text.toList ++ line := by
  -- reader by reader, what is taken off is kept as an equation for what was in front of it
  have hsign := Sign.take_eq cs
  unfold readChars? at h
  generalize Sign.take cs = taken at h hsign
  obtain ⟨sign, cs₁⟩ := taken
  dsimp only at h hsign
  cases hdegree : Degree.ofChars? (cs₁.takeWhile Degree.isNumeral) with
  | none => simp [hdegree] at h
  | some degree =>
    have hrest := Degree.take_eq hdegree
    have htoken := takeText_eq Token.text Token.all (cs₁.dropWhile Degree.isNumeral)
    simp only [hdegree, bind, Option.bind_some] at h
    generalize takeText Token.text Token.all (cs₁.dropWhile Degree.isNumeral) = taken at h htoken
    obtain ⟨token, cs₂⟩ := taken
    have hseven := takeSeven_eq cs₂
    dsimp only at h htoken
    generalize takeSeven cs₂ = taken at h hseven
    obtain ⟨seventh, cs₃⟩ := taken
    have hsuspension := takeText_eq Suspension.text Suspension.all cs₃
    dsimp only at h hseven
    generalize takeText Suspension.text Suspension.all cs₃ = taken at h hsuspension
    obtain ⟨suspension, line⟩ := taken
    dsimp only at h hsuspension
    split_ifs at h with hend
    obtain rfl := Option.some.inj h
    refine ⟨line, ending_of_atEnd hend, ?_⟩
    calc cs = (sign.elim "" Sign.text).toList ++ cs₁ := hsign
      _ = _ := by
        rw [hrest, htoken, hseven, hsuspension]
        simp [text, List.append_assoc]

theorem seven_mem_text (b : Base) : '7' ∈ b.text.toList ↔ b.seventh = true := by
  have hsign : '7' ∉ (b.sign.elim "" Sign.text).toList := by
    rcases b.sign with _ | s
    · decide
    · cases s <;> decide
  have hdegree : '7' ∉ b.degree.text.toList := by
    obtain ⟨index, upper⟩ := b.degree
    cases upper <;> (revert index; decide)
  have htoken : '7' ∉ (b.token.elim "" Token.text).toList := by
    rcases b.token with _ | t
    · decide
    · cases t <;> decide
  have hsuspension : '7' ∉ (b.suspension.elim "" Suspension.text).toList := by
    rcases b.suspension with _ | s
    · decide
    · cases s <;> decide
  cases hb : b.seventh <;> simp [text, hsign, hdegree, htoken, hsuspension, hb]

end Base

namespace Target

def text (t : Target) : String := t.sign.elim "" Sign.text ++ t.degree.text

theorem readChars?_text (t : Target) : readChars? t.text.toList = some t := by
  obtain ⟨sign, ⟨index, upper⟩⟩ := t
  cases upper <;> rcases sign with _ | _ | _ <;> (revert index; decide)

theorem readChars?_eq {cs : List Char} {t : Target} (h : readChars? cs = some t) :
    ∃ line, Base.Ending line ∧ cs = t.text.toList ++ line := by
  have hsign := Sign.take_eq cs
  unfold readChars? at h
  generalize Sign.take cs = taken at h hsign
  obtain ⟨sign, cs₁⟩ := taken
  dsimp only at h hsign
  cases hdegree : Degree.ofChars? (cs₁.takeWhile Degree.isNumeral) with
  | none => simp [hdegree] at h
  | some degree =>
    have hrest := Degree.take_eq hdegree
    simp only [hdegree, bind, Option.bind_some] at h
    split_ifs at h with hend
    obtain rfl := Option.some.inj h
    refine ⟨cs₁.dropWhile Degree.isNumeral, Base.ending_of_atEnd hend, ?_⟩
    rw [text, String.toList_append, List.append_assoc, ← hrest]
    exact hsign

theorem text_noBlank (t : Target) : ∀ c ∈ t.text.toList, Text.isBlank c = false := by
  apply Text.noBlank_of_all
  obtain ⟨sign, ⟨index, upper⟩⟩ := t
  cases upper <;> rcases sign with _ | _ | _ <;> (revert index; decide)

theorem text_ne_nil (t : Target) : t.text.toList ≠ [] := by
  intro hempty
  have hreads := t.readChars?_text
  rw [hempty] at hreads
  cases hreads

end Target

namespace Numeral

/-- The figure tells the bass, and without a figure the root is in the bass. -/
def Figured (n : Numeral) : Prop :=
  n.figure = none ∧ n.bass = rootPosition ∨ ∃ f ∈ figures, n.figure = some f.1 ∧ n.bass = f.2

theorem Figured.bass_mem {n : Numeral} (h : n.Figured) : n.bass ∈ ["1", "3", "5", "7"] := by
  have hfigures : ∀ f ∈ figures, f.2 ∈ ["1", "3", "5", "7"] := by decide
  rcases h with ⟨-, hbass⟩ | ⟨f, hf, -, hbass⟩
  · rw [hbass]; decide
  · rw [hbass]; exact hfigures f hf

/-- A numeral without a slash: its figure tells the bass, and it has no target. -/
def Plain (n : Numeral) : Prop := n.Figured ∧ n.secondary = none

theorem Plain.figured {n : Numeral} (h : n.Plain) : n.Figured := h.1

/-- The base as it is written, and the figure after it. -/
def front (n : Numeral) : List Char := n.written.toList ++ (n.figure.getD "").toList

def Rereads (n : Numeral) : Prop := Base.readChars? n.written.toList = some n.base

theorem splitAt?_eq {cs : List Char} {f : String × String} {n : Numeral}
    (h : splitAt? cs f = some n) :
    n.figure = some f.1 ∧ n.bass = f.2 ∧ n.secondary = none ∧ n.Rereads ∧ cs = n.front := by
  unfold splitAt? at h
  dsimp only at h
  split_ifs at h with hsuffix
  obtain ⟨b, hb, rfl⟩ := Option.map_eq_some_iff.mp h
  have hcs := List.suffix_iff_eq_append.mp (List.isSuffixOf_iff_suffix.mp hsuffix)
  refine ⟨rfl, rfl, rfl, by simpa [Rereads] using hb, ?_⟩
  simpa [front] using hcs.symm

theorem readFigured?_eq {cs : List Char} {n : Numeral} (h : readFigured? cs = some n) :
    n.Plain ∧ n.Rereads ∧ cs = n.front := by
  unfold readFigured? at h
  cases hsplit : figures.findSome? (splitAt? cs) with
  | some n' =>
    rw [hsplit] at h
    obtain rfl := Option.some.inj h
    obtain ⟨f, hf, hn⟩ := List.exists_of_findSome?_eq_some hsplit
    obtain ⟨hfigure, hbass, hsecondary, hreads, hcs⟩ := splitAt?_eq hn
    exact ⟨⟨.inr ⟨f, hf, hfigure, hbass⟩, hsecondary⟩, hreads, hcs⟩
  | none =>
    rw [hsplit] at h
    obtain ⟨b, hb, rfl⟩ := Option.map_eq_some_iff.mp h
    exact ⟨⟨.inl ⟨rfl, rfl⟩, rfl⟩, by simpa [Rereads] using hb, by simp [front]⟩

theorem splitSlash?_of_not_mem {cs : List Char} (slashless : '/' ∉ cs) : splitSlash? cs = none := by
  have hdrop : cs.dropWhile (· ≠ '/') = [] := by
    rw [List.dropWhile_eq_nil_iff]
    intro c hc
    exact decide_eq_true fun hslash => slashless (hslash ▸ hc)
  rw [splitSlash?, hdrop]

theorem splitSlash?_append {xs : List Char} (slashless : '/' ∉ xs) (ys : List Char) :
    splitSlash? (xs ++ '/' :: ys) = some (xs, ys) := by
  have hxs : ∀ c ∈ xs, decide (c ≠ '/') = true := fun c hc =>
    decide_eq_true fun hslash => slashless (hslash ▸ hc)
  rw [splitSlash?, List.dropWhile_append_of_pos hxs, List.takeWhile_append_of_pos hxs]
  simp

theorem readStripped_slashless {cs : List Char} {n : Numeral} (slashless : '/' ∉ cs)
    (h : readStripped cs = .ok n) : readFigured? cs = some n := by
  unfold readStripped at h
  rw [splitSlash?_of_not_mem slashless] at h
  split_ifs at h
  cases hread : readFigured? cs with
  | none => rw [hread] at h; cases h
  | some n' =>
    rw [hread] at h
    rw [Except.ok.inj h]

theorem readStripped_figured {cs : List Char} {n : Numeral} (slashless : '/' ∉ cs) (given : cs ≠ [])
    (h : readFigured? cs = some n) : readStripped cs = .ok n := by
  rw [readStripped, if_neg (by simpa using given), splitSlash?_of_not_mem slashless]
  simp only [h]
  rfl

theorem readStripped_slashed {head tail : List Char} {n : Numeral} (slashless : '/' ∉ head)
    (left : Text.strip head ≠ []) (right : Text.strip tail ≠ [])
    (h : readSlashed? (Text.strip head) (Text.strip tail) = some n) :
    readStripped (head ++ '/' :: tail) = .ok n := by
  have hsides : ((Text.strip head).isEmpty || (Text.strip tail).isEmpty) = false := by
    simp [left, right]
  rw [readStripped, if_neg (by simp), splitSlash?_append slashless]
  simp only [hsides, h, Bool.false_eq_true, if_false]
  rfl

theorem readSlashed?_target {head : List Char} {n : Numeral} (h : readFigured? head = some n)
    (t : Target) :
    readSlashed? head t.text.toList = some { n with secondary := some t.text } := by
  rw [readSlashed?, Target.readChars?_text, Option.isSome_some, if_pos rfl, h, Option.map_some,
    String.ofList_toList]

section
variable {text : String} {n : Numeral} (slashless : '/' ∉ text.toList)
  (h : read (some text) = .ok n)
include slashless h

theorem readFigured?_strip : readFigured? (Text.strip text.toList) = some n := by
  apply readStripped_slashless _ h
  rw [Option.getD_some, Text.mem_strip (by decide)]
  exact slashless

theorem plain_of_read : n.Plain := (readFigured?_eq (readFigured?_strip slashless h)).1

theorem seven_mem_iff : '7' ∈ text.toList ↔ n.base.seventh = true := by
  obtain ⟨⟨hfigure, -⟩, hreads, hcs⟩ := readFigured?_eq (readFigured?_strip slashless h)
  obtain ⟨line, hline, hwritten⟩ := Base.readChars?_eq hreads
  have hend : '7' ∉ line := by rcases hline with rfl | rfl <;> decide
  have hnone : '7' ∉ (n.figure.getD "").toList := by
    have hfigures : ∀ f ∈ figures, '7' ∉ f.1.toList := by decide
    rcases hfigure with ⟨hf, -⟩ | ⟨f, hf, hn, -⟩
    · rw [hf]; decide
    · rw [hn]; exact hfigures f hf
  rw [← Text.mem_strip (by decide), hcs, front, hwritten, ← n.base.seven_mem_text]
  simp [hend, hnone]

theorem read_relation {target : String} {t : Target}
    (ht : Target.readChars? target.toList = some t) :
    read (some (text ++ "/" ++ target)) = .ok { n with secondary := some t.text } := by
  have hread := readFigured?_strip slashless h
  obtain ⟨line, hline, htarget⟩ := Target.readChars?_eq ht
  have hblank : ∀ c ∈ line, Text.isBlank c = true := by
    apply List.all_eq_true.mp
    rcases hline with rfl | rfl <;> decide
  -- blanks before the slash are still there after the whole is stripped
  have hjoin : (text ++ "/" ++ target).toList = text.toList ++ '/' :: (t.text.toList ++ line) := by
    simp [htarget]
  have hstrip : Text.strip (text ++ "/" ++ target).toList =
      Text.dropBlanks text.toList ++ '/' :: t.text.toList := by
    rw [hjoin, Text.strip_append_cons (by decide), Text.dropBlanksEnd_append t.text_noBlank hblank]
  have hslash : '/' ∉ Text.dropBlanks text.toList := fun hc =>
    slashless ((List.dropWhile_suffix Text.isBlank).mem hc)
  have hhead : Text.strip (Text.dropBlanks text.toList) ≠ [] := by
    rw [Text.strip_dropBlanks]
    rintro hempty
    rw [hempty] at hread
    cases hread
  have htail : Text.strip t.text.toList = t.text.toList := Text.strip_of_noBlank t.text_noBlank
  rw [read, Option.getD_some, hstrip]
  apply readStripped_slashed hslash hhead
  · rw [htail]
    exact t.text_ne_nil
  · rw [Text.strip_dropBlanks, htail]
    exact readSlashed?_target hread t

end

theorem read_kind (text : Option String) : Within [.theory] (fun _ => True) (read text) := by
  unfold read readStripped
  generalize Text.strip (text.getD "").toList = cs
  split_ifs
  · exact List.mem_singleton.mpr rfl
  · cases splitSlash? cs with
    | none =>
      cases readFigured? cs with
      | none => exact List.mem_singleton.mpr rfl
      | some n => trivial
    | some sides =>
      dsimp only
      split_ifs
      · exact List.mem_singleton.mpr rfl
      · cases readSlashed? (Text.strip sides.1) (Text.strip sides.2) with
        | none => exact List.mem_singleton.mpr rfl
        | some n => trivial

end Numeral
end Tonality
