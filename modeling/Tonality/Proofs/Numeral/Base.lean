import Tonality.Proofs.Numeral.Written

/-!
Bases read back. Each part of a base is read as far as it goes, and no part can be
mistaken for the beginning of another or run on into the next, so the text of a base
gives the base again. Only a suspension right after the degree stands where a quality
does, and is taken for one.
-/

namespace Tonality

theorem takeText_of_find {α : Type} {text : α → String} {entries : List α} {cs rest : List Char}
    {e : α} (h : entries.find? (fun e => (text e).toList.isPrefixOf cs) = some e)
    (hcs : cs = (text e).toList ++ rest) : takeText text entries cs = (some e, rest) := by
  rw [takeText, h]
  simp [hcs, ← String.length_toList]

theorem Sign.take_text (s : Option Sign) {rest : List Char}
    (h : ∀ c, rest.head? = some c → c ≠ '#' ∧ c ≠ 'b') :
    take ((s.elim "" text).toList ++ rest) = (s, rest) := by
  rcases s with _ | _ | _
  · cases rest with
    | nil => rfl
    | cons c rest =>
      obtain ⟨hsharp, hflat⟩ := h c rfl
      simp [take, hsharp, hflat]
  · simp [take, text]
  · simp [take, text]

theorem takeText_of_none {α : Type} {text : α → String} {entries : List α} {cs : List Char}
    (h : entries.find? (fun e => (text e).toList.isPrefixOf cs) = none) :
    takeText text entries cs = (none, cs) := by
  rw [takeText, h]

namespace Degree

theorem ofChars?_text (d : Degree) : ofChars? d.text.toList = some d := by
  obtain ⟨index, upper⟩ := d
  cases upper <;> (revert index; decide)

theorem isNumeral_text (d : Degree) : ∀ c ∈ d.text.toList, isNumeral c = true := by
  apply List.all_eq_true.mp
  obtain ⟨index, upper⟩ := d
  cases upper <;> (revert index; decide)

theorem text_ne_nil (d : Degree) : d.text.toList ≠ [] := by
  obtain ⟨index, upper⟩ := d
  cases upper <;> (revert index; decide)

theorem takeWhile_text (d : Degree) {rest : List Char}
    (h : ∀ c, rest.head? = some c → isNumeral c = false) :
    (d.text.toList ++ rest).takeWhile isNumeral = d.text.toList ∧
      (d.text.toList ++ rest).dropWhile isNumeral = rest := by
  rw [List.takeWhile_append_of_pos d.isNumeral_text, List.dropWhile_append_of_pos d.isNumeral_text]
  cases rest with
  | nil => simp
  | cons c rest => simp [h c rfl]

end Degree

/-- Letters and digits that would make a longer word of a quality. -/
def Token.Extends (c : Char) : Prop := c = '4' ∨ c = 'a' ∨ c = 'i'

theorem Token.takeText_text (t : Token) {rest : List Char}
    (h : ∀ c, rest.head? = some c → ¬Extends c) :
    takeText text all (t.text.toList ++ rest) = (some t, rest) := by
  refine takeText_of_find ?_ rfl
  cases rest with
  | nil => cases t <;> decide
  | cons c rest =>
    obtain ⟨h4, ha, hi⟩ : c ≠ '4' ∧ c ≠ 'a' ∧ c ≠ 'i' := by simpa [Extends] using h c rfl
    cases t <;> simp [all, text, List.isPrefixOf, Ne.symm h4, Ne.symm ha, Ne.symm hi]

namespace Suspension

theorem takeText_text (s : Suspension) {rest : List Char} (h : rest.head? ≠ some '4') :
    takeText text all (s.text.toList ++ rest) = (some s, rest) := by
  refine takeText_of_find ?_ rfl
  cases rest with
  | nil => cases s <;> decide
  | cons c rest =>
    have h4 : c ≠ '4' := fun hc => h (by rw [hc]; rfl)
    cases s <;> simp [all, text, List.isPrefixOf, Ne.symm h4]

/-- The quality with the same word. -/
def token : Suspension → Token
  | sus4 => .sus4
  | sus => .sus

theorem text_token (s : Suspension) : s.token.text = s.text := by cases s <;> rfl

end Suspension

namespace Base

/-- The base as it is read: a suspension with neither quality nor 7 in front of it is the
quality. -/
def settled (b : Base) : Base :=
  match b.token, b.seventh, b.suspension with
  | none, false, some s => { b with token := some s.token, suspension := none }
  | _, _, _ => b

theorem sign_settled (b : Base) : b.settled.sign = b.sign := by
  unfold settled
  split <;> rfl

theorem degree_settled (b : Base) : b.settled.degree = b.degree := by
  unfold settled
  split <;> rfl

theorem settled_of_token (b : Base) {t : Token} (h : b.token = some t) : b.settled = b := by
  simp [settled, h]

theorem settled_of_seventh (b : Base) (h : b.seventh = true) : b.settled = b := by
  simp [settled, h]

theorem settled_of_none (b : Base) (h : b.suspension = none) : b.settled = b := by
  simp [settled, h]

theorem settled_of_lone (b : Base) {s : Suspension} (token : b.token = none)
    (seventh : b.seventh = false) (suspension : b.suspension = some s) :
    b.settled = { b with token := some s.token, suspension := none } := by
  simp [settled, token, seventh, suspension]

/-- What stands after the quality. -/
def rest (b : Base) : List Char :=
  (if b.seventh then ['7'] else []) ++ (b.suspension.elim "" Suspension.text).toList

theorem toList_text (b : Base) :
    b.text.toList = (b.sign.elim "" Sign.text).toList ++
      (b.degree.text.toList ++ ((b.token.elim "" Token.text).toList ++ b.rest)) := by
  cases hseventh : b.seventh <;> simp [text, rest, hseventh]

theorem Ending.head {line : List Char} (h : Ending line) {c : Char} (hc : line.head? = some c) :
    c = '\n' := by
  rcases h with rfl | rfl
  · cases hc
  · exact (Option.some.inj hc).symm

/-- Stripped text does not end in the line break. -/
theorem Ending.eq_nil {cs line : List Char} (h : Ending line)
    (solid : Text.strip (cs ++ line) = cs ++ line) : line = [] := by
  rcases h with rfl | rfl
  · rfl
  · have hlast : (Text.strip (cs ++ ['\n'])).getLast? = some '\n' := by
      rw [solid, List.getLast?_append]
      rfl
    exact absurd (Text.getLast_strip hlast) (by decide)

section
variable {line : List Char} (hline : Ending line)
include hline

theorem head_rest (b : Base) {c : Char} (h : (b.rest ++ line).head? = some c) :
    c = '7' ∨ c = 's' ∨ c = '\n' := by
  cases hseventh : b.seventh with
  | true => exact .inl (by simpa [rest, hseventh, eq_comm] using h)
  | false =>
    rcases hsuspension : b.suspension with _ | _ | _ <;>
      simp [rest, hseventh, hsuspension, Suspension.text] at h
    · exact .inr (.inr (hline.head h))
    · exact .inr (.inl h.symm)
    · exact .inr (.inl h.symm)

theorem takeSeven_rest (b : Base) :
    takeSeven (b.rest ++ line) =
      (b.seventh, (b.suspension.elim "" Suspension.text).toList ++ line) := by
  cases hseventh : b.seventh with
  | true => simp [rest, hseventh, takeSeven]
  | false =>
    rcases hsuspension : b.suspension with _ | _ | _ <;>
      simp [rest, hseventh, hsuspension, Suspension.text, takeSeven]
    rcases hline with rfl | rfl <;> simp

theorem takeText_suspension (s : Option Suspension) :
    takeText Suspension.text Suspension.all ((s.elim "" Suspension.text).toList ++ line) =
      (s, line) := by
  cases s with
  | none => rcases hline with rfl | rfl <;> exact takeText_of_none (by decide)
  | some s =>
    apply s.takeText_text
    intro h
    exact absurd (hline.head h) (by decide)

theorem takeText_token (b : Base) :
    takeText Token.text Token.all ((b.token.elim "" Token.text).toList ++ (b.rest ++ line)) =
      (b.settled.token, b.settled.rest ++ line) := by
  have hrest (c : Char) (hc : (b.rest ++ line).head? = some c) : ¬Token.Extends c := by
    rcases b.head_rest hline hc with rfl | rfl | rfl <;> simp [Token.Extends]
  cases htoken : b.token with
  | some t =>
    rw [b.settled_of_token htoken, htoken]
    exact t.takeText_text hrest
  | none =>
    cases hsuspension : b.suspension with
    | none =>
      rw [b.settled_of_none hsuspension, htoken]
      apply takeText_of_none
      cases hseventh : b.seventh <;> rcases hline with rfl | rfl <;>
        simp [rest, hseventh, hsuspension] <;> decide
    | some s =>
      cases hseventh : b.seventh with
      | true =>
        rw [b.settled_of_seventh hseventh, htoken]
        apply takeText_of_none
        simp [rest, hseventh, Token.all, Token.text, List.isPrefixOf]
      | false =>
        have hword : b.rest = s.token.text.toList := by
          simp [rest, hseventh, hsuspension, s.text_token]
        have hline' (c : Char) (hc : line.head? = some c) : ¬Token.Extends c := by
          rw [hline.head hc]
          simp [Token.Extends]
        rw [b.settled_of_lone htoken hseventh hsuspension, hword]
        simpa [rest, hseventh] using s.token.takeText_text hline'

/-- The text of a base is read as the base, a lone suspension being taken for the quality. -/
theorem readChars?_text (b : Base) : readChars? (b.text.toList ++ line) = some b.settled := by
  have hdegree (c : Char) (hc : ((b.token.elim "" Token.text).toList ++ (b.rest ++ line)).head? =
      some c) : Degree.isNumeral c = false := by
    cases htoken : b.token with
    | some t => cases t <;> simp [htoken, Token.text] at hc <;> subst hc <;> decide
    | none =>
      have hrest : (b.rest ++ line).head? = some c := by simpa [htoken] using hc
      rcases b.head_rest hline hrest with rfl | rfl | rfl <;> decide
  have hfirst (c : Char) (hc : (b.degree.text.toList ++ ((b.token.elim "" Token.text).toList ++
      (b.rest ++ line))).head? = some c) : c ≠ '#' ∧ c ≠ 'b' := by
    obtain ⟨d, ds, hds⟩ := List.exists_cons_of_ne_nil b.degree.text_ne_nil
    have hnumeral := b.degree.isNumeral_text d (by simp [hds])
    have hcd : d = c := by simpa [hds] using hc
    rw [← hcd]
    constructor <;> rintro rfl <;> cases hnumeral
  have hend : atEnd line = true := by rcases hline with rfl | rfl <;> rfl
  obtain ⟨htake, hdrop⟩ := b.degree.takeWhile_text hdegree
  rw [toList_text]
  simp only [List.append_assoc, readChars?, Sign.take_text b.sign hfirst, htake, hdrop,
    Degree.ofChars?_text, b.takeText_token hline, takeSeven_rest hline, takeText_suspension hline,
    hend, bind, Option.bind_some, if_true]
  rw [← b.sign_settled, ← b.degree_settled]
  rfl

end

/-- The characters that bases are written with. -/
def letters : List Char := "#bIVivdmo°øhaug+sjMn47".toList

theorem text_subset (b : Base) : b.text.toList ⊆ letters := by
  have hsign : (b.sign.elim "" Sign.text).toList ⊆ letters := by
    rcases b.sign with _ | _ | _ <;> decide
  have hdegree : b.degree.text.toList ⊆ letters := by
    intro c hc
    have hnumeral := b.degree.isNumeral_text c hc
    simp only [Degree.isNumeral, Bool.or_eq_true, decide_eq_true_eq] at hnumeral
    rcases hnumeral with ((rfl | rfl) | rfl) | rfl <;> decide
  have htoken : (b.token.elim "" Token.text).toList ⊆ letters := by
    rcases b.token with _ | t
    · decide
    · cases t <;> decide
  have hseven : (if b.seventh then ['7'] else []) ⊆ letters := by
    cases b.seventh <;> decide
  have hsuspension : (b.suspension.elim "" Suspension.text).toList ⊆ letters := by
    rcases b.suspension with _ | _ | _ <;> decide
  rw [toList_text, rest]
  simp only [List.append_subset, hsign, hdegree, htoken, hseven, hsuspension, and_self]

theorem text_noBlank (b : Base) : ∀ c ∈ b.text.toList, Text.isBlank c = false := by
  have hletters : ∀ c ∈ letters, Text.isBlank c = false := by
    apply Text.noBlank_of_all
    decide
  exact fun c hc => hletters c (b.text_subset hc)

theorem text_slashless (b : Base) : '/' ∉ b.text.toList := by
  have hletters : '/' ∉ letters := by decide
  exact fun hc => hletters (b.text_subset hc)

end Base
end Tonality
