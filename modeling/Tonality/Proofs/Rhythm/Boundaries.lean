import Tonality.Proofs.Rhythm.Measures

/-!
Measures cut into groups. Whatever the unit of the meter is, a measure filled with cells is a
row of blocks, one for each group and as long as the group; so no event reaches over the end
of a group, and since a rest can only begin a cell, rests stand where groups begin.
-/

namespace Tonality

namespace Cell

theorem notes_follow_tables : ∀ tier, ∀ cells ∈ [quarter tier, dottedQuarter tier, half tier],
    ∀ c ∈ cells, ∀ e ∈ c.tail, 0 < e
  | 0 | 1 | 2 | 3 | 4 | 5 => by decide
  | _ + 6 => by simp [quarter, dottedQuarter, half]

theorem notes_follow {span : Rat} {tier : Nat} {c : Cell} (h : c ∈ library span tier) :
    ∀ e ∈ c.tail, 0 < e :=
  notes_follow_tables tier _ (library_cases (List.ne_nil_of_mem h)) c h

end Cell

namespace Rhythm
open Gen

/-- An event that starts at a time lies in one of the groups, and begins it if it is a rest. -/
def Placed (unit : Int) (groups : List Nat) (start : Rat) (e : Event) : Prop :=
  ∃ k < groups.length, ((groups.take k).sum : Rat) / unit ≤ start ∧
    start + e.length ≤ ((groups.take (k + 1)).sum : Rat) / unit ∧
    (e < 0 → start = ((groups.take k).sum : Rat) / unit)

section
variable {m : Meter} {level : Nat}

theorem Block.lengthOf_eq_div (positive : m.Positive) {units : Nat} {es : List Event}
    (h : Block m (1 / m.unit) level units es) : lengthOf es = units / m.unit := by
  rw [h.lengthOf_eq positive, one_div_mul_eq_div]

theorem Block.notes_follow (positive : m.Positive) {beat : Rat} {units : Nat} {es : List Event}
    (h : Block m beat level units es) : ∀ e ∈ es.tail, 0 < e := by
  cases h with
  | cell mem => exact Cell.notes_follow mem
  | units _ =>
    intro e he
    rw [List.eq_of_mem_replicate (List.mem_of_mem_tail he)]
    exact positive.unit_pos

theorem Placed.first {unit : Int} {groups : List Nat} {units : Nat} {start : Rat} {e : Event}
    (low : 0 ≤ start) (high : start + e.length ≤ (units : Rat) / unit)
    (rest : e < 0 → start = 0) : Placed unit (units :: groups) start e := by
  refine ⟨0, Nat.succ_pos _, ?_, ?_, ?_⟩
  · simpa using low
  · simpa using high
  · simpa using rest

theorem Placed.later {unit : Int} {groups : List Nat} {units : Nat} {start : Rat} {e : Event}
    (h : Placed unit groups start e) :
    Placed unit (units :: groups) ((units : Rat) / unit + start) e := by
  obtain ⟨k, hk, low, high, rest⟩ := h
  refine ⟨k + 1, Nat.succ_lt_succ hk, ?_, ?_, fun he => ?_⟩
  · simp only [List.take_succ_cons, List.sum_cons, Nat.cast_add, add_div]
    linarith
  · simp only [List.take_succ_cons, List.sum_cons, Nat.cast_add, add_div] at high ⊢
    linarith
  · simp only [List.take_succ_cons, List.sum_cons, Nat.cast_add, add_div, rest he]

theorem Block.placed (positive : m.Positive) {units : Nat} {groups : List Nat}
    {before after : List Event} {e : Event}
    (h : Block m (1 / m.unit) level units (before ++ e :: after)) :
    Placed m.unit (units :: groups) (lengthOf before) e := by
  have hlength := h.lengthOf_eq_div positive
  rw [lengthOf_append, lengthOf_cons] at hlength
  have hrest := lengthOf_nonneg after
  refine Placed.first (lengthOf_nonneg before) (by linarith) fun he => ?_
  cases before with
  | nil => rfl
  | cons first before =>
    exact absurd he (h.notes_follow positive e (by simp)).not_gt

theorem cons_in_append {xs ys before after : List Event} {e : Event}
    (h : xs ++ ys = before ++ e :: after) :
    (∃ after', xs = before ++ e :: after') ∨
      ∃ before', before = xs ++ before' ∧ ys = before' ++ e :: after := by
  rcases List.append_eq_append_iff.mp h with ⟨before', hbefore, hys⟩ | ⟨front, hxs, hcons⟩
  · exact .inr ⟨before', hbefore, hys⟩
  · cases front with
    | nil => exact .inr ⟨[], by simpa using hxs.symm, by simpa using hcons.symm⟩
    | cons e' front =>
      obtain ⟨rfl, -⟩ := List.cons.inj hcons
      exact .inl ⟨front, hxs⟩

theorem Grouping.placed (positive : m.Positive) {groups : List Nat} {es : List Event}
    (h : Grouping m (1 / m.unit) level groups es) {before after : List Event} {e : Event}
    (hes : es = before ++ e :: after) : Placed m.unit groups (lengthOf before) e := by
  -- an event behind the first block starts later by the length of that block
  induction h generalizing before with
  | nil => simp at hes
  | cons first _ ih =>
    rcases cons_in_append hes with ⟨after', rfl⟩ | ⟨before', rfl, hrest⟩
    · exact first.placed positive
    · rw [lengthOf_append, first.lengthOf_eq_div positive]
      exact (ih hrest).later

end

end Rhythm
end Tonality
