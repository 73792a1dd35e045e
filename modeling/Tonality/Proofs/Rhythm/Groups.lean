import Mathlib.Tactic.IntervalCases
import Mathlib.Tactic.Ring
import Tonality.Proofs.Rhythm.Length
import Tonality.Proofs.Yield

/-!
Filling a measure group by group. A block is what one group gets: a cell of the
library for its length, or one note to a unit where the library has none. A
grouping is a row of blocks, one for each group, and lasts as long as the
groups. The weights of the cells are usable on strong groups and weak ones,
after a run of sixteenths or not, and at every level.
-/

namespace Tonality
namespace Cell

def Lasts (span : Rat) (c : Cell) : Prop := c ≠ [] ∧ (∀ e ∈ c, e ≠ 0) ∧ lengthOf c = span

instance (span : Rat) (c : Cell) : Decidable (Lasts span c) :=
  inferInstanceAs (Decidable (_ ∧ _ ∧ _))

theorem lasts_quarter (tier : Nat) : ∀ c ∈ quarter tier, Lasts (1 / 4) c := by
  unfold quarter
  split <;> decide +kernel

theorem lasts_dottedQuarter (tier : Nat) : ∀ c ∈ dottedQuarter tier, Lasts (3 / 8) c := by
  unfold dottedQuarter
  split <;> decide +kernel

theorem lasts_half (tier : Nat) : ∀ c ∈ half tier, Lasts (1 / 2) c := by
  unfold half
  split <;> decide +kernel

theorem lasts_of_mem_library {span : Rat} {tier : Nat} {c : Cell} (h : c ∈ library span tier) :
    Lasts span c := by
  unfold library at h
  split_ifs at h with h1 h2 h3
  · exact h1 ▸ lasts_quarter tier c h
  · exact h2 ▸ lasts_dottedQuarter tier c h
  · exact h3 ▸ lasts_half tier c h
  · exact absurd h List.not_mem_nil

theorem library_cases {span : Rat} {tier : Nat} (h : library span tier ≠ []) :
    library span tier ∈ [quarter tier, dottedQuarter tier, half tier] := by
  unfold library at h ⊢
  split_ifs at h ⊢ <;> simp_all

/-- Of a group only its strength matters to a weight, and of a level only how high it is. -/
theorem weightIn_congr {m m' : Meter} {group group' level level' : Int}
    (strong : isStrong m group = isStrong m' group') (low : level ≤ 4 ↔ level' ≤ 4)
    (high : 8 ≤ level ↔ 8 ≤ level') (c : Cell) (afterRun : Bool) :
    c.weightIn group m level afterRun = c.weightIn group' m' level' afterRun := by
  have hmid : 4 < level ↔ 4 < level' := by omega
  cases c with
  | nil => rfl
  | cons e c => simp only [weightIn, strong, low, high, hmid]

def haveUsableWeights (cells : List Cell) (group : Int) (m : Meter) (level : Int)
    (afterRun : Bool) : Bool :=
  match cells.mapM fun c => c.weightIn group m level afterRun with
  | .ok ws => Weight.isUsable (ws.map Number.real)
  | .error _ => false

/-- Levels that share tier and weights with every other level. -/
def exemplars : List Nat := [1, 3, 5, 7, 8, 9]

theorem exists_exemplar {level : Nat} (low : 1 ≤ level) (high : level ≤ 10) :
    ∃ k ∈ exemplars, tierOf k = tierOf level ∧ (level ≤ 4 ↔ k ≤ 4) ∧ (8 ≤ level ↔ 8 ≤ k) := by
  interval_cases level <;> decide

theorem haveUsableWeights_exemplars :
    ∀ k ∈ exemplars, ∀ cells ∈ [quarter (tierOf k), dottedQuarter (tierOf k), half (tierOf k)],
      ∀ group ∈ [0, 1], ∀ afterRun ∈ [true, false],
        haveUsableWeights cells group ⟨1, 1⟩ k afterRun = true := by
  decide +kernel

theorem exists_group (m : Meter) (group : Int) :
    ∃ g ∈ [(0 : Int), 1], isStrong m group = isStrong ⟨1, 1⟩ g := by
  cases h : isStrong m group with
  | false => exact ⟨1, by simp, rfl⟩
  | true => exact ⟨0, by simp, rfl⟩

theorem exists_usable_weights {level : Nat} (low : 1 ≤ level) (high : level ≤ 10)
    {span : Rat} (some : library span (tierOf level) ≠ []) (m : Meter) (group : Int)
    (afterRun : Bool) :
    ∃ ws, (library span (tierOf level)).mapM (fun c => c.weightIn group m level afterRun) = .ok ws ∧
      Weight.Usable (ws.map Number.real) := by
  obtain ⟨k, hk, htier, hlow, hhigh⟩ := exists_exemplar low high
  obtain ⟨g, hg, hstrong⟩ := exists_group m group
  have hcells := library_cases some
  rw [← htier] at hcells ⊢
  have hweights : (fun c : Cell => c.weightIn group m level afterRun) =
      fun c => c.weightIn g ⟨1, 1⟩ k afterRun :=
    funext fun c => weightIn_congr hstrong (by omega) (by omega) c afterRun
  have husable := haveUsableWeights_exemplars k hk _ hcells g hg afterRun (by cases afterRun <;> simp)
  rw [hweights]
  unfold haveUsableWeights at husable
  split at husable
  · rename_i ws hws
    exact ⟨ws, hws, Weight.usable_of_isUsable husable⟩
  · cases husable

end Cell

namespace Rhythm
open Gen

inductive Block (m : Meter) (beat : Rat) (level units : Nat) : List Event → Prop
  | cell {c : Cell} (mem : c ∈ Cell.library (beat * units) (Cell.tierOf level)) :
    Block m beat level units c
  | units (none : Cell.library (beat * units) (Cell.tierOf level) = []) :
    Block m beat level units (List.replicate units m.unit)

/-- Blocks in a row, one for each group. -/
inductive Grouping (m : Meter) (beat : Rat) (level : Nat) : List Nat → List Event → Prop
  | nil : Grouping m beat level [] []
  | cons {units : Nat} {groups : List Nat} {block es : List Event}
    (first : Block m beat level units block) (rest : Grouping m beat level groups es) :
    Grouping m beat level (units :: groups) (block ++ es)

section
variable {m : Meter} {level : Nat}

theorem yields_chooseCell (low : 1 ≤ level) (high : level ≤ 10) {span : Rat}
    (some : Cell.library span (Cell.tierOf level) ≠ []) (group : Nat) (afterRun : Bool) :
    Yields (chooseCell m level (Cell.library span (Cell.tierOf level)) group afterRun)
      (· ∈ Cell.library span (Cell.tierOf level)) := by
  obtain ⟨ws, hws, usable⟩ := Cell.exists_usable_weights low high some m group afterRun
  refine (yields_lift hws rfl (P := (· = ws))).bind ?_
  rintro _ rfl
  exact yields_weighted some (by rw [List.length_map, length_of_mapM hws]) usable

theorem yields_fillGroups (low : 1 ≤ level) (high : level ≤ 10) (beat : Rat) (groups : List Nat)
    (group : Nat) (afterRun : Bool) :
    Yields (fillGroups m beat level groups group afterRun) (Grouping m beat level groups) := by
  -- cells are usable in any group and after any cell, so both vary
  induction groups generalizing group afterRun with
  | nil => exact yields_pure .nil
  | cons units groups ih =>
    unfold fillGroups
    split
    · rename_i none
      refine (ih (group + 1) false).bind ?_
      intro es hes
      exact yields_pure (.cons (.units none) hes)
    · rename_i some
      refine (yields_chooseCell low high some group afterRun).bind ?_
      intro c hc
      refine (ih (group + 1) c.isRun).bind ?_
      intro es hes
      exact yields_pure (.cons (.cell hc) hes)

theorem Block.nonzero (positive : m.Positive) {beat : Rat} {units : Nat} {es : List Event}
    (h : Block m beat level units es) : ∀ e ∈ es, e ≠ 0 := by
  cases h with
  | cell mem => exact (Cell.lasts_of_mem_library mem).2.1
  | units _ =>
    intro e he
    rw [List.eq_of_mem_replicate he]
    exact positive.unit_pos.ne'

theorem Block.lengthOf_eq (positive : m.Positive) {units : Nat} {es : List Event}
    (h : Block m (1 / m.unit) level units es) : lengthOf es = 1 / m.unit * units := by
  cases h with
  | cell mem => exact (Cell.lasts_of_mem_library mem).2.2
  | units _ =>
    have hunit : (m.unit.natAbs : Rat) = m.unit := by
      rw [← Int.cast_natCast, Int.natAbs_of_nonneg positive.unit_pos.le]
    rw [lengthOf_replicate, Event.length, hunit, mul_comm]

theorem Grouping.nonzero (positive : m.Positive) {beat : Rat} {groups : List Nat} {es : List Event}
    (h : Grouping m beat level groups es) : ∀ e ∈ es, e ≠ 0 := by
  induction h with
  | nil => exact fun e he => absurd he List.not_mem_nil
  | cons first _ ih =>
    intro e he
    rcases List.mem_append.mp he with he | he
    · exact first.nonzero positive e he
    · exact ih e he

theorem Grouping.lengthOf_eq (positive : m.Positive) {groups : List Nat} {es : List Event}
    (h : Grouping m (1 / m.unit) level groups es) : lengthOf es = 1 / m.unit * groups.sum := by
  induction h with
  | nil => simp
  | cons first _ ih =>
    rw [lengthOf_append, first.lengthOf_eq positive, ih, List.sum_cons]
    push_cast
    ring

theorem groups_sum (m : Meter) : m.groups.sum = m.beats.toNat := by
  unfold Meter.groups
  split_ifs with h1 h2 h3 h4 h5 h6 h7 h8
  · rw [h1.2]; rfl
  · rw [h2.2]; rfl
  · rw [h3.2]; rfl
  · rw [h4.2]; rfl
  · rw [h5.2]; rfl
  · rw [h6.2]; rfl
  · rw [h7.2]; rfl
  · rw [h8.2]; rfl
  · simp

theorem Grouping.filledBy (positive : m.Positive) {es : List Event}
    (h : Grouping m (1 / m.unit) level m.groups es) : m.FilledBy es where
  nonzero := h.nonzero positive
  total := by
    have hbeats : (m.beats.toNat : Rat) = m.beats := by
      rw [← Int.cast_natCast, Int.toNat_of_nonneg (by have := positive.beats_pos; omega)]
    rw [h.lengthOf_eq positive, groups_sum, hbeats, one_div_mul_eq_div]

theorem plan_of_le (positive : m.Positive) (fits : m.beats ≤ Word.longestRow) :
    m.plan = .ok m.groups := by
  have low : 0 ≤ m.beats := Int.le_of_lt positive.beats_pos
  rw [Meter.plan, Word.checkRow_of_le low fits]
  rfl

/-- A filling by cells always succeeds, and every group gets its block. -/
theorem yields_fillByGroups (positive : m.Positive) (fits : m.beats ≤ Word.longestRow)
    (low : 1 ≤ level) (high : level ≤ 10) :
    Yields (fillByGroups m level) (Grouping m (1 / m.unit) level m.groups) := by
  refine (yields_lift (plan_of_le positive fits) rfl (P := (· = m.groups))).bind ?_
  rintro _ rfl
  refine (yields_lift positive.beat_eq rfl (P := (· = 1 / (m.unit : Rat)))).bind ?_
  rintro _ rfl
  exact yields_fillGroups low high _ _ 0 false

end

end Rhythm
end Tonality
