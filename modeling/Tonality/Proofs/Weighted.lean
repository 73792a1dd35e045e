import Mathlib.Algebra.BigOperators.Group.List.Basic
import Mathlib.Algebra.BigOperators.Ring.List
import Mathlib.Algebra.Order.BigOperators.Group.List
import Mathlib.Tactic.Linarith
import Tonality.Proofs.Chance
import Tonality.Proofs.Outcome

/-!
Choice in proportion to weights, in exact arithmetic. Whatever the order in which weights are
added, the total is their sum, and so the shares of usable weights always add up to one. The
weights laid end to end divide the total into parts; a draw is a fraction of the total and picks
the item whose part covers it. A part without length covers nothing, so an item of weight zero
is never picked, wherever in the row it stands.
-/

namespace Tonality
namespace Weight

@[simp] theorem zero_rat : (zero : Rat) = 0 := rfl

@[simp] theorem add_rat (x y : Rat) : add x y = x + y := rfl

@[simp] theorem quotient_rat (x y : Rat) : quotient x y = x / y := rfl

theorem foldl_add_rat (a : Rat) (ws : List Rat) : ws.foldl add a = a + ws.sum := by
  induction ws generalizing a with
  | nil => exact (add_zero a).symm
  | cons w ws ih => rw [List.foldl_cons, ih, add_rat, List.sum_cons, add_assoc]

theorem length_pairs {α : Type} [Weight α] (ws : List α) :
    (pairs ws).length = (ws.length + 1) / 2 := by
  fun_induction pairs ws with
  | case1 x y ws ih =>
    simp only [List.length_cons, ih]
    omega
  | case2 ws short =>
    match ws with
    | [] => simp
    | [_] => simp
    | x :: y :: ws => exact (short x y ws rfl).elim

theorem sum_pairs (ws : List Rat) : (pairs ws).sum = ws.sum := by
  fun_induction pairs ws with
  | case1 x y ws ih => rw [List.sum_cons, ih, add_rat, List.sum_cons, List.sum_cons, add_assoc]
  | case2 ws short => rfl

/-- A row goes from the weights to the columns, which stay eight. -/
theorem addRows_keeps {columns : List Rat} (eight : columns.length = 8) (ws : List Rat) :
    (addRows columns ws).1.length = 8 ∧
      (addRows columns ws).1.sum + (addRows columns ws).2.sum = columns.sum + ws.sum := by
  fun_induction addRows columns ws with
  | case1 columns a b c d e f g h ws ih =>
    have row : columns.length = [a, b, c, d, e, f, g, h].length := eight
    have added : (columns.zipWith add [a, b, c, d, e, f, g, h]).sum =
        columns.sum + [a, b, c, d, e, f, g, h].sum :=
      (List.sum_add_sum_eq_sum_zipWith_of_length_eq _ _ row).symm
    obtain ⟨hlength, hsum⟩ := ih (by rw [List.length_zipWith, eight]; rfl)
    refine ⟨hlength, hsum.trans ?_⟩
    rw [added, add_assoc, ← List.sum_append]
    rfl
  | case2 columns ws short => exact ⟨eight, rfl⟩

theorem columnTotal_eq_sum {ws : List Rat} (long : 8 ≤ ws.length) : columnTotal ws = ws.sum := by
  have eight : (ws.take 8).length = 8 := by rw [List.length_take]; omega
  obtain ⟨hlength, hsum⟩ := addRows_keeps eight (ws.drop 8)
  rw [List.sum_take_add_sum_drop] at hsum
  unfold columnTotal
  cases hrows : addRows (ws.take 8) (ws.drop 8) with
  | mk columns rest =>
    rw [hrows] at hlength hsum
    have hone : (pairs (pairs (pairs columns))).length = 1 := by
      simp only [length_pairs, hlength]
    obtain ⟨t, ht⟩ := List.length_eq_one_iff.mp hone
    have htotal : t = columns.sum := by
      rw [← sum_pairs columns, ← sum_pairs (pairs columns), ← sum_pairs (pairs (pairs columns)), ht,
        List.sum_singleton]
    dsimp only
    rw [foldl_add_rat, ht, List.headD_cons, htotal, hsum]

theorem totalWithin_eq_sum (depth : Nat) (ws : List Rat) : totalWithin depth ws = ws.sum := by
  induction depth generalizing ws with
  | zero => rw [totalWithin, foldl_add_rat, zero_rat, zero_add]
  | succ depth ih =>
    rw [totalWithin]
    split_ifs with short middle
    · rw [foldl_add_rat, zero_rat, zero_add]
    · exact columnTotal_eq_sum (Nat.not_lt.mp short)
    · rw [ih, ih, add_rat, List.sum_take_add_sum_drop]

theorem total_eq_sum (ws : List Rat) : total ws = ws.sum := totalWithin_eq_sum _ ws

theorem shares_eq (ws : List Rat) : shares ws = ws.map (· / ws.sum) := by
  rw [shares, total_eq_sum]
  rfl

theorem sum_map_div (ws : List Rat) (t : Rat) : (ws.map (· / t)).sum = ws.sum / t := by
  simp only [div_eq_mul_inv, List.sum_map_mul_right, List.map_id']

theorem sum_shares {ws : List Rat} (positive : 0 < ws.sum) : (shares ws).sum = 1 := by
  rw [shares_eq, sum_map_div, div_self positive.ne']

theorem sum_take_shares (ws : List Rat) (i : Nat) :
    ((shares ws).take i).sum = (ws.take i).sum / ws.sum := by
  rw [shares_eq, ← List.map_take, sum_map_div]

theorem shares_nonneg {ws : List Rat} (nonneg : ∀ w ∈ ws, 0 ≤ w) (positive : 0 < ws.sum) :
    ∀ p ∈ shares ws, 0 ≤ p := by
  rw [shares_eq]
  intro p hp
  obtain ⟨w, hw, rfl⟩ := List.mem_map.mp hp
  exact div_nonneg (nonneg w hw) positive.le

theorem isBalanced_shares {ws : List Rat} (positive : 0 < ws.sum) :
    isBalanced (shares ws) = true := by
  have htotal : (shares ws).foldl (· + ·) 0 = 1 := by
    rw [← List.sum_eq_foldl, sum_shares positive]
  exact beq_iff_eq.mpr htotal

theorem ready_rat (ws : List Rat) : ws.mapM ready = Except.ok ws := by
  have hready : ws.mapM ready = .ok (ws.map id) := mapM_eq_ok fun _ _ => rfl
  rwa [List.map_id] at hready

theorem getLast_sums (a : Rat) (ps : List Rat) : (sums a ps).getLast?.getD a = a + ps.sum := by
  induction ps generalizing a with
  | nil => exact (add_zero a).symm
  | cons p ps ih =>
    rw [sums, List.getLast?_cons, Option.getD_some, ih, add_rat, List.sum_cons, add_assoc]

/-- The last bound is one already, and dividing by it changes nothing. -/
theorem bounds_shares {ws : List Rat} (positive : 0 < ws.sum) :
    bounds (shares ws) = sums 0 (shares ws) := by
  have hlast : (sums 0 (shares ws)).getLast?.getD 0 = 1 := by
    rw [getLast_sums, sum_shares positive, zero_add]
  simp only [bounds, zero_rat, hlast, quotient_rat, div_one, List.map_id']

/-- With the weights laid end to end, those before item `i` do not exceed the amount and the
weight of item `i` leads beyond it. -/
structure Covers (ws : List Rat) (i : Nat) (u : Rat) : Prop where
  reached : (ws.take i).sum ≤ u
  beyond : u < (ws.take (i + 1)).sum

namespace Covers
variable {w u : Rat} {ws : List Rat} {i : Nat}

theorem head (reached : 0 ≤ u) (beyond : u < w) : Covers (w :: ws) 0 u where
  reached := reached
  beyond := by simpa using beyond

theorem tail (h : Covers ws i (u - w)) : Covers (w :: ws) (i + 1) u where
  reached := by
    rw [List.take_succ_cons, List.sum_cons]
    linarith [h.reached]
  beyond := by
    rw [List.take_succ_cons, List.sum_cons]
    linarith [h.beyond]

/-- A part that covers something has a length. -/
theorem positive (h : Covers ws i u) : ∃ w, ws[i]? = some w ∧ 0 < w := by
  obtain ⟨reached, beyond⟩ := h
  rcases Nat.lt_or_ge i ws.length with inside | outside
  · refine ⟨ws[i], List.getElem?_eq_getElem inside, ?_⟩
    rw [List.sum_take_succ ws i inside] at beyond
    linarith
  · rw [List.take_of_length_le outside] at reached
    rw [List.take_of_length_le (by omega)] at beyond
    linarith

end Covers

section
variable {ws : List Rat}

theorem le_of_mem_sums {a c : Rat} (nonneg : ∀ w ∈ ws, 0 ≤ w) (h : c ∈ sums a ws) : a ≤ c := by
  induction ws generalizing a with
  | nil => cases h
  | cons w ws ih =>
    have hw := nonneg w List.mem_cons_self
    rw [sums, List.mem_cons, add_rat] at h
    rcases h with rfl | h
    · linarith
    · linarith [ih (fun v hv => nonneg v (List.mem_cons_of_mem w hv)) h]

/-- As many items stand before an amount as there are sums that do not exceed it. -/
theorem covers_sums {a u : Rat} (nonneg : ∀ w ∈ ws, 0 ≤ w) (low : a ≤ u) (high : u < a + ws.sum) :
    Covers ws ((sums a ws).countP (· ≤ u)) (u - a) := by
  -- along the row; what the items before amount to is the start of the rest
  induction ws generalizing a with
  | nil =>
    rw [List.sum_nil] at high
    linarith
  | cons w ws ih =>
    have hrest : ∀ v ∈ ws, 0 ≤ v := fun v hv => nonneg v (List.mem_cons_of_mem w hv)
    rw [List.sum_cons, ← add_assoc] at high
    rw [sums, add_rat]
    by_cases hpassed : a + w ≤ u
    · rw [List.countP_cons_of_pos (by simpa using hpassed)]
      have hcovers := ih hrest hpassed high
      rw [← sub_sub] at hcovers
      exact hcovers.tail
    · have hnone : (sums (a + w) ws).countP (· ≤ u) = 0 := by
        rw [List.countP_eq_zero]
        intro c hc hle
        exact hpassed ((le_of_mem_sums hrest hc).trans (of_decide_eq_true hle))
      rw [List.countP_cons_of_neg (by simpa using hpassed), hnone]
      exact .head (by linarith) (by linarith)

/-- A fraction of the total picks the item whose part covers so much of the total. -/
theorem covers_position (nonneg : ∀ w ∈ ws, 0 ≤ w) (positive : 0 < ws.sum) {r : Rat} (low : 0 ≤ r)
    (high : r < 1) : Covers ws (position (bounds (shares ws)) r) (r * ws.sum) := by
  have hbelow : r < 0 + (shares ws).sum := by rwa [sum_shares positive, zero_add]
  obtain ⟨reached, beyond⟩ := covers_sums (shares_nonneg nonneg positive) low hbelow
  rw [sum_take_shares, sub_zero] at reached beyond
  rw [position, bounds_shares positive]
  exact ⟨(div_le_iff₀ positive).mp reached, (lt_div_iff₀ positive).mp beyond⟩

end

/-- A greater draw has passed no fewer parts. -/
theorem position_mono (cs : List Rat) {r r' : Rat} (h : r ≤ r') :
    position cs r ≤ position cs r' := by
  apply List.countP_mono_left
  intro c _ hc
  exact decide_eq_true ((of_decide_eq_true hc).trans h)

end Weight

namespace Gen
open Weight
variable {α : Type}

/-- No choice can be made: there is nothing to choose from, or the weights do not line up with
the items, or one is negative, or they come to nothing. -/
def Refused (items : List α) (weights : List Rat) : Prop :=
  items = [] ∨ weights.length ≠ items.length ∨ (∃ w ∈ weights, w < 0) ∨ weights.sum ≤ 0

/-- A draw settles a choice: it is the only one that is taken, its fraction of the total lies in
the part of the item that is picked, and this item has a weight. A greater draw picks the same
item or a later one. The place of a draw is known for every fraction below one, also for those
that no word stands for. -/
structure Settled (items : List α) (weights : List Rat) (place : Rat → Nat) : Prop where
  taken : ∀ s : Draws, ∃ item, items[place (unitFraction (s.word s.used))]? = some item ∧
    run (weighted items weights) s = (.ok item, s.rest 1)
  covered : ∀ r, 0 ≤ r → r < 1 → Covers weights (place r) (r * weights.sum)
  positive : ∀ r, 0 ≤ r → r < 1 →
    ∃ item w, items[place r]? = some item ∧ weights[place r]? = some w ∧ 0 < w
  ordered : ∀ r r', r ≤ r' → place r ≤ place r'
  orderedWords : ∀ k k', k ≤ k' → place (unitFraction k) ≤ place (unitFraction k')

theorem run_weighted_of_refused {items : List α} {weights : List Rat}
    (h : Refused items weights) (s : Draws) :
    ∃ e, run (weighted items weights) s = (.error e, s) ∧ e.kind = .generation := by
  -- the items are looked at before the weights, and the count of the weights before their values
  cases hlast : items.getLast? with
  | none => exact ⟨.noWeightedCandidates, by simp only [weighted, hlast, run_throw], rfl⟩
  | some last =>
    by_cases same : weights.length = items.length
    · have hbad : (weights.any isNegative || isExhausted (total weights)) = true := by
        rw [Bool.or_eq_true, List.any_eq_true]
        rcases h with rfl | differ | ⟨w, hw, negative⟩ | exhausted
        · cases hlast
        · exact absurd same differ
        · exact .inl ⟨w, hw, decide_eq_true negative⟩
        · rw [← total_eq_sum] at exhausted
          exact .inr (decide_eq_true exhausted)
      refine ⟨.unusableWeights (listText weights), ?_, rfl⟩
      simp only [weighted, hlast, same, ne_eq, not_true_eq_false, if_false, run_bind, run_lift,
        ready_rat, hbad, if_true, run_throw]
    · refine ⟨.weightCount weights.length items.length, ?_, rfl⟩
      simp only [weighted, hlast, ne_eq, same, not_false_eq_true, if_true, run_bind, run_throw]

theorem settled_of_not_refused {items : List α} {weights : List Rat}
    (h : ¬Refused items weights) : Settled items weights (position (bounds (shares weights))) := by
  unfold Refused at h
  push Not at h
  obtain ⟨ne, same, nonneg, positive⟩ := h
  have hlast := List.getLast?_eq_some_getLast ne
  have hneg : weights.any isNegative = false := by
    rw [List.any_eq_false]
    intro w hw hnegative
    exact absurd (of_decide_eq_true hnegative) (not_lt.mpr (nonneg w hw))
  have htotal : isExhausted (total weights) = false := by
    rw [total_eq_sum]
    exact decide_eq_false (not_le.mpr positive)
  have hcovered (r : Rat) (low : 0 ≤ r) (high : r < 1) :
      Covers weights (position (bounds (shares weights)) r) (r * weights.sum) :=
    covers_position nonneg positive low high
  have hpicked (r : Rat) (low : 0 ≤ r) (high : r < 1) :
      ∃ item w, items[position (bounds (shares weights)) r]? = some item ∧
        weights[position (bounds (shares weights)) r]? = some w ∧ 0 < w := by
    obtain ⟨w, hw, weighty⟩ := (hcovered r low high).positive
    have hinside := (List.getElem?_eq_some_iff.mp hw).1
    rw [same] at hinside
    exact ⟨_, w, List.getElem?_eq_getElem hinside, hw, weighty⟩
  refine
    { taken := fun s => ?_
      covered := hcovered
      positive := hpicked
      ordered := fun _ _ => position_mono _
      orderedWords := fun _ _ h => position_mono _ (unitFraction_mono h) }
  obtain ⟨item, -, hitem, -⟩ :=
    hpicked _ (unitFraction_nonneg (s.word s.used)) (unitFraction_lt_one _)
  refine ⟨item, hitem, ?_⟩
  rw [run_weighted hlast same (ready_rat weights) hneg htotal (isBalanced_shares positive),
    List.getD_eq_getElem?_getD, hitem, Option.getD_some]

/-- A choice by weight fails as a fault of generation and takes no draw when it is refused, and
only then; otherwise one draw settles it. -/
theorem weighted_exactly (items : List α) (weights : List Rat) :
    (∀ s, Refused items weights ↔
      ∃ e, run (weighted items weights) s = (.error e, s) ∧ e.kind = .generation) ∧
    (¬Refused items weights → Settled items weights (position (bounds (shares weights)))) := by
  refine ⟨fun s => ⟨fun h => run_weighted_of_refused h s, ?_⟩, settled_of_not_refused⟩
  rintro ⟨e, hrun, -⟩
  by_contra h
  obtain ⟨item, -, hitem⟩ := (settled_of_not_refused h).taken s
  rw [hrun] at hitem
  cases hitem

/-- Of nine weights only two are above zero and they are equal: the last draw below a half picks
the one, a half itself the other. A choice with a negative weight is refused. -/
theorem weighted_exactly_halves :
    ¬Refused (List.range 9) [0, 0, 1 / 3, 0, 0, 1 / 3, 0, 0, 0] ∧
    (run (weighted (List.range 9) [0, 0, (1 / 3 : Rat), 0, 0, 1 / 3, 0, 0, 0])
      (Draws.cycle [0x7FFFFFFF])).1 = .ok 2 ∧
    (run (weighted (List.range 9) [0, 0, (1 / 3 : Rat), 0, 0, 1 / 3, 0, 0, 0])
      (Draws.cycle [0x80000000])).1 = .ok 5 ∧
    ∃ e, run (weighted ["a", "b"] [(1 : Rat), -1]) (Draws.cycle []) = (.error e, Draws.cycle []) ∧
      e.kind = .generation := by
  have usable : ¬Refused (List.range 9) [0, 0, 1 / 3, 0, 0, 1 / 3, 0, 0, 0] := by
    unfold Refused
    decide +kernel
  obtain ⟨-, settled⟩ := weighted_exactly (List.range 9) [0, 0, 1 / 3, 0, 0, 1 / 3, 0, 0, 0]
  have picks (k : UInt32) (i : Nat) (hi : i < 9)
      (hplace : position (bounds (shares [0, 0, (1 / 3 : Rat), 0, 0, 1 / 3, 0, 0, 0]))
        (unitFraction k) = i) :
      (run (weighted (List.range 9) [0, 0, (1 / 3 : Rat), 0, 0, 1 / 3, 0, 0, 0])
        (Draws.cycle [k])).1 = .ok i := by
    obtain ⟨item, hitem, hrun⟩ := (settled usable).taken (Draws.cycle [k])
    have hword : (Draws.cycle [k]).word (Draws.cycle [k]).used = k := rfl
    rw [hword, hplace, List.getElem?_range hi] at hitem
    rw [hrun, Option.some.inj hitem]
  refine ⟨usable, picks _ 2 (by decide) (by decide +kernel), picks _ 5 (by decide) (by decide +kernel),
    ((weighted_exactly ["a", "b"] [1, -1]).1 _).mp ?_⟩
  exact .inr (.inr (.inl ⟨-1, by decide, by decide⟩))

end Gen
end Tonality
