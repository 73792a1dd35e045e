import Mathlib.Algebra.Order.Field.Rat
import Mathlib.Data.Rat.Cast.Order
import Mathlib.Tactic.Positivity
import Tonality.Proofs.Yield

/-!
Chances that leave nothing open. A draw stands for a fraction from zero on and below one, so
it always falls below a chance of one or more and never below a chance of zero or less.
Chances are compared exactly, whether they are integers, doubles or infinite.
-/

namespace Tonality

theorem unitFraction_nonneg (k : UInt32) : 0 ≤ unitFraction k := by
  rw [unitFraction, Rat.mkRat_eq_div]
  positivity

theorem unitFraction_lt_one (k : UInt32) : unitFraction k < 1 := by
  have hword : (k.toNat : Rat) < 0x100000000 := by exact_mod_cast k.toNat_lt
  rw [unitFraction, Rat.mkRat_eq_div, div_lt_one (by norm_num)]
  exact_mod_cast hword

theorem unitFraction_mono {k k' : UInt32} (h : k ≤ k') : unitFraction k ≤ unitFraction k' := by
  have hword : (k.toNat : Rat) ≤ k'.toNat := by exact_mod_cast UInt32.le_iff_toNat_le.mp h
  simp only [unitFraction, Rat.mkRat_eq_div, Int.cast_natCast]
  gcongr

namespace Number

theorem above_of_atLeast {x : Number} {n : Int} (h : x.atLeast n = true) {r : Rat} (hr : r < n) :
    x.above r = true := by
  cases x with
  | int m =>
    have hm : (n : Rat) ≤ m := by exact_mod_cast of_decide_eq_true h
    exact decide_eq_true (hr.trans_le hm)
  | real y =>
    simp only [atLeast, above] at h ⊢
    cases hy : Binary64.ofFloat y with
    | nan => rw [hy] at h; cases h
    | infinite negative => rw [hy] at h; exact h
    | finite negative mantissa exponent =>
      rw [hy] at h
      exact decide_eq_true (hr.trans_le (of_decide_eq_true h))

theorem above_of_le {x : Number} {r r' : Rat} (h : x.above r = true) (hr : r' ≤ r) :
    x.above r' = true := by
  cases x with
  | int m => exact decide_eq_true (hr.trans_lt (of_decide_eq_true h))
  | real y =>
    simp only [above] at h ⊢
    cases hy : Binary64.ofFloat y with
    | nan => rw [hy] at h; cases h
    | infinite negative => rw [hy] at h; exact h
    | finite negative mantissa exponent =>
      rw [hy] at h
      exact decide_eq_true (hr.trans_lt (of_decide_eq_true h))

/-- Every draw falls below what is one or more. -/
theorem above_unitFraction {x : Number} (h : x.atLeast 1 = true) (k : UInt32) :
    x.above (unitFraction k) = true :=
  above_of_atLeast h (by exact_mod_cast unitFraction_lt_one k)

/-- No draw falls below what is not above zero. -/
theorem not_above_unitFraction {x : Number} (h : x.above 0 = false) (k : UInt32) :
    x.above (unitFraction k) = false := by
  rw [← Bool.not_eq_true]
  intro habove
  rw [above_of_le habove (unitFraction_nonneg k)] at h
  cases h

end Number

namespace Gen

theorem yields_chance_sure {p : Number} (sure : p.atLeast 1 = true) : Yields (chance p) (· = true) :=
  yields_next.bind fun k _ => yields_pure (Number.above_unitFraction sure k)

end Gen
end Tonality
