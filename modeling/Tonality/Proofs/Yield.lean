import Tonality.Weighted

/-!
Computations with draws that always succeed. Such a computation gives a value
from every source, and the values share a property; the rules follow the way
computations are put together. A weighted choice is of this sort when its
weights are usable: they can be made ready, none is negative, their total is
above zero and their shares add up to one.
-/

namespace Tonality
namespace Gen

variable {α β : Type}

/-- Every source gives a value, and the value has the property. -/
def Yields (g : Gen α) (P : α → Prop) : Prop :=
  ∀ s : Draws, ∃ a t, run g s = (.ok a, t) ∧ P a

theorem Yields.mono {g : Gen α} {P Q : α → Prop} (h : Yields g P) (pq : ∀ a, P a → Q a) :
    Yields g Q := by
  intro s
  obtain ⟨a, t, hr, hp⟩ := h s
  exact ⟨a, t, hr, pq a hp⟩

theorem yields_pure {a : α} {P : α → Prop} (h : P a) : Yields (pure a) P :=
  fun s => ⟨a, s, rfl, h⟩

theorem yields_lift {a : α} {P : α → Prop} {x : Except Error α} (hx : x = .ok a) (h : P a) :
    Yields (lift x) P := by
  intro s
  exact ⟨a, s, by rw [run_lift, hx], h⟩

theorem Yields.bind {g : Gen α} {f : α → Gen β} {P : α → Prop} {Q : β → Prop}
    (hg : Yields g P) (hf : ∀ a, P a → Yields (f a) Q) : Yields (g >>= f) Q := by
  intro s
  obtain ⟨a, t, hr, hp⟩ := hg s
  obtain ⟨b, u, hb, hq⟩ := hf a hp t
  exact ⟨b, u, by rw [run_bind, hr]; exact hb, hq⟩

theorem yields_next : Yields next fun _ => True :=
  fun s => ⟨_, _, run_next s, trivial⟩

theorem yields_chance (p : Number) : Yields (chance p) fun _ => True :=
  yields_next.bind fun _ _ => yields_pure trivial

/-- One draw decides which of the items it is. -/
theorem yields_uniform {items : List α} (ne : items ≠ []) : Yields (uniform items) (· ∈ items) := by
  obtain ⟨first, rest, rfl⟩ := List.exists_cons_of_ne_nil ne
  refine yields_next.bind fun k _ => yields_pure ?_
  rw [List.getD_eq_getElem?_getD]
  cases hi : (first :: rest)[k.toNat * (first :: rest).length / 0x100000000]? with
  | none => exact List.mem_cons_self
  | some a => exact List.mem_of_getElem? hi

end Gen

namespace Weight
variable {β : Type} [Weight β]

def Usable (weights : List β) : Prop :=
  ∃ ws, weights.mapM ready = .ok ws ∧ ws.any isNegative = false ∧
    isExhausted (total ws) = false ∧ isBalanced (shares ws) = true

def isUsable (weights : List β) : Bool :=
  match weights.mapM ready with
  | .ok ws => !ws.any isNegative && !isExhausted (total ws) && isBalanced (shares ws)
  | .error _ => false

theorem usable_of_isUsable {weights : List β} (h : isUsable weights = true) : Usable weights := by
  unfold isUsable at h
  split at h
  · rename_i ws hw
    simp only [Bool.and_eq_true, Bool.not_eq_true'] at h
    exact ⟨ws, hw, h.1.1, h.1.2, h.2⟩
  · exact absurd h Bool.false_ne_true

end Weight

namespace Gen
variable {α β : Type} [Weight β]
open Weight

/-- With usable weights one draw is taken, and the parts of the items decide. -/
theorem run_weighted {items : List α} {weights ws : List β} {last : α}
    (hlast : items.getLast? = some last) (same : weights.length = items.length)
    (hready : weights.mapM ready = .ok ws) (hneg : ws.any isNegative = false)
    (htotal : isExhausted (total ws) = false) (hshares : isBalanced (shares ws) = true)
    (s : Draws) :
    run (weighted items weights) s =
      (.ok (items.getD (position (bounds (shares ws)) (unitFraction (s.word s.used))) last),
        s.rest 1) := by
  have hbad : (ws.any isNegative || isExhausted (total ws)) = false := by rw [hneg, htotal]; rfl
  simp only [weighted, hlast, same, ne_eq, not_true_eq_false, if_false, run_bind, run_lift,
    run_pure, run_next, hready, hbad, hshares, Bool.not_true, Bool.false_eq_true]

theorem yields_weighted {items : List α} {weights : List β} (ne : items ≠ [])
    (same : weights.length = items.length) (usable : Usable weights) :
    Yields (weighted items weights) (· ∈ items) := by
  obtain ⟨ws, hready, hneg, htotal, hshares⟩ := usable
  have hlast := List.getLast?_eq_some_getLast ne
  intro s
  refine ⟨_, _, run_weighted hlast same hready hneg htotal hshares s, ?_⟩
  rw [List.getD_eq_getElem?_getD]
  cases hi : items[position (bounds (shares ws)) (unitFraction (s.word s.used))]? with
  | none => exact List.getLast_mem ne
  | some a => exact List.mem_of_getElem? hi

end Gen
end Tonality
