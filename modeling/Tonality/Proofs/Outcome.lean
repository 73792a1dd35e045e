import Tonality.Error

/-!
Outcomes of computations that may fail. What succeeds has succeeded part by part, a row of
computations that all succeed gives the row of their values, and `Within` says what a
computation may come to: either a value with a property or an error of certain kinds.
-/

namespace Tonality

variable {α β : Type}

theorem exists_of_bind {x : Except Error α} {f : α → Except Error β} {b : β}
    (h : x >>= f = .ok b) : ∃ a, x = .ok a ∧ f a = .ok b := by
  cases x with
  | error e => cases h
  | ok a => exact ⟨a, rfl, h⟩

theorem exists_of_map {x : Except Error α} {f : α → β} {b : β} (h : x.map f = .ok b) :
    ∃ a, x = .ok a ∧ f a = b := by
  cases x with
  | error e => cases h
  | ok a => exact ⟨a, rfl, Except.ok.inj h⟩

theorem mapM_eq_ok {f : α → Except Error β} {g : α → β} {xs : List α}
    (h : ∀ x ∈ xs, f x = .ok (g x)) : xs.mapM f = .ok (xs.map g) := by
  induction xs with
  | nil => rfl
  | cons x xs ih =>
    have hx := h x List.mem_cons_self
    have hxs := ih fun y hy => h y (List.mem_cons_of_mem x hy)
    simp [List.mapM_cons, hx, hxs, bind, Except.bind, pure, Except.pure]

theorem exists_mapM_eq_ok {f : α → Except Error β} {xs : List α} (h : ∀ x ∈ xs, ∃ y, f x = .ok y) :
    ∃ ys, xs.mapM f = .ok ys := by
  induction xs with
  | nil => exact ⟨[], rfl⟩
  | cons x xs ih =>
    obtain ⟨y, hy⟩ := h x List.mem_cons_self
    obtain ⟨ys, hys⟩ := ih fun z hz => h z (List.mem_cons_of_mem x hz)
    exact ⟨y :: ys, by simp [List.mapM_cons, hy, hys, bind, Except.bind, pure, Except.pure]⟩

theorem length_of_mapM {f : α → Except Error β} {xs : List α} {ys : List β}
    (h : xs.mapM f = .ok ys) : ys.length = xs.length := by
  induction xs generalizing ys with
  | nil =>
    obtain rfl : [] = ys := Except.ok.inj h
    rfl
  | cons x xs ih =>
    rw [List.mapM_cons] at h
    obtain ⟨y, -, hrest⟩ := exists_of_bind h
    obtain ⟨zs, hzs, hcons⟩ := exists_of_bind hrest
    obtain rfl : y :: zs = ys := Except.ok.inj hcons
    rw [List.length_cons, List.length_cons, ih hzs]

/-- A value has the property and an error is of one of the kinds. -/
def Within (kinds : List Kind) (P : α → Prop) : Except Error α → Prop
  | .ok a => P a
  | .error e => e.kind ∈ kinds

namespace Within

variable {kinds : List Kind} {P : α → Prop} {Q : β → Prop}

theorem weaken {kinds' : List Kind} {x : Except Error α} (hx : Within kinds P x)
    (h : kinds ⊆ kinds') : Within kinds' P x := by
  cases x with
  | error e => exact h hx
  | ok a => exact hx

theorem map {x : Except Error α} (f : α → β) (hx : Within kinds P x) (h : ∀ a, P a → Q (f a)) :
    Within kinds Q (x.map f) := by
  cases x with
  | error e => exact hx
  | ok a => exact h a hx

end Within
end Tonality
