import Tonality.Proofs.Reach
import Tonality.Proofs.Yield

/-!
Draws that are taken. Whatever comes of a computation, it leaves its source where it was or
further on. Some computations take the same number of draws from every source: then what
they give depends on these draws alone, wherever in a source they stand and whatever stands
around them.
-/

namespace Tonality

namespace Draws

end Draws

namespace Gen
variable {α β : Type}

/-- Whatever comes of it, the source is only moved on. -/
def Advances (g : Gen α) : Prop := ∀ s : Draws, ∃ n, (run g s).2 = s.rest n

theorem advances_pure (a : α) : Advances (pure a) := fun _ => ⟨0, rfl⟩

theorem advances_throw (e : Error) : Advances (throw e : Gen α) := fun _ => ⟨0, rfl⟩

theorem advances_lift (x : Except Error α) : Advances (lift x) := fun _ => ⟨0, rfl⟩

theorem advances_next : Advances next := fun _ => ⟨1, rfl⟩

theorem Advances.bind {g : Gen α} {f : α → Gen β} (hg : Advances g) (hf : ∀ a, Advances (f a)) :
    Advances (g >>= f) := by
  intro s
  obtain ⟨m, hm⟩ := hg s
  rw [run_bind]
  cases h : run g s with
  | mk r t =>
    rw [h] at hm
    subst hm
    cases r with
    | error e => exact ⟨m, rfl⟩
    | ok a =>
      obtain ⟨n, hn⟩ := hf a (s.rest m)
      exact ⟨m + n, hn.trans (Draws.rest_rest s m n)⟩

theorem advances_chance (p : Number) : Advances (chance p) :=
  advances_next.bind fun _ => advances_pure _

theorem advances_uniform (items : List α) : Advances (uniform items) := by
  unfold uniform
  split
  · exact advances_throw _
  · exact advances_next.bind fun _ => advances_pure _

theorem Yields.run_rest {g : Gen α} {P : α → Prop} (h : Yields g P) (advances : Advances g)
    (s : Draws) : ∃ a n, run g s = (.ok a, s.rest n) ∧ P a := by
  obtain ⟨a, t, hrun, hp⟩ := h s
  obtain ⟨n, hn⟩ := advances s
  rw [hrun] at hn
  exact ⟨a, n, by rw [hrun, ← hn], hp⟩

/-- Every row of so many words leads to a value. -/
def Spends (g : Gen α) (n : Nat) : Prop := ∀ words : List UInt32, words.length = n → ∃ a, Leads g words a

theorem Spends.bind {g : Gen α} {f : α → Gen β} {m n : Nat} (hg : Spends g m)
    (hf : ∀ a, Reaches g a → Spends (f a) n) : Spends (g >>= f) (m + n) := by
  intro words length
  obtain ⟨a, ha⟩ := hg (words.take m) (by rw [List.length_take]; omega)
  obtain ⟨b, hb⟩ := hf a ⟨_, ha⟩ (words.drop m) (by rw [List.length_drop]; omega)
  have hbind := ha.bind hb
  rw [List.take_append_drop] at hbind
  exact ⟨b, hbind⟩

end Gen
end Tonality
