import Tonality.Weighted

/-!
Values that draws can lead to. A computation reaches a value when some finite row of words,
read from whatever source, makes it give that value and is used up by it. Reaching goes
through a computation part by part, the words of the parts one after the other; and of not
too many items every one is reached by a uniform choice.
-/

namespace Tonality

namespace Draws

/-- The words are the next ones. -/
def Reads (s : Draws) (words : List UInt32) : Prop :=
  ∀ i (h : i < words.length), s.word (s.used + i) = words[i]

@[simp] theorem rest_zero (s : Draws) : s.rest 0 = s := rfl

theorem rest_rest (s : Draws) (m n : Nat) : (s.rest m).rest n = s.rest (m + n) := by
  simp only [rest, Nat.add_assoc]

theorem reads_cycle (words : List UInt32) : (cycle words).Reads words := by
  intro i h
  have hplace : (0 + i) % words.length = i := by rw [Nat.zero_add, Nat.mod_eq_of_lt h]
  simp only [cycle, hplace, List.getD_eq_getElem?_getD, List.getElem?_eq_getElem h,
    Option.getD_some]

theorem Reads.append {s : Draws} {first second : List UInt32} (h : s.Reads (first ++ second)) :
    s.Reads first ∧ (s.rest first.length).Reads second := by
  constructor
  · intro i hi
    rw [h i (by rw [List.length_append]; omega), List.getElem_append_left hi]
  · intro i hi
    have hsecond := h (first.length + i) (by rw [List.length_append]; omega)
    simp only [List.getElem_append_right (Nat.le_add_right _ _), Nat.add_sub_cancel_left,
      ← Nat.add_assoc] at hsecond
    exact hsecond

end Draws

namespace Gen
variable {α β : Type}

/-- The words lead to the value, from whatever source they are read, and are used up. -/
def Leads (g : Gen α) (words : List UInt32) (a : α) : Prop :=
  ∀ s : Draws, s.Reads words → run g s = (.ok a, s.rest words.length)

def Reaches (g : Gen α) (a : α) : Prop := ∃ words, Leads g words a

theorem leads_pure (a : α) : Leads (pure a) [] a := fun _ _ => rfl

theorem leads_lift {x : Except Error α} {a : α} (h : x = .ok a) : Leads (lift x) [] a :=
  fun s _ => by rw [run_lift, h]; rfl

theorem leads_next (k : UInt32) : Leads next [k] k := by
  intro s reads
  have hword : s.word s.used = k := reads 0 Nat.one_pos
  rw [run_next, hword]
  rfl

theorem Leads.bind {g : Gen α} {f : α → Gen β} {first second : List UInt32} {a : α} {b : β}
    (hg : Leads g first a) (hf : Leads (f a) second b) : Leads (g >>= f) (first ++ second) b := by
  intro s reads
  obtain ⟨reads_first, reads_second⟩ := reads.append
  rw [run_bind, hg s reads_first]
  dsimp only
  rw [hf _ reads_second, Draws.rest_rest, List.length_append]

theorem reaches_pure (a : α) : Reaches (pure a) a := ⟨[], leads_pure a⟩

theorem reaches_lift {x : Except Error α} {a : α} (h : x = .ok a) : Reaches (lift x) a :=
  ⟨[], leads_lift h⟩

theorem reaches_next (k : UInt32) : Reaches next k := ⟨[k], leads_next k⟩

theorem Reaches.bind {g : Gen α} {f : α → Gen β} {a : α} {b : β} (hg : Reaches g a)
    (hf : Reaches (f a) b) : Reaches (g >>= f) b := by
  obtain ⟨first, hfirst⟩ := hg
  obtain ⟨second, hsecond⟩ := hf
  exact ⟨first ++ second, hfirst.bind hsecond⟩

theorem reaches_chance {p : Number} {k : UInt32} {b : Bool} (h : p.above (unitFraction k) = b) :
    Reaches (chance p) b :=
  (reaches_next k).bind (h ▸ reaches_pure _)

/-- The words that stand for one item out of several are next to each other, and there is one
for every item as long as there are no more items than words. -/
theorem exists_word {n i : Nat} (h : i < n) (few : n ≤ 0x100000000) :
    ∃ k : UInt32, k.toNat * n / 0x100000000 = i := by
  let q := (i * 0x100000000 + (n - 1)) / n
  have low : i * 0x100000000 ≤ q * n := by
    have hnext := Nat.lt_div_mul_add (a := i * 0x100000000 + (n - 1)) (b := n) (by omega)
    change _ < q * n + n at hnext
    omega
  have high : q * n ≤ i * 0x100000000 + (n - 1) := Nat.div_mul_le_self _ _
  have hq : q < 0x100000000 := by
    apply Nat.lt_of_mul_lt_mul_right (a := n)
    omega
  refine ⟨UInt32.ofNat q, ?_⟩
  rw [UInt32.toNat_ofNat_of_lt' hq]
  exact Nat.div_eq_of_lt_le low (by omega)

theorem reaches_uniform {items : List α} {a : α} (mem : a ∈ items)
    (few : items.length ≤ 0x100000000) : Reaches (uniform items) a := by
  obtain ⟨i, hi, rfl⟩ := List.mem_iff_getElem.mp mem
  obtain ⟨k, hk⟩ := exists_word hi few
  obtain ⟨first, rest, rfl⟩ := List.exists_cons_of_ne_nil (List.ne_nil_of_mem mem)
  refine (reaches_next k).bind ?_
  rw [hk, List.getD_eq_getElem?_getD, List.getElem?_eq_getElem hi, Option.getD_some]
  exact reaches_pure _

/-- The words that lead to a value do so when they are all that is given. -/
theorem Reaches.exists_cycle {g : Gen α} {a : α} (h : Reaches g a) :
    ∃ words : List UInt32,
      run g (Draws.cycle words) = (.ok a, (Draws.cycle words).rest words.length) := by
  obtain ⟨words, leads⟩ := h
  exact ⟨words, leads _ (Draws.reads_cycle words)⟩

end Gen
end Tonality
