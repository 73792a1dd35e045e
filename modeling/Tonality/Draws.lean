import Tonality.Number

/-!
Random draws as data. A source is an endless row of 32-bit words with a mark
for how many have been taken; generators run in a state that carries the source
through failures, so words taken before an error stay taken. A word `k` stands
for the fraction `k / 2 ^ 32`.
-/

namespace Tonality

structure Draws where
  word : Nat → UInt32
  used : Nat

namespace Draws

/-- The words of a list over and over, a zero when the list is empty. -/
def cycle (words : List UInt32) : Draws where
  word i := words.getD (i % words.length) 0
  used := 0

def mix (x : UInt64) : UInt64 :=
  let x := (x ^^^ (x >>> 30)) * 0xBF58476D1CE4E5B9
  let x := (x ^^^ (x >>> 27)) * 0x94D049BB133111EB
  x ^^^ (x >>> 31)

def ofSeed (seed : Nat) : Draws where
  word i := (mix (seed.toUInt64 + (i + 1).toUInt64 * 0x9E3779B97F4A7C15) >>> 32).toUInt32
  used := 0

/-- The source that a seed asks for, a fresh one without a seed. What the sources are is left
open; a negative seed has none. -/
def seeded (stream : Option Nat → Draws) : Option Int → Except Error Draws
  | none => pure (stream none)
  | some seed => if seed < 0 then throw (.negativeSeed seed) else pure (stream (some seed.toNat))

theorem exists_seeded {seed : Option Int} (nonneg : ∀ n ∈ seed, 0 ≤ n)
    (stream : Option Nat → Draws) : ∃ s, seeded stream seed = .ok s := by
  cases seed with
  | none => exact ⟨stream none, rfl⟩
  | some n => exact ⟨stream (some n.toNat), if_neg (Int.not_lt.mpr (nonneg n rfl))⟩

def rest (s : Draws) (n : Nat) : Draws := { s with used := s.used + n }

end Draws

abbrev Gen (α : Type) := ExceptT Error (StateM Draws) α

namespace Gen

def run {α : Type} (g : Gen α) (s : Draws) : Except Error α × Draws := g s

def next : Gen UInt32 := fun s => (.ok (s.word s.used), s.rest 1)

def lift {α : Type} (x : Except Error α) : Gen α := fun s => (x, s)

@[simp] theorem run_next (s : Draws) : run next s = (.ok (s.word s.used), s.rest 1) := rfl

@[simp] theorem run_lift {α : Type} (x : Except Error α) (s : Draws) : run (lift x) s = (x, s) :=
  rfl

@[simp] theorem run_pure {α : Type} (a : α) (s : Draws) : run (pure a) s = (.ok a, s) := rfl

@[simp] theorem run_throw {α : Type} (e : Error) (s : Draws) :
    run (throw e : Gen α) s = (.error e, s) := rfl

/-- What was taken before a failure stays taken. -/
theorem run_bind {α β : Type} (g : Gen α) (f : α → Gen β) (s : Draws) :
    run (g >>= f) s = match run g s with
      | (.ok a, t) => run (f a) t
      | (.error e, t) => (.error e, t) := by
  simp only [run, bind, ExceptT.bind, ExceptT.mk, StateT.bind, ExceptT.bindCont]
  cases h : g s with
  | mk r t => cases r <;> rfl

/-- Whether a draw falls below a probability; what is not a number is never reached. -/
def chance (p : Number) : Gen Bool := do
  pure (p.above (unitFraction (← next)))

def uniform {α : Type} (items : List α) : Gen α := do
  match items with
  | [] => throw .noUniformCandidates
  | first :: _ =>
    let k ← next
    pure (items.getD (k.toNat * items.length / 0x100000000) first)

end Gen
end Tonality
