import Tonality.Key.Name
import Tonality.Progression.Vocabulary
import Tonality.Weighted

/-!
Progressions, one numeral to a measure. A random walk over the vocabulary
begins on the tonic, favours the targets of the chord it stands on, and closes
with a cadence.
-/

namespace Tonality

structure Odds where
  base : Number := .real 0.6
  step : Number := .real 0.03
  leave : Number := .real 0.3

namespace Odds

/-- The chance of honouring the targets, which grows with complexity up to one. -/
def target (o : Odds) (complexity : Number) : Except Error Number := do
  pure (← o.base.add (← o.step.mul complexity)).capped

end Odds

inductive KeySource
  | key (k : Key)
  | name (n : Option String)

def KeySource.get : KeySource → Except Error Key
  | .key k => pure k
  | .name n => Key.read n

namespace Progression
open Gen

def clamp (complexity : Number) : Except Error Int := do
  pure (max 0 (min 10 (← complexity.truncate)))

/-- The chords that may follow: all but the last one, unless it stands alone. -/
def candidates (previous : String) (allowed : List String) : List String :=
  if 1 < allowed.length then allowed.filter (· ≠ previous) else allowed

def next (f : Functions) (o : Odds) (previous : String) (allowed : List String)
    (complexity : Number) : Gen String := do
  let candidates := candidates previous allowed
  let targets := f.targets previous allowed
  let targeted := candidates.filter targets.contains
  if targeted.isEmpty then uniform candidates
  else
    let k ← Gen.next
    let p ← lift (o.target complexity)
    if p.above (unitFraction k) then uniform targeted
    else
      let others := candidates.filter fun c => !targets.contains c
      if others.isEmpty then uniform candidates
      else if ← chance o.leave then uniform others
      else uniform candidates

def walk (f : Functions) (o : Odds) (allowed : List String) (level : Number) :
    String → Nat → Gen (List String)
  | _, 0 => pure []
  | previous, n + 1 => do
    let chord ← next f o previous allowed level
    pure (chord :: (← walk f o allowed level chord n))

def cadence (f : Functions) (allowed : List String) : String :=
  (f.cadences.find? allowed.contains).getD f.tonic

/-- The chords of some measures: the tonic, the walk, the cadence and the tonic again, as
far as there are measures for them. -/
def ofFunctions (f : Functions) (o : Odds) (level : Int) (measures : Nat) :
    Gen (List String) := do
  let allowed := f.vocabulary (.int level)
  match measures with
  | 0 => pure []
  | 1 => pure [f.tonic]
  | 2 => pure [f.tonic, f.tonic]
  | n + 3 => do
    let middle ← walk f o allowed (.int level) f.tonic n
    pure (f.tonic :: middle ++ [cadence f allowed, f.tonic])

/-- Without measures nothing is looked at, neither key nor complexity. -/
def inKey (o : Odds) (key : KeySource) (measures : Int) (complexity : Number) :
    Gen (List String) := do
  if measures ≤ 0 then pure []
  else
    let k ← lift key.get
    let level ← lift (clamp complexity)
    ofFunctions (Functions.ofMode k.mode) o level measures.toNat

end Progression
end Tonality
