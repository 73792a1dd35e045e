import Tonality.Binary64
import Tonality.Decimal.Shortest
import Tonality.Error

/-!
Numbers as callers hand them in: integers of any size, and doubles. Integers
stay exact among themselves; where a double takes part, an integer is first
rounded to the nearest double, which fails beyond the range of doubles.
Comparisons never round.
-/

namespace Tonality

inductive Number
  | int (n : Int)
  | real (x : Float)

namespace Number

def text : Number → String
  | int n => toString n
  | real x => Decimal.text x

def toDouble : Number → Except Error Float
  | int n => if n.natAbs < Binary64.bound then pure (Float.ofInt n) else throw .tooLargeForDouble
  | real x => pure x

def add : Number → Number → Except Error Number
  | int m, int n => pure (int (m + n))
  | x, y => do pure (real ((← x.toDouble) + (← y.toDouble)))

def mul : Number → Number → Except Error Number
  | int m, int n => pure (int (m * n))
  | x, y => do pure (real ((← x.toDouble) * (← y.toDouble)))

def above (r : Rat) : Number → Bool
  | int n => r < (n : Rat)
  | real x => (Binary64.ofFloat x).above r

def belowOne : Number → Bool
  | int n => n < 1
  | real x => x < 1.0

/-- The value itself below one, and one otherwise, also for what is not a number. -/
def capped (x : Number) : Number := if x.belowOne then x else real 1.0

def atLeast (n : Int) : Number → Bool
  | int m => n ≤ m
  | real x => match Binary64.ofFloat x with
    | .nan => false
    | .infinite negative => !negative
    | y => (n : Rat) ≤ y.value?.getD 0

/-- The integer part, cut toward zero. -/
def truncate : Number → Except Error Int
  | int n => pure n
  | real x => match Binary64.ofFloat x with
    | .nan => throw .notANumber
    | .infinite _ => throw .infiniteNumber
    | y => let r := y.value?.getD 0
      pure (if r < 0 then r.ceil else r.floor)

def floorOf (x : Float) : Except Error Int :=
  match Binary64.ofFloat x with
  | .nan => throw .notANumber
  | .infinite _ => throw .infiniteNumber
  | y => pure (y.value?.getD 0).floor

/-- The nearest integer, a half going up; the half is added in doubles. -/
def rounded (x : Number) : Except Error Int := do
  floorOf ((← x.toDouble) + 0.5)

end Number
end Tonality
