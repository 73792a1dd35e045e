import Tonality.Rhythm.Fill

/-!
Measures of rhythm. Up to complexity 4 a simple meter is filled with note
values; everything else is filled with cells. Either way the lengths of the
events have to add up to the measure.
-/

namespace Tonality.Rhythm
open Gen

/-- A complexity is an integer from 1 to 10; truth values are not integers here. -/
def levelOf (v : Value) : Except Error Nat :=
  match v with
  | .num (.int n) => if 1 ≤ n ∧ n ≤ 10 then pure n.toNat else v.refuse (.complexityOutside v.text)
  | _ => v.refuse (.complexityOutside v.text)

def usesNotes (m : Meter) (level : Nat) : Bool := level ≤ 4 && m.kind = .simple

def checkLength (m : Meter) (es : List Event) : Except Error (List Event) := do
  let actual ← spanOf es
  let expected ← m.measure
  if actual = expected then pure es
  else throw (m.fault [expected, actual]
    (.measureMismatch m.text (fractionText expected) (fractionText actual)))

def fillMeasure (m : Meter) (level : Nat) : Gen (List Event) := do
  let es ← if usesNotes m level then fillByNotes m level else fillByGroups m level
  lift (checkLength m es)

/-- One measure; the complexity is looked at before the meter. -/
def measure (meter : MeterSource) (complexity : Value) : Gen (List Event) := do
  let level ← lift (levelOf complexity)
  let m ← lift meter.get
  fillMeasure m level

def repeated (m : Meter) (complexity : Value) : Nat → Gen (List (List Event))
  | 0 => pure []
  | n + 1 => do
    let first ← measure (.meter m) complexity
    pure (first :: (← repeated m complexity n))

/-- Some measures of one meter, which is looked at first. -/
def measures (meter : MeterSource) (complexity : Value) (n : Int) :
    Gen (List (List Event)) := do
  repeated (← lift meter.get) complexity n.toNat

end Tonality.Rhythm
