import Tonality.Rhythm.Cell
import Tonality.Weighted

/-!
Two ways to fill a measure. Note values of a level are placed one after the
other, each short enough for what is left and, off the beat, for what is left
of the beat; time is counted in ticks so fine that every note value is a whole
number of them. Or the measure is cut into groups and every group gets a cell
of the library, or one note to a unit where the library has none.
-/

namespace Tonality.Rhythm
open Gen

def noteValues : Nat → List (Nat × Nat)
  | 1 => [(1, 4), (2, 6), (4, 3)]
  | 2 => [(1, 1), (2, 5), (4, 8)]
  | 3 => [(2, 4), (4, 10), (8, 3)]
  | 4 => [(1, 1), (2, 3), (4, 10), (8, 6)]
  | _ => []

def wholeTicks (m : Meter) : Nat := 8 * m.unit.natAbs

/-- Ticks of a beat, negative for a negative unit. -/
def beatTicks (m : Meter) : Int := 8 * m.unit.sign

def noteTicks (m : Meter) (value : Nat) : Nat := wholeTicks m / value

def measureTicks (m : Meter) : Nat := (m.beats * beatTicks m).toNat

def room (m : Meter) (position remaining : Nat) : Int :=
  let offset := Int.fmod position (beatTicks m)
  if offset = 0 then remaining else min remaining (beatTicks m - offset)

def fitting (m : Meter) (level : Nat) (space : Int) : List (Nat × Nat) :=
  (noteValues level).filter fun v => noteTicks m v.1 ≤ space

/-- Ticks as a fraction of a whole note. -/
def ticksLength (m : Meter) (ticks : Int) : Rat := (ticks : Rat) / wholeTicks m

def noFit (m : Meter) (room position : Rat) : Error :=
  m.fault [room, position] (.noNoteFits (fractionText room) (fractionText position) m.text)

/-- The next note and its ticks; the unit itself serves where no value of the level fits. -/
def chooseNote (m : Meter) (level position remaining : Nat) : Gen (Event × Nat) := do
  let space := room m position remaining
  match fitting m level space with
  | [] =>
    if 8 ≤ space then pure (m.unit, 8)
    else throw (noFit m (ticksLength m space) (ticksLength m position))
  | vs =>
    let value : Nat ← weighted (vs.map fun v => v.1) (vs.map fun v => Number.int v.2)
    pure (Int.ofNat value, noteTicks m value)

/-- Notes until no ticks remain; a note takes at least one, so there are no more notes
than ticks. -/
def placeNotes (m : Meter) (level : Nat) : Nat → Nat → Nat → Gen (List Event)
  | 0, _, _ => pure []
  | bound + 1, position, remaining =>
    if remaining = 0 then pure []
    else do
      let (event, ticks) ← chooseNote m level position remaining
      let rest ← placeNotes m level bound (position + ticks) (remaining - ticks)
      pure (event :: rest)

def fillByNotes (m : Meter) (level : Nat) : Gen (List Event) := do
  let _ ← lift m.beat
  placeNotes m level (measureTicks m) 0 (measureTicks m)

def chooseCell (m : Meter) (level : Nat) (cells : List Cell) (group : Nat) (afterRun : Bool) :
    Gen Cell := do
  let weights ← lift (cells.mapM fun c => c.weightIn group m level afterRun)
  weighted cells (weights.map Number.real)

def fillGroups (m : Meter) (beat : Rat) (level : Nat) :
    List Nat → Nat → Bool → Gen (List Event)
  | [], _, _ => pure []
  | units :: rest, group, afterRun => do
    match Cell.library (beat * units) (Cell.tierOf level) with
    | [] => do
      let after ← fillGroups m beat level rest (group + 1) false
      pure (List.replicate units m.unit ++ after)
    | cells => do
      let cell ← chooseCell m level cells group afterRun
      let after ← fillGroups m beat level rest (group + 1) cell.isRun
      pure (cell ++ after)

def fillByGroups (m : Meter) (level : Nat) : Gen (List Event) := do
  let groups ← lift m.plan
  let beat ← lift m.beat
  fillGroups m beat level groups 0 false

end Tonality.Rhythm
