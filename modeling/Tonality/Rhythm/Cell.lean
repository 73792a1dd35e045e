import Tonality.Meter
import Tonality.Word

/-!
Events, cells and groups. An event is a signed denominator: `4` is a quarter
note and `-8` an eighth rest. A cell is a ready-made run of events for one
group of beats; the library holds cells for groups of a quarter, a dotted
quarter and a half note, in five tiers.
-/

namespace Tonality

abbrev Event := Int

abbrev Cell := List Event

namespace Event

def span (e : Event) : Except Error Rat := fraction 1 e.natAbs

def isSixteenth (e : Event) : Bool := e.natAbs == 16

end Event

def spanOf (es : List Event) : Except Error Rat := do
  pure ((← es.mapM Event.span).foldr (· + ·) 0)

namespace Cell

/-- A cell with two sixteenths or more. -/
def isRun (c : Cell) : Bool := 2 ≤ c.countP Event.isSixteenth

def quarter : Nat → List Cell
  | 1 => [[4], [8, 8], [8, 16, 16], [16, 16, 8], [16, 8, 16]]
  | 2 => [[4], [8, 8], [-8, 8], [8, 16, 16], [16, 16, 8], [16, 8, 16]]
  | 3 => [[8, 8], [-8, 16, 16], [16, 16, 16, 16], [8, 16, 16], [16, 16, 8], [16, 8, 16]]
  | 4 => [[8, 8], [-8, 8], [16, 16, 16, 16], [8, 16, 16], [-4], [16, 16, 8], [16, 8, 16]]
  | 5 => [[16, 16, 16, 16], [8, 16, 16], [16, 16, 8], [-8, 16, 16], [16, 8, 16]]
  | _ => []

def dottedQuarter : Nat → List Cell
  | 1 => [[8, 8, 8], [4, 8]]
  | 2 => [[8, 8, 8], [4, 8], [-8, 8, 8]]
  | 3 => [[8, 8, 8], [8, 16, 16, 16, 16], [16, 16, 16, 16, 8], [4, 8], [-4, 8]]
  | 4 => [[16, 16, 16, 16, 16, 16], [8, 16, 16, 16, 16], [16, 16, 8, 16, 16], [-8, 8, 8]]
  | 5 => [[16, 16, 16, 16, 16, 16], [8, 16, 16, 16, 16], [16, 16, 16, 16, 8],
          [16, 16, 8, 16, 16]]
  | _ => []

def half : Nat → List Cell
  | 1 => [[2], [4, 4]]
  | 2 => [[2], [4, 4], [-4, 4]]
  | 3 => [[4, 4], [4, 8, 8], [8, 8, 4], [-4, 4]]
  | 4 => [[4, 8, 8], [8, 8, 4], [8, 8, 8, 8], [-4, 8, 8], [8, 4, 8]]
  | 5 => [[8, 8, 8, 8], [4, 16, 16, 16, 16], [16, 16, 16, 16, 4], [-8, 8, 4], [8, 4, 8]]
  | _ => []

def library (span : Rat) (tier : Nat) : List Cell :=
  if span = 1 / 4 then quarter tier
  else if span = 3 / 8 then dottedQuarter tier
  else if span = 1 / 2 then half tier
  else []

/-- Two levels of complexity share a tier. -/
def tierOf (level : Nat) : Nat := (level + 1) / 2

/-- The first group, and the third one in a measure of four. -/
def isStrong (m : Meter) (group : Int) : Bool := group = 0 || (m.beats = 4 && group = 2)

/-- The weight of a cell in a group: rests are rare on strong beats and at low
complexity, and one run of sixteenths after another is likelier only at high
complexity. -/
def weightIn (c : Cell) (group : Int) (m : Meter) (complexity : Int) (afterRun : Bool) :
    Except Error Float :=
  match c with
  | [] => throw .emptyCell
  | e :: _ =>
    let base : Float := if e < 0 && isStrong m group then 0.1 else 1.0
    let rested := if e < 0 && complexity ≤ 4 then base * 0.5 else base
    pure <|
      if afterRun && isRun c then
        if 8 ≤ complexity then rested * 1.5
        else if 4 < complexity then rested * 0.4
        else rested
      else rested

end Cell

namespace Meter

/-- The sizes of the groups of a measure in units; without a plan of its own a meter has
one group to a beat. -/
def groups (m : Meter) : List Nat :=
  if m.unit = 8 ∧ m.beats = 3 then [3]
  else if m.unit = 8 ∧ m.beats = 6 then [3, 3]
  else if m.unit = 8 ∧ m.beats = 9 then [3, 3, 3]
  else if m.unit = 8 ∧ m.beats = 12 then [3, 3, 3, 3]
  else if m.unit = 8 ∧ m.beats = 5 then [3, 2]
  else if m.unit = 8 ∧ m.beats = 7 then [2, 2, 3]
  else if m.unit = 4 ∧ m.beats = 5 then [3, 2]
  else if m.unit = 4 ∧ m.beats = 7 then [3, 2, 2]
  else List.replicate m.beats.toNat 1

/-- The row of groups is made in one piece. -/
def plan (m : Meter) : Except Error (List Nat) := do
  let _ ← Word.checkRow m.beats
  pure m.groups

end Meter
end Tonality
