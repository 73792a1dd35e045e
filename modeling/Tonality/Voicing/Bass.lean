import Tonality.Chord

/-!
The pitch class in the bass, from a token that names an interval above the
root. A token is an interval by name, or a number from 1 to 7 with any signs
before it; a number without signs means the chord's own member at that
distance when it has one, and the interval of the major scale otherwise.
-/

namespace Tonality.Bass

def isSign (c : Char) : Bool := c = '#' || c = 'b'

def readGeneric? (cs : List Char) : Option (List Char × Fin 7) :=
  match cs.dropWhile isSign with
  | [c] => (Interval.stepsOfChar? c).map fun steps => (cs.takeWhile isSign, steps)
  | _ => none

/-- The size of a number: the chord's own member, or the step of the major scale. -/
def memberAt (c : Chord) (steps : Fin 7) : Interval :=
  (c.quality.intervals.find? fun i => i.steps = steps).getD (Interval.natural steps)

def pitchClass (c : Chord) (bass : Option String) : Except Error Int :=
  let token := Text.strip (bass.getD "").toList
  match Interval.readChars? token with
  | some i =>
    if i.isPossible then do pure (← c.root.note.transpose i).pitchClass
    else throw (.intervalMissing (String.ofList token))
  | none =>
    match readGeneric? token with
    | none => throw (.unresolvedBass (Text.shown bass) c.symbol)
    | some (signs, steps) =>
      let shift : Int := (signs.count '#' : Int) - signs.count 'b'
      let i := if signs.isEmpty then memberAt c steps else Interval.natural steps
      do pure (((← c.root.note.transpose i).pitchClass + shift) % 12)

end Tonality.Bass
