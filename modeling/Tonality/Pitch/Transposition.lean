import Tonality.Pitch.Interval

/-!
Spelled transposition. The letter of the result is as many steps up as the
interval has, and the alteration is what makes the distance exact; a result
that would need more than four signs is spelled plainly from its height
instead. The distance from the note to the natural note on the new letter has
to be an interval with a specifier. A quarter tone stays one, and then the alteration may
not pass a tone and a half. In far octaves the same is done with
heights, and with the division of steps into octaves, that are doubles.
-/

namespace Tonality
namespace Note

def up (n : Note) (i : Interval) : Note :=
  let landing := n.letter.index + i.steps
  let letter := Letter.ofIndex landing
  let octaves : Int := (landing / 7 : Nat)
  let alter := n.letter.semitone + n.alter + i.semitones - (letter.semitone + 12 * octaves)
  if alter.natAbs ≤ 4 then { n with letter, alter, octave := n.octave.map (· + octaves) }
  else
    let plain := ofHeight (n.exactHeight + i.semitones)
    if n.octave.isSome then plain else { plain with octave := none }

def halfAbove (k : Int) : String := if 0 ≤ k then s!"{k}.5" else s!"-{-k - 1}.5"

/-- Quarter tones have signs as far as a tone and a half. -/
def checkQuarter (n : Note) : Except Error Note :=
  if n.quarter && (n.alter < -2 || 1 < n.alter) then
    throw (.unknownAccidental (halfAbove n.alter))
  else pure n

/-- The quotient of two doubles near integers, itself a double, rounded down. -/
def quotient (a b : Int) : Int := (Binary64.nearest (Binary64.nearest a / b)).floor

/-- Specifiers run from four times diminished to four times augmented; what is diminished
further is counted from the other end of the row, once. The offset is the distance from the
perfect or major interval in semitones. -/
def checkSpecifier (steps : Fin 7) (offset : Int) : Except Error Unit :=
  if Interval.isPerfect steps then
    if -13 ≤ offset ∧ offset ≤ 4 then pure () else throw (.noSpecifier "Perfect" offset)
  else if -15 ≤ offset ∧ offset ≤ 4 then pure ()
  else throw (.noSpecifier "Major" offset)

/-- The natural note a number of steps above the C of octave 0. The octave is found in
doubles; when it comes out one too high, the letter is found by counting back. -/
def naturalAt (count : Int) : Except Error Note :=
  let octave := quotient count 7
  let step := count - 7 * octave
  if Binary64.bound ≤ count.natAbs then throw .tooLargeForDouble
  else if step < -7 ∨ 6 < step then throw (.noLetter step)
  else pure { letter := Letter.ofIndex (step % 7).toNat, alter := 0, octave := some octave }

/-- Steps above the C of octave 0. -/
def steps (n : Note) : Int := 7 * n.octave.getD 4 + n.letter.index

def ofFarHeight (height : Int) : Note :=
  { ofHeight height with octave := some (quotient height 12 - 1) }

def transposeFar (n : Note) (i : Interval) (above : Nat) : Except Error Note := do
  let natural ← naturalAt (n.steps + i.steps + 7 * above)
  let low ← n.check
  let high ← natural.check
  let gap := Binary64.nearest (high.level - low.level)
  let octaves := (natural.steps - n.steps) / 7
  checkSpecifier i.steps (gap.floor - Interval.majorSemitones i.steps - 12 * octaves)
  let distance := i.semitones + 12 * (Binary64.nearest (mkRat (i.steps + 7 * above) 7)).floor - gap
  let alter := distance.floor
  if alter.natAbs ≤ 4 then checkQuarter { natural with alter, quarter := distance != alter }
  else pure (ofFarHeight (Binary64.nearest (high.level + distance)).floor)

/-- Only the fourths above F with four flats lack a specifier in near octaves. -/
def transpose (n : Note) (i : Interval) : Except Error Note :=
  if n.isNear then
    if n.letter = .f ∧ n.alter = -4 ∧ i.steps = 3 then throw (.noSpecifier "Perfect" 5)
    else (n.up i).checkQuarter
  else n.transposeFar i 0

end Note

/-- The name an interval above a name, with an octave when the name given has one. -/
def Interval.above (i : Interval) (name : String) : Except Error String := do
  pure (← (← Note.read name).transpose i).name

end Tonality
