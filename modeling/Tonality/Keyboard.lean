import Tonality.Value
import Tonality.Pitch.Note
import Tonality.Word

/-!
The keys of a piano and ranges of MIDI notes: the pool of all keys that share a
pitch class with given notes, names of MIDI numbers, and shifting a note by
octaves into a range.
-/

namespace Tonality.Keyboard

def lowest : Int := 21
def highest : Int := 108

def keys : List Int := (List.range 88).map fun (n : Nat) => lowest + n

def pool (notes : List Int) : List Int :=
  keys.filter fun k => notes.any fun n => n % 12 == k % 12

def poolFor (notes : List Int) : Except Error (List Int) := do
  pure (pool (← notes.mapM Word.check))

def name? (n : Int) : Option String :=
  if 0 ≤ n ∧ n ≤ Note.highest then some (Note.ofHeight n).name else none

/-- The name of a value that is a MIDI number, and of nothing else. -/
def nameOf? : Value → Option String
  | .num (.int n) => name? n
  | _ => none

def covers (note low high : Int) : Except Error Bool :=
  if high < low then throw (.showing [low, high] (.invertedRange low high))
  else pure (low ≤ note && note ≤ high)

/-- Up by octaves for as long as the note lies below the range. -/
def raised (note low : Int) : Int :=
  if note < low then raised (note + 12) low else note
termination_by (low - note).toNat

/-- Down by octaves for as long as the note lies above the range. -/
def lowered (note high : Int) : Int :=
  if high < note then lowered (note - 12) high else note
termination_by (note - high).toNat

/-- A note is moved towards the range and no further than the end of the range that it would
jump over. -/
def fitted (note low high : Int) : Int :=
  if note < low then min high (raised note low) else max low (lowered note high)

def fit (note low high : Int) : Except Error Int := do
  if ← covers note low high then pure note else pure (fitted note low high)

end Tonality.Keyboard
