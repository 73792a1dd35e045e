import Tonality.Pitch.Note

/-!
Intervals within the octave: a specifier, and a number of letters upward. The
size in semitones follows from both; not every specifier goes with every number.
-/

namespace Tonality

inductive Specifier
  | perfect | major | minor | augmented | diminished
  deriving DecidableEq, Repr

namespace Specifier

def all : List Specifier := [perfect, major, minor, augmented, diminished]

def char : Specifier → Char
  | perfect => 'P' | major => 'M' | minor => 'm' | augmented => 'A' | diminished => 'd'

def ofChar? : Char → Option Specifier
  | 'P' => some perfect | 'M' => some major | 'm' => some minor
  | 'A' => some augmented | 'd' => some diminished | _ => none

def word : Specifier → String
  | perfect => "Perfect" | major => "Major" | minor => "Minor"
  | augmented => "Augmented" | diminished => "Diminished"

end Specifier

/-- Steps can be written as numerals. -/
instance sevenSteps : @NeZero Nat Zero.ofOfNat0 7 := ⟨Nat.succ_ne_zero 6⟩

/-- An interval of `steps` letters upward, from a unison to a seventh. -/
structure Interval where
  specifier : Specifier
  steps : Fin 7
  deriving DecidableEq, Repr

namespace Interval

def majorSemitones : Fin 7 → Int
  | 0 => 0 | 1 => 2 | 2 => 4 | 3 => 5 | 4 => 7 | 5 => 9 | 6 => 11

/-- Unisons, fourths and fifths are perfect where the others are major or minor. -/
def isPerfect (steps : Fin 7) : Bool := steps = 0 || steps = 3 || steps = 4

def natural (steps : Fin 7) : Interval :=
  ⟨if isPerfect steps then .perfect else .major, steps⟩

def semitones (i : Interval) : Int :=
  majorSemitones i.steps + match i.specifier with
    | .perfect | .major => 0
    | .minor => -1
    | .augmented => 1
    | .diminished => if isPerfect i.steps then -1 else -2

def isPossible (i : Interval) : Bool :=
  match i.specifier with
  | .perfect => isPerfect i.steps
  | .major | .minor => !isPerfect i.steps
  | .augmented | .diminished => true

/-- A digit from 1 to 7, counted in steps from 0. -/
def stepsOfChar? (c : Char) : Option (Fin 7) :=
  match c with
  | '1' => some 0 | '2' => some 1 | '3' => some 2 | '4' => some 3 | '5' => some 4
  | '6' => some 5 | '7' => some 6 | _ => none

def stepsChar : Fin 7 → Char
  | 0 => '1' | 1 => '2' | 2 => '3' | 3 => '4' | 4 => '5' | 5 => '6' | 6 => '7'

def chars (i : Interval) : List Char := [i.specifier.char, stepsChar i.steps]

def name (i : Interval) : String := String.ofList i.chars

/-- A specifier and a number, whether or not there is such an interval. -/
def readChars? : List Char → Option Interval
  | [s, n] => do pure ⟨← Specifier.ofChar? s, ← stepsOfChar? n⟩
  | _ => none

theorem readChars?_chars (i : Interval) : readChars? i.chars = some i := by
  obtain ⟨s, n⟩ := i
  cases s <;> (revert n; decide)

end Interval

end Tonality
