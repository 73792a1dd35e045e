import Tonality.Text.Blank
import Tonality.Value

/-!
Time signatures. A meter has a number of beats and a unit, the note value of
one beat as a fraction of a whole note; nothing is asked of either until the
length of a measure is taken, which needs a unit other than zero. Texts are
read with blanks anywhere around the two fields, and only the meters of a fixed
list are accepted from them.
-/

namespace Tonality

inductive MeterKind
  | simple
  | compound
  | additive
  deriving DecidableEq, Repr

def MeterKind.name : MeterKind → String
  | simple => "simple"
  | compound => "compound"
  | additive => "additive"

structure Meter where
  beats : Int
  unit : Int
  deriving DecidableEq, Repr

def fraction (n d : Int) : Except Error Rat :=
  if d = 0 then throw .zeroLength else pure ((n : Rat) / (d : Rat))

/-- A fraction as reports show it, an integer without its denominator. -/
def fractionText (r : Rat) : String :=
  if r.den = 1 then toString r.num else s!"{r.num}/{r.den}"

namespace Meter

def text (m : Meter) : String := s!"{m.beats}/{m.unit}"

/-- A fault whose report shows fractions of a whole note and the meter. -/
def fault (m : Meter) (parts : List Rat) (report : Error) : Error :=
  .showing (m.beats :: m.unit :: parts.flatMap fun r => [r.num, (r.den : Int)]) report

def measure (m : Meter) : Except Error Rat := fraction m.beats m.unit

def beat (m : Meter) : Except Error Rat := fraction 1 m.unit

def kind (m : Meter) : MeterKind :=
  if m.unit = 8 ∧ (m.beats = 6 ∨ m.beats = 9 ∨ m.beats = 12) then .compound
  else if m.beats = 5 ∨ m.beats = 7 then .additive
  else .simple

def units : List Nat := [1, 2, 4, 8, 16, 32]

def beatsFor : Nat → List Nat
  | 2 => [2]
  | 4 => [2, 3, 4, 5, 7]
  | 8 => [3, 5, 6, 7, 9, 12]
  | _ => []

/-- The most digits that one field may have. -/
def fieldLimit : Nat := 4300

def fields? (cs : List Char) : Option (List Char × List Char) :=
  let cs := Text.dropBlanks cs
  match Text.dropBlanks (cs.dropWhile Text.isDigit) with
  | '/' :: rest =>
    let rest := Text.dropBlanks rest
    let beats := cs.takeWhile Text.isDigit
    let unit := rest.takeWhile Text.isDigit
    if beats.isEmpty || unit.isEmpty || !(Text.dropBlanks (rest.dropWhile Text.isDigit)).isEmpty
    then none else some (beats, unit)
  | _ => none

def readField (ds : List Char) : Except Error Nat :=
  if fieldLimit < ds.length then throw .meterFieldTooLong else pure (Text.digitsValue ds)

def check (beats unit : Nat) (text : String) : Except Error Meter :=
  if beats = 0 ∨ unit = 0 then throw (.meterNotPositive text)
  else if !units.contains unit then throw (.unsupportedUnit unit text)
  else if !(beatsFor unit).contains beats then throw (.unsupportedMeter text)
  else pure ⟨beats, unit⟩

def read (text : String) : Except Error Meter :=
  match fields? text.toList with
  | none => throw (.unreadableMeter text)
  | some (b, u) => do check (← readField b) (← readField u) text

def ofValue : Value → Except Error Meter
  | .str s => read s
  | v => v.refuse (.meterNotText v.text)

end Meter

inductive MeterSource
  | meter (m : Meter)
  | value (v : Value)

def MeterSource.get : MeterSource → Except Error Meter
  | .meter m => pure m
  | .value v => Meter.ofValue v

end Tonality
