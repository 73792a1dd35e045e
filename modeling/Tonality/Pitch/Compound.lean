import Tonality.Pitch.Transposition

/-!
Intervals of any size. A compound interval is an interval within the octave
with whole octaves added to it. Its number is one more than the letters it
spans, so that an octave is an eighth, and its name is the specifier followed
by the number.
-/

namespace Tonality

structure Compound where
  interval : Interval
  octaves : Nat
  deriving DecidableEq, Repr

namespace Compound

def steps (i : Compound) : Nat := 7 * i.octaves + i.interval.steps

def ofSteps (specifier : Specifier) (steps : Nat) : Compound :=
  ⟨⟨specifier, Fin.ofNat 7 steps⟩, steps / 7⟩

def ordinals : List String :=
  ["Unison", "Second", "Third", "Fourth", "Fifth", "Sixth", "Seventh", "Octave", "Ninth",
   "Tenth", "Eleventh", "Twelfth", "Thirteenth", "Fourteenth", "Double-octave", "Sixteenth",
   "Seventeenth", "Eighteenth", "Nineteenth", "Twentieth", "Twenty-first", "Triple-octave"]

def ordinal (steps : Nat) : String := ordinals[steps]?.getD (toString (steps + 1))

def title (i : Compound) : String := i.interval.specifier.word ++ " " ++ ordinal i.steps

def readNumber? (cs : List Char) : Option Nat :=
  if cs.isEmpty || !cs.all Text.isDigit then none else some (Text.digitsValue cs)

def readChars? : List Char → Option Compound
  | [] => none
  | s :: cs => do
    let specifier ← Specifier.ofChar? s
    match ← readNumber? cs with
    | 0 => none
    | steps + 1 => pure (ofSteps specifier steps)

def numberLimit : Nat := 4300

def read (name : String) : Except Error Compound :=
  match readChars? name.toList with
  | none => throw (.unknownInterval name)
  | some i =>
    if numberLimit < (name.toList.filter Text.isDigit).length then throw .intervalTooLong
    else if i.interval.isPossible then pure i
    else throw (.impossibleInterval i.title)

end Compound

namespace Note

/-- Octaves added to a near note that leave every height a double. -/
def nearOctaves : Nat := 0x400000000000

def transposeBy (n : Note) (i : Compound) : Except Error Note :=
  if n.isNear && i.octaves < nearOctaves then do
    let m ← n.transpose i.interval
    pure { m with octave := m.octave.map (· + (i.octaves : Int)) }
  else do
    let m ← n.transposeFar i.interval i.octaves
    pure (if n.octave.isSome then m else { m with octave := none })

end Note

/-- The name an interval above a name, which is read before the interval. -/
def Compound.aboveNamed (name interval : String) : Except Error String := do
  let note ← Note.read name
  let i ← Compound.read interval
  pure (← note.transposeBy i).name

end Tonality
