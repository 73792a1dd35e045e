import Tonality.Chord.Quality

/-!
Chords and their symbols. A symbol is a root, an upper-case letter with up to
three sharps or three flats, followed by a suffix for the quality. Reading
takes as many signs into the root as it can and skips blanks around the
symbol; printing always uses the quality's own suffix.
-/

namespace Tonality

structure Root where
  letter : Letter
  alter : Int
  deriving DecidableEq, Repr

namespace Root

def note (r : Root) : Note := { letter := r.letter, alter := r.alter, octave := none }

def inOctave (r : Root) (octave : Int) : Note :=
  { letter := r.letter, alter := r.alter, octave := some octave }

def chars (r : Root) : List Char := r.letter.char :: signs r.alter

def name (r : Root) : String := String.ofList r.chars

def pitchClass (r : Root) : Int := r.note.pitchClass

def shift (r : Root) (semitones : Int) : Root := { r with alter := r.alter + semitones }

end Root

structure Chord where
  root : Root
  quality : Quality
  deriving DecidableEq, Repr

namespace Chord

def symbol (c : Chord) : String := c.root.name ++ c.quality.suffix

def recast (c : Chord) (q : Quality) : Chord := { c with quality := q }

def members (c : Chord) : Except Error (List Note) :=
  c.quality.intervals.mapM c.root.note.transpose

/-- How many of one sign stand in front, three at most. -/
def leading (sign : Char) (cs : List Char) : Nat := min 3 (cs.takeWhile (· = sign)).length

/-- The alteration written in front, and what follows it. -/
def takeSigns (cs : List Char) : Int × List Char :=
  let sharps := leading '#' cs
  let flats := leading 'b' cs
  if 0 < sharps then (sharps, cs.drop sharps) else (-(flats : Int), cs.drop flats)

def readChars? (cs : List Char) : Option Chord :=
  match Text.strip cs with
  | [] => none
  | c :: rest => do
    let letter ← Letter.ofChar? c
    let (alter, suffix) := takeSigns rest
    pure ⟨⟨letter, alter⟩, ← Quality.ofSuffix? (String.ofList suffix)⟩

/-- Reads a symbol; the report of a failure shows the symbol as it was given. -/
def read (symbol : Option String) : Except Error Chord :=
  match readChars? (symbol.getD "").toList with
  | some c => pure c
  | none => throw (.unknownChord (Text.shown symbol))

end Chord
end Tonality
