import Tonality.Key
import Tonality.Voicing.Bass

/-!
Chords as sounding notes. The root goes into octave 3, or into octave 2 when it
lies a fifth or more above the tonic, but never below the C two octaves under
middle C; the other members stand above it in root position. A bass token other
than root position adds the pitch class that the bass has to sound.
-/

namespace Tonality

structure Voicing where
  symbol : String
  notes : List Int
  names : List String
  bass : Option Int
  deriving DecidableEq, Repr

namespace Voicing

def pitchClasses (v : Voicing) : List Int :=
  ((List.range 12).map fun (n : Nat) => (n : Int)).filter fun p => v.notes.any fun n => n % 12 == p

def lowestRoot : Int := 36

/-- The octave of a root, by how far its pitch class lies above the tonic's. -/
def octaveFor (root tonic : Int) : Int := if (root - tonic) % 12 < 7 then 3 else 2

/-- The name of the root in the octave chosen, or in the next one if it would be too low. -/
def placeRoot (r : Root) (tonic : Int) : Except Error String := do
  let octave := octaveFor r.pitchClass tonic
  let name := (r.inOctave octave).name
  pure (if (← readMidi name) < lowestRoot then (r.inOctave (octave + 1)).name else name)

def rootTokens : List String := ["1", "1P", "P1"]

def bassOf (c : Chord) (bass : Option String) : Except Error (Option Int) :=
  if bass.any rootTokens.contains then pure none else some <$> Bass.pitchClass c bass

/-- The members are put in ascending order of their MIDI numbers, which are read off their
names. -/
def ofChord (c : Chord) (bass : Option String) (tonic : String) : Except Error Voicing := do
  let root ← placeRoot c.root (← readPitchClass tonic)
  let names ← c.quality.intervals.mapM fun i => i.above root
  let members ← names.mapM fun name => do pure (← readMidi name, name)
  let members := members.mergeSort fun a b => a.1 ≤ b.1
  let bass ← bassOf c bass
  pure ⟨c.symbol, members.map Prod.fst, members.map Prod.snd, bass⟩

def ofSymbol (symbol bass : Option String) (mode : Mode) (tonic : String) :
    Except Error Voicing :=
  match mode with
  | .other name => throw (.unknownKeyMode name)
  | _ => do ofChord (← Chord.read symbol) bass tonic

end Voicing
end Tonality
