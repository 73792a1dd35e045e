import Tonality.Key
import Tonality.Number

/-!
The chords of functional harmony in one mode, the vocabulary that a complexity
allows, and where each function tends to move.
-/

namespace Tonality

structure Functions where
  tonic : String
  subdominant : String
  supertonic : String
  mediant : String
  submediant : String
  dominant : String := "V"
  dominantSeventh : String := "V7"
  leadingTone : String := "vii°"
  leadingToneSeventh : String := "vii°7"
  deriving DecidableEq, Repr

namespace Functions

/-- Any mode but major has the functions of minor. -/
def ofMode (mode : Mode) : Functions :=
  if mode = .major then
    { tonic := "I", subdominant := "IV", supertonic := "ii", mediant := "iii",
      submediant := "vi" }
  else
    { tonic := "i", subdominant := "iv", supertonic := "ii°", mediant := "III",
      submediant := "VI" }

def dominants (f : Functions) : List String :=
  [f.dominant, f.dominantSeventh, f.leadingTone, f.leadingToneSeventh]

def subdominants (f : Functions) : List String := [f.subdominant, f.supertonic]

def substitutes (f : Functions) : List String := [f.submediant]

/-- What may stand before the last tonic, best first. -/
def cadences (f : Functions) : List String :=
  [f.dominantSeventh, f.dominant, f.subdominant]

/-- The chords that a complexity allows, in a fixed order. -/
def vocabulary (f : Functions) (complexity : Number) : List String :=
  let secondary := if complexity.atLeast 3 then [f.submediant, f.supertonic] else []
  let colour := if complexity.atLeast 6 then [f.mediant, f.leadingTone] else []
  let chords := [f.tonic, f.subdominant, f.dominant] ++ secondary ++ colour
  let chords := if complexity.atLeast 4 then
    chords.map fun c => if c = f.dominant then f.dominantSeventh else c else chords
  let chords := if complexity.atLeast 8 then
    chords.map fun c => if c = f.leadingTone then f.leadingToneSeventh else c else chords
  chords.eraseDups

def targets (f : Functions) (previous : String) (allowed : List String) : List String :=
  if f.dominants.contains previous then [f.tonic, f.submediant]
  else if f.subdominants.contains previous then
    [f.dominant, f.dominantSeventh, f.tonic, f.submediant]
  else if f.substitutes.contains previous then
    [f.subdominant, f.supertonic, f.dominant, f.dominantSeventh]
  else allowed.filter (· ≠ f.tonic)

end Functions

/-- A set of names in the order of their code points. -/
def sortedNames (names : List String) : List String :=
  names.eraseDups.mergeSort fun a b => a ≤ b

end Tonality
