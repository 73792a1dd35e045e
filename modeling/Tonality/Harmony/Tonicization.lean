import Tonality.Harmony.Diatonic
import Tonality.Numeral.Base

/-!
Taking a degree of a key for a key of its own. The root of the chord on the
degree, shifted by the sign of the target, becomes the tonic; an upper-case
target gives a major key and a lower-case one a minor key.
-/

namespace Tonality.Key

def tonicized (k : Option Key) (target : String) : Except Error Key :=
  match Target.readChars? target.toList with
  | none => throw (.invalidTarget target)
  | some t => do
    let symbol ← diatonic? k t.degree.index.val target
    let chord ← Chord.read (some symbol)
    ofTonic (chord.root.shift t.shift).name (if t.degree.upper then .major else .minor)

end Tonality.Key
