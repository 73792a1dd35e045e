import Tonality.Harmony.Modification
import Tonality.Harmony.Tonicization
import Tonality.Key.Name
import Tonality.Voicing

/-!
From a numeral and a key name to sounding notes. The numeral is read before the
key; a secondary target replaces the key for the choice of the chord, while the
register still follows the home key.
-/

namespace Tonality

structure Resolution where
  voicing : Voicing
  log : List Fallback
  deriving DecidableEq, Repr

def Resolution.ofTexts (roman key : Option String) : Except Error Resolution := do
  let n ← Numeral.read roman
  let home ← Key.read key
  let key ← match n.secondary with
    | some target => Key.tonicized (some home) target
    | none => pure home
  let index : Int := n.base.degree.index.val
  let symbol ← key.diatonic index n.written
  let m ← Key.modify (some key) (some symbol) roman index
  let v ← Voicing.ofSymbol (some m.chord.symbol) (some n.bass) home.mode home.tonic
  pure ⟨v, m.log⟩

end Tonality
