import Tonality.Harmony.Resolution
import Tonality.Keyboard
import Tonality.Progression
import Tonality.Rhythm

/-!
A piece from one source of draws: a whole progression first, and then for every
numeral its chord, the chord's notes shifted into a range, the piano keys of
the range that belong to the chord, and a measure of rhythm.
-/

namespace Tonality

structure Bar where
  numeral : String
  symbol : String
  placed : List Int
  pool : List String
  events : List Event
  used : Nat

namespace Bar
open Gen

def poolNames (notes : List Int) (low high : Int) : Except Error (List String) := do
  let keys ← (← Keyboard.poolFor notes).filterM fun n => Keyboard.covers n low high
  pure (keys.filterMap Keyboard.name?)

def compose (key : Option String) (meter : MeterSource) (complexity : Value) (low high : Int)
    (numeral : String) : Gen Bar := do
  let v := (← lift (Resolution.ofTexts (some numeral) key)).voicing
  let placed ← lift (v.notes.mapM fun n => Keyboard.fit n low high)
  let pool ← lift (poolNames v.notes low high)
  let events ← Rhythm.measure meter complexity
  pure ⟨numeral, v.symbol, placed, pool, events, (← get).used⟩

end Bar

def compose (key : Option String) (measures : Int) (complexity : Number) (meter : MeterSource)
    (rhythmComplexity : Value) (low high : Int) : Gen (List Bar) := do
  let numerals ← Progression.inKey {} (.name key) measures complexity
  numerals.mapM (Bar.compose key meter rhythmComplexity low high)

end Tonality
