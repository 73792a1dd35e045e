import Tonality.Value

/-!
One difficulty from 0 to 10 turned into settings: a harder level has busier
rhythms, richer harmony, larger leaps in the melody and looser treatment of
dissonance.
-/

namespace Tonality

inductive Style
  | fourPart
  | accompanied
  deriving DecidableEq, Repr

namespace Style

def name : Style → String
  | fourPart => "SATB"
  | accompanied => "MelodyAccompaniment"

def ofValue : Value → Except Error Style
  | .str "SATB" => pure fourPart
  | .str "MelodyAccompaniment" => pure accompanied
  | v => v.refuse (.unknownStyle v.shown)

def voices? : Style → Option Nat
  | fourPart => none
  | accompanied => some 3

end Style

structure Settings where
  style : Style
  rhythmic : Int
  smoothness : Int
  strictness : Float
  harmonic : Int
  voices : Option Nat

namespace Settings

def smaller (x y : Float) : Float := if y < x then y else x

def larger (x y : Float) : Float := if x < y then y else x

def ofLevel (style : Style) (level : Int) : Except Error Settings := do
  let l := Float.ofInt level
  let rhythmic ← Number.floorOf (l * 1.1 + 0.5)
  let harmonic ← Number.floorOf (3.0 + l * 0.5 + 0.5)
  pure
    { style
      rhythmic := min 10 (max 1 rhythmic)
      smoothness := min 10 (max 0 (10 - level))
      strictness := smaller 10.0 (larger 0.0 (10.0 - l * 0.8))
      harmonic := min 10 harmonic
      voices := style.voices? }

/-- The style is looked at first; the difficulty is rounded and then clamped. -/
def ofDifficulty (difficulty : Number) (style : Value) : Except Error Settings := do
  let style ← Style.ofValue style
  let rounded ← difficulty.rounded
  ofLevel style (min 10 (max 0 rounded))

end Settings
end Tonality
