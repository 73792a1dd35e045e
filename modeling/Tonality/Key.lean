import Tonality.Chord

/-!
Keys. A key has a tonic, a mode, a scale of seven names and the triad symbols
on its degrees; a minor key also has the three forms of its scale. A key is
built from its tonic by transposing it along the steps of the mode and
stacking thirds on every degree.
-/

namespace Tonality

/-- Major and minor, and whatever else a caller may name. -/
inductive Mode
  | major
  | minor
  | other (name : String)
  deriving DecidableEq, Repr

namespace Mode

def name : Mode → String
  | major => "major"
  | minor => "minor"
  | other s => s

def ofName (s : String) : Mode :=
  if s = "major" then major else if s = "minor" then minor else other s

end Mode

structure Variant where
  scale : List String
  chords : List String
  deriving DecidableEq, Repr

structure Key where
  tonic : String
  mode : Mode
  scale : List String
  chords : List String
  natural : Option Variant := none
  harmonic : Option Variant := none
  melodic : Option Variant := none
  deriving DecidableEq, Repr

namespace Scale

/-- The intervals of a scale above its tonic, each perfect or major unless its step is
lowered to minor. -/
def intervals (lowered : List (Fin 7)) : List Interval :=
  ([0, 1, 2, 3, 4, 5, 6] : List (Fin 7)).map fun s =>
    if lowered.contains s then ⟨.minor, s⟩ else Interval.natural s

def major : List Interval := intervals []
def naturalMinor : List Interval := intervals [2, 5, 6]
def harmonicMinor : List Interval := intervals [2, 5]
def melodicMinor : List Interval := intervals [2]

def triad (root third fifth : String) : Except Error String := do
  pure (root ++ (← Quality.ofNames root third fifth).suffix)

def triads (scale : List String) : Except Error (List String) :=
  (scale.zip ((scale.rotateLeft 2).zip (scale.rotateLeft 4))).mapM fun d =>
    triad d.1 d.2.1 d.2.2

def onTonic (tonic : String) (steps : List Interval) : Except Error Variant := do
  let scale ← steps.mapM fun i => i.above tonic
  pure ⟨scale, ← triads scale⟩

end Scale

namespace Key

def name (k : Key) : String := k.tonic ++ " " ++ k.mode.name

/-- Any mode but major gives a minor key, whose own scale is the natural form. -/
def ofTonic (tonic : String) (mode : Mode) : Except Error Key :=
  if mode = .major then do
    let v ← Scale.onTonic tonic Scale.major
    pure { tonic, mode := .major, scale := v.scale, chords := v.chords }
  else do
    let natural ← Scale.onTonic tonic Scale.naturalMinor
    let harmonic ← Scale.onTonic tonic Scale.harmonicMinor
    let melodic ← Scale.onTonic tonic Scale.melodicMinor
    pure
      { tonic, mode := .minor, scale := natural.scale, chords := natural.chords,
        natural := some natural, harmonic := some harmonic, melodic := some melodic }

end Key
end Tonality
