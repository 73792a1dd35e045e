import Tonality.Key

/-!
The chords that stand on the degrees of a key. A major key has one list of
them; a minor key takes degrees V and vii from its harmonic form and all other
degrees from its natural form, and no form stands in for a missing one. A plain
7 on a degree means the seventh chord that the same form has there.
-/

namespace Tonality.Key

/-- The degrees that a minor key takes from its harmonic form. -/
def isRaised (index : Int) : Bool := index = 4 || index = 6

/-- The list that holds the chord of a degree, and what the list is called. -/
def source (k : Key) (index : Int) : List String × String :=
  if k.mode = .major then (k.chords, "Key")
  else if isRaised index then ((k.harmonic.map Variant.chords).getD [], "Harmonic minor")
  else ((k.natural.map Variant.chords).getD [], "Natural minor")

/-- The chord symbol on a degree; the numeral only appears in reports. -/
def diatonic (k : Key) (index : Int) (numeral : String) : Except Error String :=
  if index < 0 ∨ 6 < index then throw (.showing [index] (.degreeOutOfRange index numeral))
  else
    let (chords, source) := k.source index
    match chords[index.toNat]? with
    | some symbol => pure symbol
    | none => throw (.degreeNotFound index numeral k.name source)

def diatonic? (k : Option Key) (index : Int) (numeral : String) : Except Error String :=
  match k with
  | none => throw (.keyMissingForChord numeral)
  | some k => k.diatonic index numeral

def majorSeventh? : Int → Option Quality
  | 0 | 3 => some .majorSeventh
  | 1 | 2 | 5 => some .minorSeventh
  | 4 => some .dominantSeventh
  | 6 => some .halfDiminishedSeventh
  | _ => none

def harmonicSeventh? : Quality → Option Quality
  | .major => some .dominantSeventh
  | .diminished => some .diminishedSeventh
  | _ => none

def naturalSeventh? : Quality → Option Quality
  | .major => some .majorSeventh
  | .minor => some .minorSeventh
  | .diminished => some .halfDiminishedSeventh
  | _ => none

/-- The seventh chord that a plain 7 means on a degree. -/
def plainSeventh (k : Key) (index : Int) : Except Error Quality :=
  if k.mode = .major then
    match majorSeventh? index with
    | some q => pure q
    | none => throw (.degreeWithoutSeventh index)
  else do
    let symbol ← k.diatonic index ""
    let triad := (← Chord.read (some symbol)).quality.triad
    match (if isRaised index then harmonicSeventh? else naturalSeventh?) triad with
    | some q => pure q
    | none => throw (.noDefaultSeventh triad.name.toLower index k.name)

end Tonality.Key
