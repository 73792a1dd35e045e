import Tonality.Pitch.Transposition

/-!
Chord qualities: five triads and eight seventh chords, each with the suffix
that writes it and the intervals of its members above the root. Every seventh
chord stands on a triad; a triad together with a seventh may have a standard
seventh chord, and every triad has a nearest one.
-/

namespace Tonality

inductive Quality
  | major
  | minor
  | diminished
  | augmented
  | suspended
  | dominantSeventh
  | majorSeventh
  | minorSeventh
  | minorMajorSeventh
  | halfDiminishedSeventh
  | diminishedSeventh
  | augmentedSeventh
  | suspendedSeventh
  deriving DecidableEq, Repr

namespace Quality

def all : List Quality :=
  [major, minor, diminished, augmented, suspended, dominantSeventh, majorSeventh, minorSeventh,
   minorMajorSeventh, halfDiminishedSeventh, diminishedSeventh, augmentedSeventh,
   suspendedSeventh]

def suffix : Quality → String
  | major => "M"
  | minor => "m"
  | diminished => "dim"
  | augmented => "aug"
  | suspended => "sus4"
  | dominantSeventh => "7"
  | majorSeventh => "maj7"
  | minorSeventh => "m7"
  | minorMajorSeventh => "mMaj7"
  | halfDiminishedSeventh => "m7b5"
  | diminishedSeventh => "dim7"
  | augmentedSeventh => "7#5"
  | suspendedSeventh => "7sus4"

def aliases : List (String × Quality) :=
  [("", major), ("maj", major), ("min", minor), ("o", diminished), ("°", diminished),
   ("+", augmented), ("sus", suspended), ("M7", majorSeventh), ("Maj7", majorSeventh),
   ("ø7", halfDiminishedSeventh), ("ø", halfDiminishedSeventh), ("°7", diminishedSeventh),
   ("o7", diminishedSeventh), ("+7", augmentedSeventh), ("aug7", augmentedSeventh),
   ("7sus", suspendedSeventh)]

def ofSuffix? (s : String) : Option Quality :=
  (aliases ++ all.map fun q => (q.suffix, q)).lookup s

def name : Quality → String
  | major => "MAJOR"
  | minor => "MINOR"
  | diminished => "DIMINISHED"
  | augmented => "AUGMENTED"
  | suspended => "SUSPENDED"
  | dominantSeventh => "DOMINANT_SEVENTH"
  | majorSeventh => "MAJOR_SEVENTH"
  | minorSeventh => "MINOR_SEVENTH"
  | minorMajorSeventh => "MINOR_MAJOR_SEVENTH"
  | halfDiminishedSeventh => "HALF_DIMINISHED_SEVENTH"
  | diminishedSeventh => "DIMINISHED_SEVENTH"
  | augmentedSeventh => "AUGMENTED_SEVENTH"
  | suspendedSeventh => "SUSPENDED_SEVENTH"

def ofName? (s : String) : Option Quality := all.find? fun q => q.name == s

private def unison : Interval := ⟨.perfect, 0⟩
private def minorThird : Interval := ⟨.minor, 2⟩
private def majorThird : Interval := ⟨.major, 2⟩
private def fourth : Interval := ⟨.perfect, 3⟩
private def lowFifth : Interval := ⟨.diminished, 4⟩
private def fifth : Interval := ⟨.perfect, 4⟩
private def highFifth : Interval := ⟨.augmented, 4⟩

end Quality

namespace Interval

def diminishedSeventh : Interval := ⟨.diminished, 6⟩
def minorSeventh : Interval := ⟨.minor, 6⟩
def majorSeventh : Interval := ⟨.major, 6⟩

end Interval

namespace Quality

/-- The triad inside the chord; a triad is its own. -/
def triad : Quality → Quality
  | dominantSeventh | majorSeventh => major
  | minorSeventh | minorMajorSeventh => minor
  | halfDiminishedSeventh | diminishedSeventh => diminished
  | augmentedSeventh => augmented
  | suspendedSeventh => suspended
  | q => q

def seventh? : Quality → Option Interval
  | dominantSeventh | minorSeventh | halfDiminishedSeventh | augmentedSeventh
  | suspendedSeventh => some .minorSeventh
  | majorSeventh | minorMajorSeventh => some .majorSeventh
  | diminishedSeventh => some .diminishedSeventh
  | _ => none

def triadIntervals : Quality → List Interval
  | minor => [unison, minorThird, fifth]
  | diminished => [unison, minorThird, lowFifth]
  | augmented => [unison, majorThird, highFifth]
  | suspended => [unison, fourth, fifth]
  | _ => [unison, majorThird, fifth]

def intervals (q : Quality) : List Interval := q.triad.triadIntervals ++ q.seventh?.toList

def isSeventh (q : Quality) : Bool := q.intervals.length == 4

def standardSeventh? (triad : Quality) (seventh : Interval) : Option Quality :=
  if seventh = .minorSeventh then
    match triad with
    | major => some dominantSeventh
    | minor => some minorSeventh
    | diminished => some halfDiminishedSeventh
    | suspended => some suspendedSeventh
    | _ => none
  else if seventh = .majorSeventh then
    match triad with
    | major => some majorSeventh
    | minor => some minorMajorSeventh
    | _ => none
  else if seventh = .diminishedSeventh then
    match triad with
    | diminished => some diminishedSeventh
    | _ => none
  else none

/-- The chord taken for a triad whatever seventh was asked for. -/
def usualSeventh? : Quality → Option Quality
  | major => some dominantSeventh
  | minor => some minorSeventh
  | diminished => some diminishedSeventh
  | augmented => some augmentedSeventh
  | suspended => some suspendedSeventh
  | _ => none

/-- The triad whose third and fifth are so many semitones above its root. -/
def ofSemitones? (third fifth : Int) : Option Quality :=
  if third = 4 ∧ fifth = 7 then some major
  else if third = 3 ∧ fifth = 7 then some minor
  else if third = 3 ∧ fifth = 6 then some diminished
  else if third = 4 ∧ fifth = 8 then some augmented
  else none

theorem mem_all (q : Quality) : q ∈ all := by cases q <;> decide

theorem isSeventh_iff (q : Quality) : q.isSeventh = true ↔ q.seventh?.isSome := by
  cases q <;> decide

theorem semitones_pairwise (q : Quality) :
    (q.intervals.map Interval.semitones).Pairwise (· < ·) := by
  cases q <;> decide

/-- The triad that three names form, read in the order root, third, fifth. -/
def ofNames (root third fifth : String) : Except Error Quality := do
  let r ← readPitchClass root
  let t ← readPitchClass third
  let f ← readPitchClass fifth
  match ofSemitones? ((t - r) % 12) ((f - r) % 12) with
  | some q => pure q
  | none => throw (.notTertian root third fifth)

end Quality
end Tonality
