import Tonality.Command.Request
import Tonality.Composition

/-!
Answers to command lines: the text for standard output, or a report of what
went wrong. The exit code is 0 for an answer, 1 for a fault in the request's
music, and 2 for a line that cannot be read.
-/

namespace Tonality.Command

structure Outcome where
  exit : Nat
  stdout : String := ""
  stderr : String := ""
  deriving DecidableEq, Repr

/-- Faults that are put into words; of the others only the exit code tells. -/
def isReported : Kind → Bool
  | .input | .key | .meter | .theory | .generation => true
  | _ => false

def lines (ls : List String) : String := String.join (ls.map (· ++ "\n"))

def words (ws : List String) : String := " ".intercalate ws

def bars (ws : List String) : String := " | ".intercalate ws

def Outcome.ofResult : Except Error (List String) → Outcome
  | .ok ls => { exit := 0, stdout := lines ls }
  | .error e =>
    { exit := 1, stderr := if isReported e.kind then lines ["  ERROR: " ++ e.message] else "" }

def variantLines (label : String) : Option Variant → List String
  | none => []
  | some v => ["  " ++ label ++ ": " ++ words v.scale ++ "  |  " ++ words v.chords]

def keyLines (k : Key) : List String :=
  ["  Tonic  : " ++ k.tonic, "  Mode   : " ++ k.mode.name, "  Scale  : " ++ words k.scale,
   "  Chords : " ++ words k.chords] ++
    variantLines "Natural  " k.natural ++ variantLines "Harmonic " k.harmonic ++
    variantLines "Melodic  " k.melodic

def chordLines (v : Voicing) : List String :=
  ["  Chord  : " ++ v.symbol, "  Notes  : " ++ words (v.notes.map toString),
   "  Names  : " ++ words v.names,
   "  Bass   : " ++ v.bass.elim "root position" toString]

def poolLines (notes : List Int) (names : Bool) : Except Error (List String) := do
  let keys ← Keyboard.poolFor notes
  pure [words (keys.map fun n =>
    if names then (Keyboard.name? n).getD "" else toString n)]

def symbols (key : String) (numerals : List String) : Except Error (List String) :=
  numerals.mapM fun n => do pure (← Resolution.ofTexts (some n) (some key)).voicing.symbol

def progressionLines (name : String) (measures complexity : Int) (resolve : Bool) :
    Gen (List String) := do
  let numerals ← Progression.inKey {} (.name (some name)) measures (.int complexity)
  if resolve && !numerals.isEmpty then
    pure [bars numerals, bars (← Gen.lift (symbols name numerals))]
  else pure [bars numerals]

/-- A rest has the letter r before its value. -/
def eventText (e : Event) : String := if e < 0 then "r" ++ toString (-e) else toString e

def rhythmLines (meter : String) (complexity measures : Int) : Gen (List String) := do
  let ms ← Rhythm.measures (.value (.str meter)) (.num (.int complexity)) measures
  pure (ms.map fun es => words (es.map eventText))

def versionLine : String := "tonalgen, version 0.1.0"

def helpLines : List String :=
  ["Usage: tonalgen [OPTIONS] COMMAND [ARGS]...", "",
   "  keys, Roman numerals, progressions and rhythms", "",
   "Commands: key, chord, pool, progression, rhythm"]

/-- The answer to a request with the draws of one source, whatever seed it names. -/
def Request.lines (r : Request) (s : Draws) : Except Error (List String) :=
  match r with
  | .help => .ok helpLines
  | .version => .ok [versionLine]
  | .key name => keyLines <$> Key.read (some name)
  | .chord roman name => do pure (chordLines (← Resolution.ofTexts (some roman) (some name)).voicing)
  | .pool notes names => poolLines notes names
  | .progression name measures complexity _ resolve =>
    ((progressionLines name measures complexity resolve).run s).1
  | .rhythm meter complexity measures _ => ((rhythmLines meter complexity measures).run s).1

/-- The answer to a request with the draws that its seed asks for. -/
def Request.seeded (r : Request) (stream : Option Nat → Draws) : Except Error (List String) := do
  r.lines (← Draws.seeded stream r.seed?)

def answer (args : List String) (lines : Request → Except Error (List String)) : Outcome :=
  match Request.ofArguments? args with
  | none => { exit := 2 }
  | some r => .ofResult (lines r)

end Tonality.Command
