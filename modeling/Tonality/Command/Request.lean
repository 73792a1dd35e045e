import Tonality.Command.Arguments

/-!
What a command line asks for. Each command has its own options and positional
arguments; a line that fits none of them is a usage error.
-/

namespace Tonality.Command

inductive Request
  | help
  | version
  | key (name : String)
  | chord (roman key : String)
  | pool (notes : List Int) (names : Bool)
  | progression (key : String) (measures complexity : Int) (seed : Option Int) (resolve : Bool)
  | rhythm (meter : String) (complexity measures : Int) (seed : Option Int)
  deriving DecidableEq, Repr

namespace Request

def mostMeasures : Int := 256

def programSwitches : List Switch := [.verbose, .version, .help]

def switchesOf? : String → Option (List Switch)
  | "key" => some [.help]
  | "chord" => some [.key, .help]
  | "pool" => some [.names, .help]
  | "progression" => some [.key, .measures, .complexity, .seed, .resolve, .help]
  | "rhythm" => some [.meter, .complexity, .measures, .seed, .help]
  | _ => none

def ofKey? (l : Line) : Option Request :=
  match l.positionals with
  | [name] => some (.key name)
  | _ => none

def ofChord? (l : Line) : Option Request :=
  match l.positionals with
  | [roman] => some (.chord roman (l.text .key "C"))
  | _ => none

def midi? (s : String) : Option Int := do
  let n ← Text.integer? s
  if 0 ≤ n ∧ n ≤ 127 then pure n else none

def ofPool? (l : Line) : Option Request := do
  pure (.pool (← l.positionals.mapM midi?) (l.has .names))

def ofProgression? (l : Line) : Option Request := do
  let measures ← l.int? .measures 8 0 mostMeasures
  let complexity ← l.int? .complexity 3 0 10
  let seed ← l.seed?
  if l.positionals.isEmpty then
    pure (.progression (l.text .key "C") measures complexity seed (l.has .resolve))
  else none

def ofRhythm? (l : Line) : Option Request := do
  let complexity ← l.int? .complexity 3 1 10
  let measures ← l.int? .measures 1 1 mostMeasures
  let seed ← l.seed?
  if l.positionals.isEmpty then
    pure (.rhythm (l.text .meter "4/4") complexity measures seed)
  else none

def ofLine? (command : String) (l : Line) : Option Request :=
  if l.has .help then some .help
  else match command with
    | "key" => ofKey? l
    | "chord" => ofChord? l
    | "pool" => ofPool? l
    | "progression" => ofProgression? l
    | "rhythm" => ofRhythm? l
    | _ => none

def seed? : Request → Option Int
  | .progression _ _ _ seed _ => seed
  | .rhythm _ _ _ seed => seed
  | _ => none

/-- The options in front of the command that are answered at once, the first one first. -/
def early? (l : Line) : Option Request :=
  l.settings.findSome? fun x => match x.switch with
    | .help => some .help
    | .version => some .version
    | _ => none

/-- An unknown command that looks like an option is tried as one. -/
def ofUnknown? (command : String) : Option Request := do
  early? (← split? programSwitches false [command])

def ofArguments? (args : List String) : Option Request := do
  let l ← split? programSwitches false args
  match early? l with
  | some r => pure r
  | none =>
    match l.positionals with
    | [] => none
    | command :: rest =>
      match switchesOf? command with
      | none => ofUnknown? command
      | some switches => ofLine? command (← split? switches true rest)

end Request
end Tonality.Command
