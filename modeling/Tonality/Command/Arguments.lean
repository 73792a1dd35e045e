import Tonality.Text.Integer

/-!
Command lines. Options stand before a command or between its arguments, and two
dashes alone end them. A long option may carry its value after an equals sign;
short ones may be glued together, the last one with its value. An option that
takes a value takes the next argument whatever it looks like, and of several
the last one counts. Help and the version are given as soon as the options have
been told apart, before anything else is checked.
-/

namespace Tonality.Command

inductive Switch
  | help | version | verbose | names | resolve | key | measures | complexity | seed | meter
  deriving DecidableEq, Repr

namespace Switch

def long : Switch → String
  | help => "--help" | version => "--version" | verbose => "--verbose" | names => "--names"
  | resolve => "--resolve" | key => "--key" | measures => "--measures"
  | complexity => "--complexity" | seed => "--seed" | meter => "--meter"

def short? : Switch → Option Char
  | help => some 'h' | verbose => some 'v' | key => some 'k' | measures => some 'm'
  | complexity => some 'c' | _ => none

def takesValue : Switch → Bool
  | key | measures | complexity | seed | meter => true
  | _ => false

end Switch

structure Setting where
  switch : Switch
  value : String
  deriving DecidableEq, Repr

/-- What one argument says: settings, and perhaps an option that waits for a value. -/
structure Reading where
  settings : List Setting
  waiting : Option Switch

def readCluster? (known : List Switch) : List Char → Option Reading
  | [] => some ⟨[], none⟩
  | c :: rest => do
    let s ← known.find? fun s => s.short? = some c
    if s.takesValue then
      if rest.isEmpty then pure ⟨[], some s⟩ else pure ⟨[⟨s, String.ofList rest⟩], none⟩
    else
      let r ← readCluster? known rest
      pure { r with settings := ⟨s, ""⟩ :: r.settings }

def readLong? (known : List Switch) (cs : List Char) : Option Reading := do
  let name := String.ofList (cs.takeWhile (· ≠ '='))
  let s ← known.find? fun s => s.long = name
  match cs.dropWhile (· ≠ '='), s.takesValue with
  | [], true => pure ⟨[], some s⟩
  | [], false => pure ⟨[⟨s, ""⟩], none⟩
  | _ :: value, true => pure ⟨[⟨s, String.ofList value⟩], none⟩
  | _ :: _, false => none

def readOption? (known : List Switch) : List Char → Option Reading
  | '-' :: '-' :: rest => readLong? known ('-' :: '-' :: rest)
  | _ :: rest => readCluster? known rest
  | [] => none

/-- A single dash is an argument like any other. -/
def isOption (arg : String) : Bool := arg.startsWith "-" && arg ≠ "-"

structure Line where
  settings : List Setting := []
  positionals : List String := []
  deriving DecidableEq, Repr

/-- Splits a line; unless options are `mixed` in, the first argument ends them. -/
def split? (known : List Switch) (mixed : Bool) : List String → Option Line
  | [] => some {}
  | arg :: rest =>
    if arg = "--" then some { positionals := rest }
    else if isOption arg then do
      let r ← readOption? known arg.toList
      match r.waiting, rest with
      | none, rest =>
        let line ← split? known mixed rest
        pure { line with settings := r.settings ++ line.settings }
      | some s, value :: rest =>
        let line ← split? known mixed rest
        pure { line with settings := r.settings ++ ⟨s, value⟩ :: line.settings }
      | some _, [] => none
    else if mixed then do
      let line ← split? known mixed rest
      pure { line with positionals := arg :: line.positionals }
    else some { positionals := arg :: rest }

namespace Line

def has (l : Line) (s : Switch) : Bool := l.settings.any fun x => x.switch = s

def last? (l : Line) (s : Switch) : Option String :=
  (l.settings.reverse.find? fun x => x.switch = s).map Setting.value

def text (l : Line) (s : Switch) (default : String) : String := (l.last? s).getD default

def int? (l : Line) (s : Switch) (default low high : Int) : Option Int :=
  match l.last? s with
  | none => some default
  | some v => do
    let n ← Text.integer? v
    if low ≤ n ∧ n ≤ high then pure n else none

def seed? (l : Line) : Option (Option Int) :=
  match l.last? .seed with
  | none => some none
  | some v => some <$> Text.integer? v

end Line
end Tonality.Command
