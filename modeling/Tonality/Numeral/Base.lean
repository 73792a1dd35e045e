import Tonality.Chord.Quality

/-!
The base of a Roman numeral: an optional sign, a numeral from I to VII in one
case, an optional quality, an optional 7 and an optional suspension. Each part
is read as far as it goes; one line break may follow the last.
-/

namespace Tonality

structure Degree where
  index : Fin 7
  upper : Bool
  deriving DecidableEq, Repr

namespace Degree

def upperText : Fin 7 → String
  | 0 => "I" | 1 => "II" | 2 => "III" | 3 => "IV" | 4 => "V" | 5 => "VI" | 6 => "VII"

def lowerText : Fin 7 → String
  | 0 => "i" | 1 => "ii" | 2 => "iii" | 3 => "iv" | 4 => "v" | 5 => "vi" | 6 => "vii"

def text (d : Degree) : String := if d.upper then upperText d.index else lowerText d.index

def all : List Degree :=
  [true, false].flatMap fun upper =>
    ([0, 1, 2, 3, 4, 5, 6] : List (Fin 7)).map fun index => ⟨index, upper⟩

def ofChars? (cs : List Char) : Option Degree := all.find? fun d => d.text.toList = cs

def isNumeral (c : Char) : Bool := c = 'I' || c = 'V' || c = 'i' || c = 'v'

theorem mem_all (d : Degree) : d ∈ all := by
  obtain ⟨i, u⟩ := d
  cases u <;> (revert i; decide)

end Degree

inductive Sign
  | sharp
  | flat
  deriving DecidableEq, Repr

namespace Sign

def text : Sign → String
  | sharp => "#"
  | flat => "b"

def shift : Sign → Int
  | sharp => 1
  | flat => -1

def take : List Char → Option Sign × List Char
  | '#' :: r => (some sharp, r)
  | 'b' :: r => (some flat, r)
  | r => (none, r)

end Sign

inductive Token
  | dim | o | degree | slashed | hd | aug | plus | sus4 | sus | maj | capitalMaj | capitalM
  | min | m
  deriving DecidableEq, Repr

namespace Token

def text : Token → String
  | dim => "dim" | o => "o" | degree => "°" | slashed => "ø" | hd => "hd" | aug => "aug"
  | plus => "+" | sus4 => "sus4" | sus => "sus" | maj => "maj" | capitalMaj => "Maj"
  | capitalM => "M" | min => "min" | m => "m"

/-- A longer word stands before the shorter ones it begins with. -/
def all : List Token :=
  [dim, o, degree, slashed, hd, aug, plus, sus4, sus, maj, capitalMaj, capitalM, min, m]

def triad : Token → Quality
  | dim | o | degree | slashed | hd => .diminished
  | m | min => .minor
  | capitalM | maj | capitalMaj => .major
  | aug | plus => .augmented
  | sus | sus4 => .suspended

def seventh? : Token → Option Interval
  | dim | o | degree => some .diminishedSeventh
  | slashed | hd | m | min => some .minorSeventh
  | capitalM | maj | capitalMaj => some .majorSeventh
  | aug | plus | sus | sus4 => none

/-- The half-diminished words ask for a seventh by themselves. -/
def impliesSeventh : Token → Bool
  | slashed | hd => true
  | _ => false

end Token

inductive Suspension
  | sus4
  | sus
  deriving DecidableEq, Repr

namespace Suspension

def text : Suspension → String
  | sus4 => "sus4"
  | sus => "sus"

def all : List Suspension := [sus4, sus]

end Suspension

/-- The first entry whose text stands in front, and what follows it. -/
def takeText {α : Type} (text : α → String) (entries : List α) (cs : List Char) :
    Option α × List Char :=
  match entries.find? fun e => (text e).toList.isPrefixOf cs with
  | some e => (some e, cs.drop (text e).length)
  | none => (none, cs)

structure Base where
  sign : Option Sign
  degree : Degree
  token : Option Token
  seventh : Bool
  suspension : Option Suspension
  deriving DecidableEq, Repr

namespace Base

def text (b : Base) : String :=
  (b.sign.elim "" Sign.text) ++ b.degree.text ++ (b.token.elim "" Token.text) ++
    (if b.seventh then "7" else "") ++ (b.suspension.elim "" Suspension.text)

def takeSeven : List Char → Bool × List Char
  | '7' :: r => (true, r)
  | r => (false, r)

/-- The end of the text, or one line break before it. -/
def atEnd (cs : List Char) : Bool := cs.isEmpty || cs == ['\n']

def readChars? (cs : List Char) : Option Base := do
  let (sign, cs) := Sign.take cs
  let degree ← Degree.ofChars? (cs.takeWhile Degree.isNumeral)
  let (token, cs) := takeText Token.text Token.all (cs.dropWhile Degree.isNumeral)
  let (seventh, cs) := takeSeven cs
  let (suspension, cs) := takeText Suspension.text Suspension.all cs
  if atEnd cs then pure ⟨sign, degree, token, seventh, suspension⟩ else none

def shift (b : Base) : Int := b.sign.elim 0 Sign.shift

end Base

structure Target where
  sign : Option Sign
  degree : Degree
  deriving DecidableEq, Repr

namespace Target

def readChars? (cs : List Char) : Option Target := do
  let (sign, cs) := Sign.take cs
  let degree ← Degree.ofChars? (cs.takeWhile Degree.isNumeral)
  if Base.atEnd (cs.dropWhile Degree.isNumeral) then pure ⟨sign, degree⟩ else none

def shift (t : Target) : Int := t.sign.elim 0 Sign.shift

end Target
end Tonality
