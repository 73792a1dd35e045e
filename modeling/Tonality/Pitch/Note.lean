import Tonality.Binary64
import Tonality.Text.Blank
import Tonality.Text.Lower
import Tonality.Word

/-!
Spelled notes. A note is a letter with an alteration in semitones, up to four
either way, and perhaps an octave; its height and pitch class follow from the
spelling, a note without an octave standing in octave 4, and its MIDI number is
its height as far as MIDI numbers reach. A note altered by no more than a tone
may stand a quarter tone between two semitones: its pitch class is then the even
one of the two, and its MIDI number the upper one. Heights are doubles, which
matters in octaves far beyond hearing only. Names are read with flats written
either as `b` or as a dash, or with a word for the alteration, and printed with
`b`.
-/

namespace Tonality

inductive Letter
  | c | d | e | f | g | a | b
  deriving DecidableEq, Repr

namespace Letter

def all : List Letter := [c, d, e, f, g, a, b]

def index : Letter → Nat
  | c => 0 | d => 1 | e => 2 | f => 3 | g => 4 | a => 5 | b => 6

def ofIndex (i : Nat) : Letter :=
  match i % 7 with
  | 0 => c | 1 => d | 2 => e | 3 => f | 4 => g | 5 => a | _ => b

def semitone : Letter → Int
  | c => 0 | d => 2 | e => 4 | f => 5 | g => 7 | a => 9 | b => 11

def char : Letter → Char
  | c => 'C' | d => 'D' | e => 'E' | f => 'F' | g => 'G' | a => 'A' | b => 'B'

def ofChar? : Char → Option Letter
  | 'C' => some c | 'D' => some d | 'E' => some e | 'F' => some f
  | 'G' => some g | 'A' => some a | 'B' => some b | _ => none

def up (l : Letter) (n : Nat) : Letter := ofIndex (l.index + n)

def fifths : Letter → Int
  | f => -1 | c => 0 | g => 1 | d => 2 | a => 3 | e => 4 | b => 5

theorem ofIndex_index (l : Letter) : ofIndex l.index = l := by cases l <;> rfl

theorem ofChar?_char (l : Letter) : ofChar? l.char = some l := by cases l <;> rfl

end Letter

def signs (alter : Int) : List Char :=
  if 0 < alter then List.replicate alter.toNat '#' else List.replicate (-alter).toNat 'b'

/-- The signs of a quarter tone above an alteration. -/
def quarterSigns (alter : Int) : List Char :=
  if 0 ≤ alter then signs alter ++ ['~'] else signs (alter + 1) ++ ['\x60']

/-- The note stands at its alteration, or a quarter tone above it. -/
structure Note where
  letter : Letter
  alter : Int
  octave : Option Int
  quarter : Bool := false
  deriving DecidableEq, Repr

namespace Note

def spelling (n : Note) : List Char :=
  n.letter.char :: if n.quarter then quarterSigns n.alter else signs n.alter

def chars (n : Note) : List Char :=
  n.spelling ++ match n.octave with
    | none => []
    | some o => (toString o).toList

def name (n : Note) : String := String.ofList n.chars

/-- Semitones above the C of octave -1, the quarter tone not counted. -/
def exactHeight (n : Note) : Int :=
  12 * (n.octave.getD 4 + 1) + n.letter.semitone + n.alter

/-- Octaves in which every height is a double. -/
def isNear (n : Note) : Bool := (n.octave.getD 4).natAbs < 0x1000000000000

/-- The height as a double, the natural note's being rounded before the signs are added. -/
def level (n : Note) : Rat :=
  let half : Rat := if n.quarter then mkRat 1 2 else 0
  if n.isNear then n.exactHeight + half
  else Binary64.nearest (Binary64.nearest (n.exactHeight - n.alter : Int) + n.alter + half)

def height (n : Note) : Int := if n.isNear then n.exactHeight else n.level.floor

def isSplit (n : Note) : Bool := n.quarter && n.level != n.height

def check (n : Note) : Except Error Note :=
  if n.isNear || (n.exactHeight - n.alter).natAbs < Binary64.bound then pure n
  else throw .tooLargeForDouble

/-- Between two semitones the even one counts. -/
def pitchClass (n : Note) : Int :=
  (if n.isSplit then n.height + n.height % 2 else n.height) % 12

def highest : Int := 127

/-- Where the doubles are whole numbers one apart, adding a half to an odd one gives the
next. -/
def halfUp (h : Int) : Int := if 0x10000000000000 ≤ h ∧ h < 0x20000000000000 then h + h % 2 else h

/-- The nearest semitone, the upper one between two. -/
def semitone (n : Note) : Int := if n.isSplit then n.height + 1 else halfUp n.height

/-- The semitone, for notes too high for a MIDI number in the highest octave that has one. -/
def midi (n : Note) : Int :=
  if n.semitone ≤ highest then n.semitone else 115 + (n.semitone - 115) % 12

/-- Flats after the first character written as dashes. -/
def dashed : List Char → List Char
  | [] => []
  | c :: r => c :: r.map fun x => if x = 'b' then '-' else x

def undashed (cs : List Char) : List Char :=
  cs.map fun x => if x = '-' then 'b' else x

/-- Up to four equal signs. -/
def readSigns? (cs : List Char) : Option Int :=
  if 4 < cs.length then none
  else if cs.all (· = '#') then some cs.length
  else if cs.all (· = '-') then some (-(cs.length : Int))
  else none

def alterWords : List (String × Int) :=
  [("natural", 0), ("n", 0), ("sharp", 1), ("is", 1), ("double-sharp", 2), ("isis", 2),
   ("triple-sharp", 3), ("isisis", 3), ("quadruple-sharp", 4), ("isisisis", 4), ("flat", -1),
   ("es", -1), ("b", -1), ("double-flat", -2), ("eses", -2), ("triple-flat", -3),
   ("eseses", -3), ("quadruple-flat", -4), ("eseseses", -4)]

/-- Signs and words for quarter tones, each with the alteration a quarter tone below. -/
def quarterWords : List (String × Int) :=
  [("~", 0), ("half-sharp", 0), ("quarter-sharp", 0), ("ih", 0), ("semisharp", 0),
   ("#~", 1), ("one-and-a-half-sharp", 1), ("three-quarter-sharp", 1),
   ("three-quarters-sharp", 1), ("isih", 1), ("sesquisharp", 1),
   ("\x60", -1), ("half-flat", -1), ("quarter-flat", -1), ("eh", -1), ("semiflat", -1),
   ("-\x60", -2), ("one-and-a-half-flat", -2), ("three-quarter-flat", -2),
   ("three-quarters-flat", -2), ("eseh", -2), ("sesquiflat", -2)]

def readAlter? (cs : List Char) : Option (Int × Bool) :=
  match (readSigns? cs).orElse fun _ => alterWords.lookup (String.ofList cs) with
  | some alter => some (alter, false)
  | none => (quarterWords.lookup (String.ofList cs)).map fun alter => (alter, true)

def octaveLimit : Nat := 4300

/-- The digits after the letter make up the octave wherever they stand; what is left, in
lower case, is the alteration. -/
def readChars (cs : List Char) : Except Error Note :=
  match Text.strip (dashed cs) with
  | [] => throw .emptyName
  | c :: rest =>
    let digits := rest.filter Text.isDigit
    let signs := Text.lowerText (rest.filter fun c => !Text.isDigit c)
    if Text.isDigit c then throw .octaveFirst
    else
      match Letter.ofChar? c.toUpper, readAlter? signs with
      | none, _ => throw (.unknownStep (String.ofList (Text.upper c)))
      | some _, none => throw (.unknownAccidental (String.ofList signs))
      | some letter, some (alter, quarter) =>
        if octaveLimit < digits.length then throw .octaveTooLong
        else
          let octave : Option Int := if digits.isEmpty then none else some (Text.digitsValue digits)
          pure { letter, alter, octave, quarter }

def read (name : String) : Except Error Note := readChars name.toList

def plain : List (Letter × Int) :=
  [(.c, 0), (.c, 1), (.d, 0), (.e, -1), (.e, 0), (.f, 0), (.f, 1), (.g, 0), (.g, 1), (.a, 0),
   (.b, -1), (.b, 0)]

def ofHeight (height : Int) : Note :=
  let p := plain.getD (height % 12).toNat (.c, 0)
  { letter := p.1, alter := p.2, octave := some (height / 12 - 1) }

theorem semitone_plain : ∀ k < 12,
    (plain.getD k (.c, 0)).1.semitone + (plain.getD k (.c, 0)).2 = (k : Int) := by decide

theorem exactHeight_ofHeight (h : Int) : (ofHeight h).exactHeight = h := by
  have nonneg := Int.emod_nonneg h (b := 12) (by decide)
  have lt := Int.emod_lt_of_pos h (b := 12) (by decide)
  have split := Int.mul_ediv_add_emod h 12
  have spelled := semitone_plain (h % 12).toNat (by omega)
  simp only [ofHeight, exactHeight, Option.getD_some]
  omega

theorem isSplit_of_quarter {n : Note} (h : n.quarter = false) : n.isSplit = false := by
  simp [isSplit, h]

theorem pitchClass_of_quarter {n : Note} (h : n.quarter = false) :
    n.pitchClass = n.height % 12 := by
  simp [pitchClass, isSplit_of_quarter h]

theorem height_of_isNear {n : Note} (h : n.isNear = true) : n.height = n.exactHeight := if_pos h

theorem check_of_isNear {n : Note} (h : n.isNear = true) : n.check = .ok n := by
  simp [check, h, pure, Except.pure]

theorem isNear_of_octave_none (l : Letter) (a : Int) (q : Bool) :
    (Note.mk l a none q).isNear = true := by
  simp [isNear]

theorem halfUp_of_lt {h : Int} (small : h < 0x10000000000000) : halfUp h = h := if_neg (by omega)

theorem semitone_of_quarter {n : Note} (q : n.quarter = false) (h : n.height < 0x10000000000000) :
    n.semitone = n.height := by
  simp [semitone, isSplit_of_quarter q, halfUp_of_lt h]

theorem midi_eq_height {n : Note} (q : n.quarter = false) (h : n.height ≤ highest) :
    n.midi = n.height := by
  have below : n.height ≤ 127 := h
  rw [midi, semitone_of_quarter q (by omega), if_pos h]

end Note

def readPitchClass (name : String) : Except Error Int := do
  pure (← (← Note.read name).check).pitchClass

def readMidi (name : String) : Except Error Int := do
  pure (← (← Note.read name).check).midi

/-- A name raised by some semitones: its sharps less its flats, wherever they stand, are
counted, and written after its first character with the change made. -/
def alterName (name : String) (semitones : Int) : Except Error String :=
  match name.toList with
  | [] => throw .emptySpelling
  | c :: r =>
    let cs := c :: r
    let alter := (cs.count '#' : Int) - cs.count 'b' + semitones
    (Word.check alter.natAbs).map fun _ => String.ofList (c :: signs alter)

end Tonality
