import Tonality.Key

/-!
Key names such as `C`, `f#  min`, `Bbm` or `G Major`. A name is a tonic letter
with an optional sign directly after it and a word for the mode, with blanks
around and between them; a lone upper-case `M` means major, and otherwise case
does not matter. The tonic has to head a major or a minor key of at most seven
sharps or flats.
-/

namespace Tonality.Key

/-- Sharps (or flats, counted negatively) in the signature of the major key. -/
def signature (n : Note) : Int := n.letter.fifths + 7 * n.alter

/-- A minor key has three sharps fewer than the major key on its tonic. -/
def hasSignature (n : Note) : Bool :=
  (signature n).natAbs ≤ 7 || (signature n - 3).natAbs ≤ 7

/-- No signature has quarter tones. -/
def tonicHasSignature (tonic : String) : Except Error Bool := do
  let n ← Note.read tonic
  if n.quarter then throw .quarterToneKey else pure (hasSignature n)

structure Name where
  root : Root
  word : List Char
  deriving DecidableEq, Repr

def takeSign : List Char → Int × List Char
  | '#' :: r => (1, r)
  | 'b' :: r => (-1, r)
  | r => (0, r)

def readName? (cs : List Char) : Option Name :=
  match Text.strip cs with
  | [] => none
  | c :: rest => do
    let letter ← Letter.ofChar? c.toUpper
    let (alter, rest) := takeSign rest
    let word := Text.dropBlanks rest
    if word.all Text.isLetter then pure ⟨⟨letter, alter⟩, word⟩ else none

def modeWords : List (String × Mode) :=
  [("", .major), ("major", .major), ("maj", .major),
   ("minor", .minor), ("min", .minor), ("m", .minor)]

def modeOfWord? (word : List Char) : Option Mode :=
  if word = ['M'] then some .major
  else modeWords.lookup (String.ofList (word.map Char.toLower))

/-- Reads a key name, `none` being no name at all. -/
def read (name : Option String) : Except Error Key :=
  match readName? (name.getD "").toList with
  | none => throw (.unreadableKey (Text.shown name))
  | some n =>
    match modeOfWord? n.word with
    | none => throw (.unknownMode (String.ofList n.word) (Text.shown name))
    | some mode =>
      if hasSignature n.root.note then ofTonic n.root.name mode
      else throw (.unusableTonic n.root.name (Text.shown name))

end Tonality.Key
