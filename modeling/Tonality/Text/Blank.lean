/-!
Blank characters, and text with the blanks at its two ends taken off. The
blanks are those of the Unicode property White_Space together with the four
information separators `U+001C` to `U+001F`; zero-width characters are not
blank.
-/

namespace Tonality.Text

def blankRanges : List (Nat × Nat) :=
  [(0x09, 0x0D), (0x1C, 0x20), (0x85, 0x85), (0xA0, 0xA0), (0x1680, 0x1680),
   (0x2000, 0x200A), (0x2028, 0x2029), (0x202F, 0x202F), (0x205F, 0x205F), (0x3000, 0x3000)]

def isBlank (c : Char) : Bool :=
  blankRanges.any fun r => r.1 ≤ c.toNat && c.toNat ≤ r.2

def dropBlanks (cs : List Char) : List Char := cs.dropWhile isBlank

def dropBlanksEnd (cs : List Char) : List Char := (dropBlanks cs.reverse).reverse

def strip (cs : List Char) : List Char := dropBlanksEnd (dropBlanks cs)

def isDigit (c : Char) : Bool := '0' ≤ c && c ≤ '9'

def isLetter (c : Char) : Bool := ('a' ≤ c && c ≤ 'z') || ('A' ≤ c && c ≤ 'Z')

def digitsValue (cs : List Char) : Nat :=
  cs.foldl (fun n c => 10 * n + (c.toNat - '0'.toNat)) 0

/-- What is shown where a text was wanted: the text itself, or `None` for no text at all. -/
def shown (text : Option String) : String := text.getD "None"

theorem isBlank_space : isBlank ' ' = true := by decide

theorem head_dropBlanks {cs : List Char} {c : Char} (h : (dropBlanks cs).head? = some c) :
    isBlank c = false := by
  have := List.head?_dropWhile_not isBlank cs
  unfold dropBlanks at h
  rw [h] at this
  simpa using this

end Tonality.Text
