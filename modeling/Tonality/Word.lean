import Tonality.Error

/-!
Signed 64-bit words. Counts and notes that have to fit into one are checked
before they are used. A row that is made in one piece has to fit into memory as
well: its entries take up a word each, and its head another three.
-/

namespace Tonality.Word

def fits (n : Int) : Bool := -0x8000000000000000 ≤ n && n < 0x8000000000000000

def check (n : Int) : Except Error Int := if fits n then pure n else throw (.beyondWord n)

theorem fits_iff (n : Int) : fits n = true ↔ -0x8000000000000000 ≤ n ∧ n < 0x8000000000000000 := by
  simp [fits]

/-- The most entries of a row that is made in one piece, with which it takes up as many bytes as
a word can count. -/
def longestRow : Int := (0x7FFFFFFFFFFFFFFF - 24) / 8

def checkRow (n : Int) : Except Error Int := do
  let n ← check n
  if longestRow < n then throw (.rowTooLong n) else pure n

theorem check_of_fits {n : Int} (h : fits n = true) : check n = .ok n := if_pos h

theorem checkRow_of_le {n : Int} (low : 0 ≤ n) (high : n ≤ longestRow) : checkRow n = .ok n := by
  have hfits : fits n = true := by
    rw [fits_iff]
    unfold longestRow at high
    omega
  rw [checkRow, check_of_fits hfits]
  exact if_neg (Int.not_lt.mpr high)

end Tonality.Word
