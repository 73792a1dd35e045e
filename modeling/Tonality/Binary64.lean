/-!
Binary floating point read as exact numbers. A double is not a number, an
infinity, or `mantissa * 2 ^ exponent`; the finite ones have an exact rational
value, in which they are compared, truncated and rounded down without error.
-/

namespace Tonality

inductive Binary64
  | nan
  | infinite (negative : Bool)
  | finite (negative : Bool) (mantissa : Nat) (exponent : Int)
  deriving DecidableEq, Repr

namespace Binary64

def ofBits (bits : Nat) : Binary64 :=
  let negative := bits / 0x8000000000000000 % 2 == 1
  let scale : Nat := bits / 0x10000000000000 % 0x800
  let fraction : Nat := bits % 0x10000000000000
  if scale = 2047 then (if fraction = 0 then .infinite negative else .nan)
  else if scale = 0 then .finite negative fraction (-1074)
  else .finite negative (0x10000000000000 + fraction) ((scale : Int) - 1075)

def ofFloat (x : Float) : Binary64 := ofBits x.toBits.toNat

def scaled (m : Int) (e : Int) : Rat :=
  if 0 ≤ e then ((m * Int.pow 2 e.toNat : Int) : Rat) else mkRat m (Nat.pow 2 (-e).toNat)

def value? : Binary64 → Option Rat
  | .finite negative m e => some (scaled (if negative then -(m : Int) else m) e)
  | _ => none

/-- Whether `r < x`; nothing is below a value that is not a number. -/
def above (r : Rat) : Binary64 → Bool
  | .nan => false
  | .infinite negative => !negative
  | .finite negative m e => r < scaled (if negative then -(m : Int) else m) e

/-- The nearest integer, a half going to the even neighbour. -/
def roundHalfEven (r : Rat) : Int :=
  let q := r.floor
  if r - q < 1 / 2 then q else if 1 / 2 < r - q then q + 1 else q + q % 2

/-- The exponent that leaves 53 binary digits in front of the point. -/
def unitExponent (r : Rat) : Int :=
  let guess : Int := (r.num.natAbs.log2 : Int) - r.den.log2 - 52
  if r.abs < scaled 0x10000000000000 guess then guess - 1 else guess

def nearest (r : Rat) : Rat :=
  if r = 0 then 0
  else
    let unit := scaled 1 (unitExponent r)
    roundHalfEven (r / unit) * unit

/-- Numbers from `2 ^ 1024 - 2 ^ 970` on have no nearest finite double. -/
def bound : Nat := Nat.pow 2 1024 - Nat.pow 2 970

end Binary64

/-- The fraction `k / 2 ^ 32`, the number that a 32-bit draw stands for. -/
def unitFraction (k : UInt32) : Rat := mkRat k.toNat 0x100000000

end Tonality
