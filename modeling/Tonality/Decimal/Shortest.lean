import Tonality.Binary64

/-!
The shortest decimal that reads back as a given double, and its layout. Among
the decimals with as few digits as possible that lie in the interval rounding
to the double, the one nearest to its exact value is taken. A layout says which
magnitudes are written positionally and how exponents look.
-/

namespace Tonality.Decimal

structure Scientific where
  digits : Nat
  exponent : Int
  deriving DecidableEq, Repr

def powTen (k : Int) : Rat :=
  if 0 ≤ k then (Nat.pow 10 k.toNat : Rat) else mkRat 1 (Nat.pow 10 (-k).toNat)

def magnitude (v : Rat) : Int :=
  if 1 ≤ v then ((Nat.toDigits 10 v.floor.toNat).length : Int) - 1
  else -((Nat.toDigits 10 ((1 / v).ceil.toNat - 1)).length : Int)

/-- The reals that round to a double, ends included when its mantissa is even. -/
structure Basin where
  low : Rat
  high : Rat
  closed : Bool

def Basin.mem (b : Basin) (x : Rat) : Bool :=
  if b.closed then b.low ≤ x && x ≤ b.high else b.low < x && x < b.high

/-- Below a power of two the neighbours lie twice as close. -/
def Basin.around (m : Nat) (e : Int) : Basin where
  low := Binary64.scaled (4 * m - if m = 0x10000000000000 ∧ e ≠ -1074 then 1 else 2) (e - 2)
  high := Binary64.scaled (4 * m + 2) (e - 2)
  closed := m % 2 == 0

/-- The two neighbours of `v` on the grid `10 ^ k`, tried for membership; the
nearer one wins, and an even digit wins a tie. -/
def onGrid (b : Basin) (v : Rat) (k : Int) : Option Scientific :=
  let unit := powTen k
  let d := (v / unit).floor.toNat
  let below := (d : Rat) * unit
  let above := ((d + 1 : Nat) : Rat) * unit
  match b.mem below, b.mem above with
  | false, false => none
  | true, false => some ⟨d, k⟩
  | false, true => some ⟨d + 1, k⟩
  | true, true =>
    if v - below < above - v then some ⟨d, k⟩
    else if above - v < v - below then some ⟨d + 1, k⟩
    else some ⟨if d % 2 = 0 then d else d + 1, k⟩

/-- The shortest decimal of `m * 2 ^ e`; seventeen digits always suffice. -/
def shortest (m : Nat) (e : Int) : Scientific :=
  let v := Binary64.scaled m e
  let top := magnitude v
  let basin := Basin.around m e
  ((List.range 17).findSome? fun (n : Nat) => onGrid basin v (top - n)).getD
    ⟨(v / powTen (top - 16)).floor.toNat, top - 16⟩

structure Layout where
  /-- least exponent of the leading digit that is written positionally -/
  least : Int
  /-- first exponent that no longer is -/
  bound : Int
  exponentWidth : Nat
  nan : String
  infinity : String

/-- Positional from `0.0001` up to below `10 ^ 16`, and an exponent of at least two
digits with its sign elsewhere. -/
def standard : Layout := ⟨-4, 16, 2, "nan", "inf"⟩

def pad (width : Nat) (s : String) : String :=
  String.ofList (List.replicate (width - s.length) '0') ++ s

def trimZeros (s : List Char) : List Char :=
  match (s.reverse.dropWhile (· == '0')).reverse with
  | [] => ['0']
  | t => t

def Layout.positional (digits : List Char) (point : Int) : String :=
  if point ≤ 0 then "0." ++ String.ofList (List.replicate (-point).toNat '0' ++ digits)
  else if digits.length ≤ point.toNat then
    String.ofList (digits ++ List.replicate (point.toNat - digits.length) '0') ++ ".0"
  else String.ofList (digits.take point.toNat) ++ "." ++ String.ofList (digits.drop point.toNat)

def Layout.exponential (l : Layout) (digits : List Char) (exponent : Int) : String :=
  let tail := if digits.length ≤ 1 then "" else "." ++ String.ofList (digits.drop 1)
  String.ofList (digits.take 1) ++ tail ++ "e" ++ (if exponent < 0 then "-" else "+") ++
    pad l.exponentWidth (toString exponent.natAbs)

def Layout.magnitudeText (l : Layout) (m : Nat) (e : Int) : String :=
  if m = 0 then "0.0"
  else
    let s := shortest m e
    let written := Nat.toDigits 10 s.digits
    let exponent := (written.length : Int) + s.exponent - 1
    let digits := trimZeros written
    if l.least ≤ exponent ∧ exponent < l.bound then Layout.positional digits (exponent + 1)
    else l.exponential digits exponent

def Layout.text (l : Layout) (x : Float) : String :=
  match Binary64.ofFloat x with
  | .nan => l.nan
  | .infinite negative => (if negative then "-" else "") ++ l.infinity
  | .finite negative m e => (if negative then "-" else "") ++ l.magnitudeText m e

def text (x : Float) : String := standard.text x

end Tonality.Decimal
