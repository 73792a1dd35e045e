import Tonality.Text.Blank

/-!
Reading a decimal: an optional sign, digits with an optional point among them,
and an optional exponent; or one of the words `nan` and `inf` with an optional
sign. The result is the double nearest to the number written.
-/

namespace Tonality.Decimal
open Text

/-- A sign at the front, `true` for a minus. -/
def takeSign : List Char → Bool × List Char
  | '-' :: r => (true, r)
  | '+' :: r => (false, r)
  | r => (false, r)

def readExponent? : List Char → Option Int
  | [] => some 0
  | c :: r =>
    if c = 'e' ∨ c = 'E' then
      let (negative, ds) := takeSign r
      if ds.isEmpty || !ds.all isDigit then none
      else some (if negative then -(digitsValue ds : Int) else digitsValue ds)
    else none

def ofScaled (digits : Nat) (exponent : Int) : Float :=
  if exponent < 0 then Float.ofScientific digits true exponent.natAbs
  else Float.ofScientific digits false exponent.natAbs

def readMagnitude? (cs : List Char) : Option Float :=
  let whole := cs.takeWhile isDigit
  let rest := cs.dropWhile isDigit
  let (places, rest) := match rest with
    | '.' :: r => (r.takeWhile isDigit, r.dropWhile isDigit)
    | r => ([], r)
  if whole.isEmpty && places.isEmpty then none
  else (readExponent? rest).map fun e =>
    ofScaled (digitsValue (whole ++ places)) (e - places.length)

def read? (s : String) : Option Float :=
  let (negative, cs) := takeSign s.toList
  let magnitude :=
    if cs = ['n', 'a', 'n'] then some (0.0 / 0.0)
    else if cs = ['i', 'n', 'f'] then some (1.0 / 0.0)
    else readMagnitude? cs
  magnitude.map fun x => if negative then -x else x

end Tonality.Decimal
