import Tonality.Draws

/-!
Choice in proportion to weights. The weights are divided by their total and
summed up from the left, every sum is divided by the last, and a draw selects
the first item whose sum lies above it. The total is taken in an order that
keeps rounding errors small: eight columns side by side, and halves of long
lists. The arithmetic is a parameter: weights
in use are numbers added up as doubles, and exact rationals obey the same text.
-/

namespace Tonality

/-- Numbers that can serve as weights. -/
class Weight (α : Type) where
  text : α → String
  /-- brings a weight into the form that is added up -/
  ready : α → Except Error α
  zero : α
  add : α → α → α
  quotient : α → α → α
  isNegative : α → Bool
  /-- not above zero -/
  isExhausted : α → Bool
  /-- the shares are numbers that add up to one -/
  isBalanced : List α → Bool
  /-- a draw of this fraction has reached the value -/
  isReached : Rat → α → Bool

namespace Weight
variable {α : Type} [Weight α]

def pairs : List α → List α
  | x :: y :: ws => add x y :: pairs ws
  | ws => ws

/-- Adds rows of eight to eight sums, and leaves what is less than a row. -/
def addRows (columns : List α) : List α → List α × List α
  | a :: b :: c :: d :: e :: f :: g :: h :: ws =>
    addRows (columns.zipWith add [a, b, c, d, e, f, g, h]) ws
  | ws => (columns, ws)

/-- The total of eight weights or more by columns; what is left over comes last. -/
def columnTotal (ws : List α) : α :=
  let (columns, rest) := addRows (ws.take 8) (ws.drop 8)
  rest.foldl add ((pairs (pairs (pairs columns))).headD zero)

/-- The first half of a long list, cut to whole rows. -/
def firstHalf (n : Nat) : Nat := n / 2 - n / 2 % 8

def totalWithin : Nat → List α → α
  | 0, ws => ws.foldl add zero
  | depth + 1, ws =>
    if ws.length < 8 then ws.foldl add zero
    else if ws.length ≤ 128 then columnTotal ws
    else
      add (totalWithin depth (ws.take (firstHalf ws.length)))
        (totalWithin depth (ws.drop (firstHalf ws.length)))

/-- A list is halved fewer times than it has weights. -/
def total (ws : List α) : α := totalWithin ws.length ws

def sums (acc : α) : List α → List α
  | [] => []
  | w :: ws => add acc w :: sums (add acc w) ws

def shares (ws : List α) : List α := ws.map fun w => quotient w (total ws)

/-- The upper ends of the items' parts of the unit interval. -/
def bounds (ps : List α) : List α :=
  let cs := sums zero ps
  cs.map fun c => quotient c (cs.getLast?.getD zero)

/-- How many parts a draw of a fraction has passed. -/
def position (cs : List α) (r : Rat) : Nat := cs.countP (isReached r)

def listText (ws : List α) : String := "[" ++ ", ".intercalate (ws.map text) ++ "]"

end Weight

namespace Gen
variable {α β : Type} [Weight β]
open Weight

def weighted (items : List α) (weights : List β) : Gen α := do
  match items.getLast? with
  | none => throw .noWeightedCandidates
  | some last =>
    if weights.length ≠ items.length then throw (.weightCount weights.length items.length)
    let ws ← lift (weights.mapM ready)
    if ws.any isNegative || isExhausted (total ws) then
      throw (.unusableWeights (listText weights))
    if !isBalanced (shares ws) then throw .unbalancedShares
    let k ← next
    pure (items.getD (position (bounds (shares ws)) (unitFraction k)) last)

end Gen

namespace Number

def double : Number → Float
  | int n => Float.ofInt n
  | real x => x

/-- How far the shares may be from one in all. -/
def balance : Float := 1.4901161193847656e-08

def isBalanced (ps : List Float) : Bool :=
  ps.all Float.isFinite && Float.abs (ps.foldl (· + ·) 0.0 - 1.0) ≤ balance

instance : Weight Number where
  text := Number.text
  ready w := real <$> w.toDouble
  zero := real 0.0
  add x y := real (x.double + y.double)
  quotient x y := real (x.double / y.double)
  isNegative x := x.double < 0.0
  isExhausted x := x.double ≤ 0.0
  isBalanced ps := isBalanced (ps.map double)
  isReached r x := !x.above r

end Number

instance : Weight Rat where
  text r := s!"{r.num}/{r.den}"
  ready := pure
  zero := 0
  add := (· + ·)
  quotient := (· / ·)
  isNegative r := r < 0
  isExhausted r := r ≤ 0
  isBalanced ps := ps.foldl (· + ·) 0 == 1
  isReached r x := x ≤ r

end Tonality
