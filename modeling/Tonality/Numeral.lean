import Tonality.Numeral.Base

/-!
Roman numeral texts such as `V65/IV` or `I/5`. After the base comes one bass
notation: a figure, a slash with an interval, or nothing, which is root
position. A slash with a plain numeral after it is a secondary relation and
may follow a figure.
-/

namespace Tonality

/-- The figures, longer ones first, with the step of the bass above the root. -/
def figures : List (String × String) :=
  [("64", "5"), ("65", "3"), ("43", "5"), ("42", "7"), ("6", "3"), ("2", "7")]

def seventhFigures : List String := ["65", "43", "42", "2"]

def rootPosition : String := "1"

/-- A numeral taken apart: the base as written and as read, the interval of the bass
above the root, the figure that stood for it, and the target of a secondary relation. -/
structure Numeral where
  written : String
  base : Base
  bass : String := rootPosition
  figure : Option String := none
  secondary : Option String := none
  deriving DecidableEq, Repr

namespace Numeral

def asksSeventh (n : Numeral) : Bool :=
  n.base.seventh || n.figure.any seventhFigures.contains

def inRootPosition (n : Numeral) : Bool := n.bass == rootPosition

def ofParts (base bass : String) (figure secondary : Option String) : Except Error Numeral :=
  match Base.readChars? base.toList with
  | some b => pure ⟨base, b, bass, figure, secondary⟩
  | none => throw (.invalidBase base)

/-- The text before a figure at its end, when that is a base. -/
def splitAt? (cs : List Char) (figure : String × String) : Option Numeral :=
  let f := figure.1.toList
  if f.isSuffixOf cs then
    let head := cs.take (cs.length - f.length)
    (Base.readChars? head).map fun b =>
      ⟨String.ofList head, b, figure.2, some figure.1, none⟩
  else none

def readFigured? (cs : List Char) : Option Numeral :=
  (figures.findSome? (splitAt? cs)).orElse fun _ =>
    (Base.readChars? cs).map fun b => { written := String.ofList cs, base := b }

def splitSlash? (cs : List Char) : Option (List Char × List Char) :=
  match cs.dropWhile (· ≠ '/') with
  | [] => none
  | _ :: tail => some (cs.takeWhile (· ≠ '/'), tail)

def readSlashed? (head tail : List Char) : Option Numeral :=
  if (Target.readChars? tail).isSome then
    (readFigured? head).map fun n => { n with secondary := some (String.ofList tail) }
  else
    (Base.readChars? head).map fun b =>
      { written := String.ofList head, base := b, bass := String.ofList tail }

def readStripped (cs : List Char) : Except Error Numeral :=
  if cs.isEmpty then throw .emptyNumeral
  else
    let result : Except Error (Option Numeral) :=
      match splitSlash? cs with
      | none => pure (readFigured? cs)
      | some (head, tail) =>
        let head := Text.strip head
        let tail := Text.strip tail
        if head.isEmpty || tail.isEmpty then throw (.oneSidedSlash (String.ofList cs))
        else pure (readSlashed? head tail)
    match result with
    | .error e => throw e
    | .ok none => throw (.unreadableNumeral (String.ofList cs))
    | .ok (some n) => pure n

def read (text : Option String) : Except Error Numeral :=
  readStripped (Text.strip (text.getD "").toList)

end Numeral
end Tonality
