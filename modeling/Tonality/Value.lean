import Tonality.Number
import Tonality.Text.Quoted

/-!
Values of no fixed type, as they arrive where a caller may pass anything, and
the text that reports show for them. No report can show a value that holds an
integer too long to be written out.
-/

namespace Tonality

inductive Value
  | null
  | bool (b : Bool)
  | num (n : Number)
  | str (s : String)
  | list (vs : List Value)
  | dict (entries : List (String × Value))

namespace Value

mutual

/-- The printed form: strings are quoted, lists and dictionaries are bracketed. -/
def text : Value → String
  | null => "None"
  | bool true => "True"
  | bool false => "False"
  | num n => n.text
  | str s => Text.quoted s
  | list vs => "[" ++ ", ".intercalate (texts vs) ++ "]"
  | dict es => "\x7b" ++ ", ".intercalate (entryTexts es) ++ "\x7d"

def texts : List Value → List String
  | [] => []
  | v :: vs => v.text :: texts vs

def entryTexts : List (String × Value) → List String
  | [] => []
  | (k, v) :: es => (Text.quoted k ++ ": " ++ v.text) :: entryTexts es

end

/-- The form shown inside other quotation marks: a string appears as it is. -/
def shown : Value → String
  | str s => s
  | v => v.text

mutual

def isWritable : Value → Bool
  | num (.int n) => Text.isWritable n
  | list vs => areWritable vs
  | dict es => entriesWritable es
  | _ => true

def areWritable : List Value → Bool
  | [] => true
  | v :: vs => v.isWritable && areWritable vs

def entriesWritable : List (String × Value) → Bool
  | [] => true
  | (_, v) :: es => v.isWritable && entriesWritable es

end

/-- A fault whose report shows the value, and another one where that cannot be done. The value may
be nested to any depth: how deep it can be followed before the stack is used up depends on the
caller and on a setting of the interpreter, and is left out. -/
def refuse {α : Type} (v : Value) (fault : Error) : Except Error α :=
  throw (if v.isWritable then fault else .integerTooLong)

/-- A number, where a truth value counts as zero or one. -/
def number? : Value → Option Number
  | num n => some n
  | bool b => some (.int (if b then 1 else 0))
  | _ => none

end Value
end Tonality
