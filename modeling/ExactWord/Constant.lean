import ExactWord.Routine
import ExactWord.Text

namespace ExactWord

structure Constant where
  type : OperandType
  word : Word type.layout
deriving DecidableEq

namespace Constant

def ofInt? (type : OperandType) (i : Int) : Option Constant := (Word.ofInt? i).map (Constant.mk type)

def wordAs? (type : OperandType) (c : Constant) : Option (Word type.layout) :=
  if same : c.type = type then some (same ▸ c.word) else none

end Constant

structure Mismatch where
  left : OperandType
  right : OperandType
deriving DecidableEq, Repr

namespace Mismatch

def message (m : Mismatch) : String :=
  "checked operation on different operand types: `" ++ m.left.name ++ "` and `" ++ m.right.name ++ "`"

def tagged (m : Mismatch) : String :=
  "OperandMismatch \x7b lhs: " ++ m.left.tag ++ ", rhs: " ++ m.right.tag ++ " \x7d"

end Mismatch

inductive FoldError where
  | mismatch (types : Mismatch)
  | trap (cause : Trap)
deriving DecidableEq, Repr

structure Folded where
  constant : Constant
  overflow : Bool
deriving DecidableEq

namespace Constant

def fold (build : Build) (operation : Operation) (a b : Constant) : Except FoldError Folded :=
  match b.wordAs? a.type with
  | none => .error (.mismatch ⟨a.type, b.type⟩)
  | some word =>
    match operation.apply build a.word word with
    | .ok result => .ok ⟨⟨a.type, result.value⟩, result.overflow⟩
    | .error cause => .error (.trap cause)

/-- A step on an accumulator; an absent operand is the accumulator. -/
structure Step where
  operation : Operation
  left : Option Constant
  right : Option Constant

def Step.run (build : Build) (accumulator : Constant) (s : Step) : Except FoldError Folded :=
  fold build s.operation (s.left.getD accumulator) (s.right.getD accumulator)

/-- The accumulator after a step: what the step folded to, or the old one if it folded to nothing. -/
def next (accumulator : Constant) : Except FoldError Folded → Constant
  | .ok folded => folded.constant
  | .error _ => accumulator

def runAll (build : Build) (accumulator : Constant) : List Step → List (Except FoldError Folded)
  | [] => []
  | s :: rest =>
    let result := s.run build accumulator
    result :: runAll build (next accumulator result) rest

def literal (c : Constant) : String := Decimal.text c.word.toInt ++ c.type.name

def tagged (c : Constant) : String := c.type.tag ++ "(" ++ Decimal.text c.word.toInt ++ ")"

def ofLiteral? (text : String) : Option Constant := do
  let inNumber (c : Char) : Bool := c.isDigit || c == '-'
  let value ← Decimal.ofChars? (text.toList.takeWhile inNumber)
  let type ← OperandType.ofName? (String.ofList (text.toList.dropWhile inNumber))
  ofInt? type value

def ofTagged? (text : String) : Option Constant := do
  let beforeOpening (c : Char) : Bool := c != '('
  let tag := String.ofList (text.toList.takeWhile beforeOpening)
  let type ← OperandType.all.find? (·.tag == tag)
  match text.toList.dropWhile beforeOpening with
  | '(' :: rest =>
    if rest.getLast? = some ')' then do
      let value ← Decimal.ofChars? rest.dropLast
      ofInt? type value
    else
      none
  | _ => none

end Constant

end ExactWord
