import ExactWord.Routine
import ExactWord.Text

namespace ExactWord

def isIdentifierStart (c : Char) : Bool := c.isAlpha || c == '_'

def isIdentifierRest (c : Char) : Bool := c.isAlphanum || c == '_'

def isIdentifier : List Char → Bool
  | [] => false
  | c :: rest => isIdentifierStart c && rest.all isIdentifierRest

structure IncludeGuard where
  name : String
  valid : isIdentifier name.toList
deriving DecidableEq

structure GuardError where
  name : String
deriving DecidableEq, Repr

def GuardError.message (e : GuardError) : String :=
  "invalid include guard `" ++ e.name ++ "`: expected a C identifier"

namespace IncludeGuard

def ofName (name : String) : Except GuardError IncludeGuard :=
  if valid : isIdentifier name.toList then .ok ⟨name, valid⟩ else .error ⟨name⟩

def standardName : String := "CKD_CHECKED_H"

def standard : IncludeGuard := ⟨standardName, by decide⟩

end IncludeGuard

def Routine.prototype (r : Routine) : Prototype :=
  ⟨r.symbol, ⟨.bool, [.word r.type, .word r.type, .pointer (.word r.type)]⟩, ["x", "y", "result"]⟩

def OperandType.conversionPrototype (t : OperandType) : Prototype :=
  ⟨"ckd_utos_" ++ t.symbolName, ⟨.word t, [.word t.unsignedType]⟩, ["v"]⟩

def legacyPrototype (symbol : String) : Prototype :=
  ⟨symbol, ⟨.word .i32, [.word .i32, .word .i32, .pointer .bool]⟩, ["x", "y", "overflow"]⟩

def legacyPrototypes : List Prototype :=
  [legacyPrototype "ckd_legacy_add_i32", legacyPrototype "ckd_legacy_sub_i32"]

structure Interface where
  guard : IncludeGuard
  helpers : Bool
deriving DecidableEq

namespace Interface

def standard : Interface := ⟨.standard, true⟩

def ofName (guard : String) (helpers : Bool) : Except GuardError Interface := do
  return ⟨← IncludeGuard.ofName guard, helpers⟩

def operationLines (operation : Operation) : List String :=
  "" :: OperandType.all.map fun t => (Routine.mk operation t).prototype.text

def helperPrototypes : List Prototype :=
  (OperandType.all.filter OperandType.signed).map OperandType.conversionPrototype ++ legacyPrototypes

def helperLines : List String := "" :: helperPrototypes.map Prototype.text

def comment : String := "/* Generated by ckd-header. Do not edit. */"

def includes : List String := ["", "#include <stdbool.h>", "#include <stdint.h>", ""]

def linkageStart : String := "extern \"C\" \x7b"

def linkageEnd : String := "\x7d"

def forCPlusPlus (line : String) : List String := ["#ifdef __cplusplus", line, "#endif"]

def body (i : Interface) : List String :=
  Operation.all.flatMap operationLines ++ if i.helpers then helperLines else []

def top : List String := includes ++ forCPlusPlus linkageStart

def bottom : List String := [""] ++ forCPlusPlus linkageEnd ++ [""]

def guarded (i : Interface) : List String := top ++ i.body ++ bottom

def opening (i : Interface) : List String := [comment, "#ifndef " ++ i.guard.name, "#define " ++ i.guard.name]

def closing (i : Interface) : List String := ["#endif /* " ++ i.guard.name ++ " */"]

def lines (i : Interface) : List String := i.opening ++ i.guarded ++ i.closing

def text (i : Interface) : String := Text.unlines i.lines

end Interface

inductive InclusionLine where
  | ifDefined (name : String)
  | ifNotDefined (name : String)
  | define (name : String)
  | endIf
  | other
deriving DecidableEq, Repr

namespace InclusionLine

def after? (start line : String) : Option String :=
  if start.toList.isPrefixOf line.toList then some (String.ofList (line.toList.drop start.length)) else none

def ofLine (line : String) : InclusionLine :=
  if let some name := after? "#ifdef " line then .ifDefined name
  else if let some name := after? "#ifndef " line then .ifNotDefined name
  else if let some name := after? "#define " line then .define name
  else if (after? "#endif" line).isSome then .endIf
  else .other

end InclusionLine

structure Inclusion where
  defined : List String
  conditions : List Bool
  kept : List String
deriving DecidableEq, Repr

namespace Inclusion

def isActive (s : Inclusion) : Bool := s.conditions.all id

/-- Reads one line; fails at an end that closes nothing. -/
def line? (s : Inclusion) (line : String) : Option Inclusion :=
  match InclusionLine.ofLine line with
  | .ifDefined name => some { s with conditions := s.defined.contains name :: s.conditions }
  | .ifNotDefined name => some { s with conditions := (!s.defined.contains name) :: s.conditions }
  | .define name => some (if s.isActive then { s with defined := name :: s.defined } else s)
  | .endIf =>
    match s.conditions with
    | [] => none
    | _ :: outer => some { s with conditions := outer }
  | .other => some (if s.isActive then { s with kept := s.kept ++ [line] } else s)

def include? (defined : List String) (lines : List String) : Option Inclusion :=
  lines.foldlM line? ⟨defined, [], []⟩

end Inclusion

end ExactWord
