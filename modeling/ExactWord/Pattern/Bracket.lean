import ExactWord.Pattern.Atom

namespace ExactWord.Pattern

def depthLimit : Nat := 250

/-- The depth of parts that stand together: one part counts by itself, several are one level deeper. -/
def joined : List Nat → Nat
  | [] => 0
  | [depth] => depth
  | depth :: others => others.foldl max depth + 1

/-- A caret, a dash or a closing bracket can stand for itself after the opening bracket, the last two after the caret,
and only a dash after such a dash. -/
inductive Place where
  | opened
  | negated
  | dashed
  | inside
deriving DecidableEq, Repr

inductive SetOperator where
  | intersection
  | difference
  | symmetricDifference
deriving DecidableEq, Repr

def SetOperator.onWhole : SetOperator → Bool → Bool → Bool
  | .intersection, left, right => left && right
  | .difference, left, right => left && !right
  | .symmetricDifference, left, right => left != right

structure Operand where
  depth : Nat
  whole : Bool
  operator : SetOperator
deriving DecidableEq, Repr

/-- What one open bracket holds so far: whether it is negated, what stands left of the last operator, the depths of the
parts after it, and whether these hold all characters. -/
structure Level where
  negated : Bool
  left : Option Operand
  parts : List Nat
  whole : Bool
deriving DecidableEq, Repr

namespace Level

def start : Level := ⟨false, none, [], false⟩

def depth (l : Level) : Nat :=
  match l.left with
  | none => joined l.parts
  | some left => max left.depth (joined l.parts) + 1

def isWhole (l : Level) : Bool :=
  match l.left with
  | none => l.whole
  | some left => left.operator.onWhole left.whole l.whole

def add (l : Level) (depth : Nat) (whole : Bool) : Level :=
  { l with parts := depth :: l.parts, whole := l.whole || whole }

def operate (l : Level) (operator : SetOperator) : Level :=
  { l with left := some ⟨l.depth, l.isWhole, operator⟩, parts := [], whole := false }

def close (l outer : Level) : Level := outer.add (l.depth + 1) (l.isWhole != l.negated)

end Level

/-- A class that is being read: the brackets that are open, whether there is a set in it whose letters would have to be
looked up to ignore their case, and the rest of the text. No look-up is needed for the set of all characters, the empty
set, and a range of all characters that is added to the set of all. -/
structure Bracket where
  level : Level
  outer : List Level
  mixed : Bool
  place : Place
  rest : List Char
deriving DecidableEq, Repr

structure Class where
  depth : Nat
  mixed : Bool
  rest : List Char
deriving DecidableEq, Repr

namespace Bracket

def start (text : List Char) : Bracket := ⟨.start, [], false, .opened, text⟩

def item (b : Bracket) (whole : Bool) (place : Place) (rest : List Char) : Bracket :=
  { b with
    level := b.level.add 0 whole, mixed := b.mixed || !(whole && b.level.whole), place := place, rest := rest }

def negate (b : Bracket) (rest : List Char) : Bracket :=
  { b with level := { b.level with negated := true }, place := .negated, rest := rest }

def operator (b : Bracket) (operator : SetOperator) (rest : List Char) : Bracket :=
  { b with level := b.level.operate operator, place := .inside, rest := rest }

def enter (b : Bracket) (rest : List Char) : Bracket :=
  { b with level := .start, outer := b.level :: b.outer, place := .opened, rest := rest }

def leave (b : Bracket) (rest : List Char) : Bracket ⊕ Class :=
  match b.outer with
  | [] => .inr ⟨b.level.depth + 1, b.mixed, rest⟩
  | level :: outer => .inl { b with level := b.level.close level, outer := outer, place := .inside, rest := rest }

def classNames : List String :=
  ["alnum", "alpha", "ascii", "blank", "cntrl", "digit", "graph", "lower", "print", "punct", "space", "upper", "word",
    "xdigit"]

def named? : List Char → Option (Bool × List Char)
  | ':' :: text =>
    let negated := text.head? == some '^'
    let text := if negated then text.drop 1 else text
    let name := text.takeWhile (· != ':')
    match text.drop name.length with
    | ':' :: ']' :: rest => if classNames.contains (String.ofList name) then some (negated, rest) else none
    | _ => none
  | _ => none

/-- The character that a dash is judged by. Blanks before it are ignored in a spaced pattern, and so is one hash sign,
but not the comment behind it. -/
def afterDash? (m : Mode) (text : List Char) : Option Char :=
  if m.spaced then
    match text.dropWhile Text.blank with
    | '#' :: rest => (rest.dropWhile Text.blank).head?
    | other => other.head?
  else
    text.head?

def spansAll (low high : Char) : Bool := low.toNat == 0 && high.toNat == 0x10ffff

/-- Reads an atom or a range of characters in ascending order, and whether it holds all characters. A dash before the
closing bracket or before another dash makes no range. -/
def range? (m : Mode) (text : List Char) : Option (Bool × List Char) := do
  let (first, rest) ← Atom.read? m text
  if !first.standsInBrackets m then
    none
  else
    match m.skip rest with
    | [] => none
    | '-' :: after =>
      if afterDash? m after == some ']' || afterDash? m after == some '-' then
        some (false, '-' :: after)
      else
        match m.skip after with
        | [] => none
        | bound => do
          let (last, rest) ← Atom.read? m bound
          match first, last with
          | .literal low _, .literal high _ =>
            if last.standsInBrackets m && low ≤ high then some (spansAll low high, rest) else none
          | _, _ => none
    | other => some (false, other)

def inner? (m : Mode) (b : Bracket) : List Char → Option (Bracket ⊕ Class)
  | [] => none
  | '[' :: rest =>
    match named? rest with
    | some (negated, rest) => if negated && !m.unicode then none else some (.inl (b.item false .inside rest))
    | none => some (.inl (b.enter rest))
  | ']' :: rest => some (b.leave rest)
  | '&' :: '&' :: rest => some (.inl (b.operator .intersection rest))
  | '-' :: '-' :: rest => some (.inl (b.operator .difference rest))
  | '~' :: '~' :: rest => some (.inl (b.operator .symmetricDifference rest))
  | text => (range? m text).map fun (whole, rest) => .inl (b.item whole .inside rest)

def step? (m : Mode) (b : Bracket) : Option (Bracket ⊕ Class) :=
  match b.place, m.skip b.rest with
  | .opened, '^' :: rest => if m.unicode then some (.inl (b.negate rest)) else none
  | .opened, ']' :: rest => some (.inl (b.item false .inside rest))
  | .negated, ']' :: rest => some (.inl (b.item false .inside rest))
  | .inside, text => b.inner? m text
  | _, '-' :: rest => some (.inl (b.item false .dashed rest))
  | _, text => b.inner? m text

def close? (m : Mode) : Nat → Bracket → Option Class
  | 0, _ => none
  | fuel + 1, b =>
    match b.step? m with
    | none => none
    | some (.inl next) => close? m fuel next
    | some (.inr done) => some done

def read? (m : Mode) (text : List Char) : Option Class := close? m text.length (.start text)

end Bracket

end ExactWord.Pattern
