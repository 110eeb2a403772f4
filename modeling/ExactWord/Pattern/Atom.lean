import ExactWord.Text.Class

namespace ExactWord.Pattern

structure Mode where
  ignoreCase : Bool
  unicode : Bool
  spaced : Bool
deriving DecidableEq, Repr

namespace Mode

def standard : Mode := ⟨false, true, false⟩

def dropSpace (inComment : Bool) : List Char → List Char
  | [] => []
  | c :: rest =>
    if inComment then dropSpace (c != '\n') rest
    else if Text.blank c then dropSpace false rest
    else if c == '#' then dropSpace true rest
    else c :: rest

def skip (m : Mode) (text : List Char) : List Char := if m.spaced then dropSpace false text else text

/-- Whether letters of every script would match in either case, which is supported for bytes only. -/
def foldsLetters (m : Mode) : Bool := m.ignoreCase && m.unicode

end Mode

inductive Atom where
  | literal (c : Char) (byte : Bool)
  | shorthand (negated : Bool)
  | anchor
  | wordEdge
deriving DecidableEq, Repr

namespace Atom

/-- Whether an atom is allowed by itself. Classes and word edges exist for bytes only, and no byte pattern matches half
a character. -/
def standsAlone (m : Mode) : Atom → Bool
  | .literal c byte => if m.unicode then !m.ignoreCase else !byte || c.toNat < 0x80
  | .shorthand negated => !m.unicode && !negated
  | .anchor => true
  | .wordEdge => !m.unicode

def standsInBrackets (m : Mode) : Atom → Bool
  | .literal c _ => m.unicode || c.toNat < 0x80
  | .shorthand negated => !m.unicode && !negated
  | .anchor => false
  | .wordEdge => false

def hexDigit? (c : Char) : Option Nat :=
  if c.isDigit then some (c.toNat - '0'.toNat)
  else if 'a' ≤ c && c ≤ 'f' then some (c.toNat - 'a'.toNat + 10)
  else if 'A' ≤ c && c ≤ 'F' then some (c.toNat - 'A'.toNat + 10)
  else none

def hexNumeral? (m : Mode) : Nat → Nat → List Char → Option (Nat × List Char)
  | 0, value, text => some (value, text)
  | digits + 1, value, text =>
    match m.skip text with
    | [] => none
    | c :: rest => do
      let digit ← hexDigit? c
      hexNumeral? m digits (16 * value + digit) rest

def hexLength? : Char → Option Nat
  | 'x' => some 2
  | 'u' => some 4
  | 'U' => some 8
  | _ => none

def control? : Char → Option Char
  | 'a' => some '\x07'
  | 'f' => some '\x0c'
  | 't' => some '\t'
  | 'n' => some '\n'
  | 'r' => some '\r'
  | 'v' => some '\x0b'
  | _ => none

def escapable (c : Char) : Bool := c.toNat < 0x80 && !c.isAlphanum && c != '<' && c != '>'

def ofLetter? (c : Char) : Option Atom :=
  if escapable c then some (.literal c false)
  else if c == 'A' || c == 'z' then some .anchor
  else if c == 'b' || c == 'B' || c == '<' || c == '>' then some .wordEdge
  else if c == 'd' || c == 's' || c == 'w' then some (.shorthand false)
  else if c == 'D' || c == 'S' || c == 'W' then some (.shorthand true)
  else (control? c).map fun control => .literal control false

def escaped? (m : Mode) : List Char → Option (Atom × List Char)
  | [] => none
  | c :: rest =>
    match hexLength? c with
    | some digits => do
      let (value, rest) ← hexNumeral? m digits 0 rest
      if value.isValidChar then some (.literal (Char.ofNat value) (c == 'x'), rest) else none
    | none => (ofLetter? c).map fun atom => (atom, rest)

def read? (m : Mode) : List Char → Option (Atom × List Char)
  | [] => none
  | '\\' :: rest => escaped? m rest
  | c :: rest => some (.literal c false, rest)

end Atom

end ExactWord.Pattern
