import ExactWord.Pattern.Bracket

namespace ExactWord.Pattern

namespace Mode

def flagLetters : List Char := ['i', 'm', 's', 'U', 'u', 'R', 'x', '-']

/-- Flags are known letters without repetition; a minus sign turns off at least one of them. -/
def flagsReadable (flags : List Char) : Bool :=
  flags.all flagLetters.contains && flags.eraseDups.length == flags.length && flags.getLast? != some '-'

def setting (flags : List Char) (letter : Char) (before : Bool) : Bool :=
  if (flags.takeWhile (· != '-')).contains letter then true
  else if (flags.dropWhile (· != '-')).contains letter then false
  else before

def withFlags (m : Mode) (flags : List Char) : Mode :=
  ⟨setting flags 'i' m.ignoreCase, setting flags 'u' m.unicode, setting flags 'x' m.spaced⟩

end Mode

structure Part where
  depth : Nat
  repeatable : Bool
deriving DecidableEq, Repr

/-- The branches of a group: the depths of those that are complete, and the parts of the last one from right to left. -/
structure Branches where
  complete : List Nat
  parts : List Part
deriving DecidableEq, Repr

namespace Branches

def start : Branches := ⟨[], []⟩

def add (b : Branches) (part : Part) : Branches := { b with parts := part :: b.parts }

def next (b : Branches) : Branches := ⟨joined (b.parts.map Part.depth) :: b.complete, []⟩

def depth (b : Branches) : Nat := joined b.next.complete

def repeatLast? (b : Branches) : Option Branches :=
  match b.parts with
  | ⟨depth, true⟩ :: parts => some { b with parts := ⟨depth + 1, true⟩ :: parts }
  | _ => none

end Branches

structure Group where
  mode : Mode
  branches : Branches
deriving DecidableEq, Repr

/-- A pattern that is being read: the settings and branches of the innermost open group, the groups around it, the
names of groups so far, and the rest of the text. -/
structure Scan where
  mode : Mode
  branches : Branches
  outer : List Group
  names : List (List Char)
  rest : List Char
deriving DecidableEq, Repr

namespace Scan

def start (text : List Char) : Scan := ⟨.standard, .start, [], [], text⟩

def item (s : Scan) (depth : Nat) (rest : List Char) : Scan :=
  { s with branches := s.branches.add ⟨depth, true⟩, rest := rest }

def enter (s : Scan) (mode : Mode) (rest : List Char) : Scan :=
  { s with mode := mode, branches := .start, outer := ⟨s.mode, s.branches⟩ :: s.outer, rest := rest }

def leave? (s : Scan) (rest : List Char) : Option Scan :=
  match s.outer with
  | [] => none
  | ⟨mode, branches⟩ :: outer =>
    some ({ s with mode := mode, branches := branches, outer := outer }.item (s.branches.depth + 1) rest)

def startsName (c : Char) : Bool := c == '_' || Text.alphabetic c

def continuesName (c : Char) : Bool := c == '_' || c == '.' || c == '[' || c == ']' || Text.alphanumeric c

def isName : List Char → Bool
  | [] => false
  | c :: rest => startsName c && rest.all continuesName

def enterNamed? (s : Scan) (text : List Char) : Option Scan :=
  let name := text.takeWhile (· != '>')
  match text.drop name.length with
  | [] => none
  | _ :: rest =>
    if isName name && !s.names.contains name then
      some ({ s with names := name :: s.names }.enter s.mode rest)
    else
      none

/-- Reads flags, which hold for a group of their own or from here to the end of the group around them. -/
def flags? (s : Scan) (text : List Char) : Option Scan :=
  let flags := text.takeWhile fun c => c != ':' && c != ')'
  if !Mode.flagsReadable flags then
    none
  else
    match text.drop flags.length with
    | ':' :: rest => some (s.enter (s.mode.withFlags flags) rest)
    | ')' :: rest =>
      if flags.isEmpty then none
      else some { s with mode := s.mode.withFlags flags, branches := s.branches.add ⟨0, false⟩, rest := rest }
    | _ => none

def group? (s : Scan) (text : List Char) : Option Scan :=
  match s.mode.skip text with
  | '?' :: 'P' :: '<' :: rest => s.enterNamed? rest
  | '?' :: '<' :: rest => s.enterNamed? rest
  | '?' :: rest => s.flags? rest
  | rest => some (s.enter s.mode rest)

def repeat? (s : Scan) (text : List Char) : Option Scan := do
  let branches ← s.branches.repeatLast?
  match text with
  | '?' :: rest => some { s with branches := branches, rest := rest }
  | rest => some { s with branches := branches, rest := rest }

def atom? (s : Scan) (atom : Atom) (rest : List Char) : Option Scan :=
  if atom.standsAlone s.mode then some (s.item 0 rest) else none

def class? (s : Scan) (text : List Char) : Option Scan := do
  let read ← Bracket.read? s.mode text
  if s.mode.foldsLetters && read.mixed then none else some (s.item read.depth read.rest)

def step? (s : Scan) (c : Char) (rest : List Char) : Option Scan :=
  if c == '(' then s.group? rest
  else if c == ')' then s.leave? rest
  else if c == '|' then some { s with branches := s.branches.next, rest := rest }
  else if c == '[' then s.class? rest
  else if c == '*' || c == '+' || c == '?' then s.repeat? rest
  else if c == '\x7b' then none
  else if c == '.' then (if s.mode.unicode then some (s.item 0 rest) else none)
  else if c == '^' || c == '$' then s.atom? .anchor rest
  else if c == '\\' then do
    let (atom, rest) ← Atom.escaped? s.mode rest
    s.atom? atom rest
  else s.atom? (.literal c false) rest

def completes : Nat → Scan → Bool
  | 0, _ => false
  | fuel + 1, s =>
    match s.mode.skip s.rest with
    | [] => s.outer.isEmpty && s.branches.depth ≤ depthLimit
    | c :: rest =>
      match s.step? c rest with
      | none => false
      | some next => completes fuel next

end Scan

def wellFormed (text : List Char) : Bool := Scan.completes (text.length + 1) (.start text)

end ExactWord.Pattern
