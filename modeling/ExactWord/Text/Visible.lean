namespace ExactWord.Text

inductive ControlState where
  | ground
  | escape
  | escapeTail
  | control
  | device
  | deviceParameter
  | deviceTail
  | hiddenText
  | command
deriving DecidableEq, Repr

namespace ControlState

def shownControl (c : Char) : Bool := c == '\t' || c == '\n' || c == '\x0c' || c == '\r'

def isControl (c : Char) : Bool := c.toNat < 0x20

def plain (c : Char) : Bool := shownControl c || !isControl c && c != '\x7f'

def isIntermediate (c : Char) : Bool := 0x20 ≤ c.toNat && c.toNat ≤ 0x2f

def isParameter (c : Char) : Bool := 0x30 ≤ c.toNat && c.toNat ≤ 0x3f

def isFinal (c : Char) : Bool := 0x40 ≤ c.toNat && c.toNat ≤ 0x7e

/-- Hidden text ends at the byte 0x9c, also when it is a part of a longer character. -/
def endsHiddenText (c : Char) : Bool := (String.utf8EncodeChar c).contains 0x9c

def afterEscape (c : Char) : ControlState :=
  if c == 'P' then .device
  else if c == 'X' || c == '^' || c == '_' then .hiddenText
  else if c == '[' then .control
  else if c == ']' then .command
  else if isIntermediate c then .escapeTail
  else if isParameter c || isFinal c then .ground
  else .escape

def step (s : ControlState) (c : Char) : ControlState × Bool :=
  if c == '\x18' || c == '\x1a' then (.ground, false)
  else if c == '\x1b' then (.escape, false)
  else
    match s with
    | .ground => (.ground, plain c)
    | .escape => if shownControl c then (.escape, true) else (afterEscape c, false)
    | .escapeTail =>
      if shownControl c then (.escapeTail, true)
      else (if isParameter c || isFinal c then .ground else .escapeTail, false)
    | .control => if shownControl c then (.control, true) else (if isFinal c then .ground else .control, false)
    | .device =>
      (if isIntermediate c then .deviceTail
        else if isParameter c then .deviceParameter
        else if isFinal c then .hiddenText
        else .device, false)
    | .deviceParameter =>
      (if isIntermediate c then .deviceTail
        else if isFinal c || 0x3c ≤ c.toNat && c.toNat ≤ 0x3f then .hiddenText
        else .deviceParameter, false)
    | .deviceTail => (if isParameter c || isFinal c then .hiddenText else .deviceTail, false)
    | .hiddenText => (if endsHiddenText c then .ground else .hiddenText, false)
    | .command => (if c == '\x07' then .ground else .command, false)

/-- What is shown of a text from a state on. Plain characters right after a shown one are shown too, and they leave the
control sequence that it stands in unfinished, unless one of them lies beyond ASCII. -/
def shown (s : ControlState) (showing : Bool) : List Char → List Char
  | [] => []
  | c :: rest =>
    if showing && plain c then
      c :: shown (if c.toNat < 0x80 then s else .ground) true rest
    else
      let (next, keep) := s.step c
      if keep then c :: next.shown true rest else next.shown false rest

end ControlState

def visible (text : String) : String := String.ofList (ControlState.ground.shown false text.toList)

theorem ControlState.step_ground {c : Char} (clear : plain c = true) : ground.step c = (ground, true) := by
  have notCancel : (c == '\x18' || c == '\x1a') = false := by
    by_cases h : c = '\x18' ∨ c = '\x1a'
    · rcases h with rfl | rfl <;> revert clear <;> decide
    · simpa [not_or] using h
  have notEscape : (c == '\x1b') = false := by
    by_cases h : c = '\x1b'
    · subst h; revert clear; decide
    · simpa using h
  simp only [step, notCancel, notEscape, Bool.false_eq_true, if_false, clear]

theorem ControlState.shown_ground (text : List Char) (showing : Bool) (clear : ∀ c ∈ text, plain c = true) :
    ground.shown showing text = text := by
  induction text generalizing showing with
  | nil => rfl
  | cons c rest ih =>
    have first := clear c (List.mem_cons_self ..)
    have others := ih true fun d member => clear d (List.mem_cons_of_mem _ member)
    rw [shown, step_ground first]
    cases showing <;> simp [first, others]

theorem visible_of_plain (text : String) (clear : ∀ c ∈ text.toList, ControlState.plain c = true) :
    visible text = text := by
  rw [visible, ControlState.shown_ground _ _ clear, String.ofList_toList]

end ExactWord.Text
