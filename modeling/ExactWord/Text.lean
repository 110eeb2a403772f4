namespace ExactWord.Text

def pieces (separator : Char) : List Char → List (List Char)
  | [] => [[]]
  | c :: rest =>
    if c = separator then
      [] :: pieces separator rest
    else
      match pieces separator rest with
      | [] => [[c]]
      | first :: others => (c :: first) :: others

theorem pieces_ne_nil (separator : Char) (text : List Char) : pieces separator text ≠ [] := by
  cases text with
  | nil => simp [pieces]
  | cons c rest =>
    simp only [pieces]
    split
    · simp
    · split <;> simp

def join (separator : Char) : List (List Char) → List Char
  | [] => []
  | [piece] => piece
  | piece :: rest => piece ++ separator :: join separator rest

theorem join_pieces (separator : Char) (text : List Char) : join separator (pieces separator text) = text := by
  induction text with
  | nil => rfl
  | cons c rest ih =>
    have nonempty := pieces_ne_nil separator rest
    simp only [pieces]
    cases split : pieces separator rest with
    | nil => exact absurd split nonempty
    | cons first others =>
      rw [split] at ih
      by_cases same : c = separator
      · simp [same, join, ih]
      · rw [if_neg same]
        cases others with
        | nil => simpa [join] using ih
        | cons => simpa [join] using ih

def unlines (lines : List String) : String := String.join (lines.map (· ++ "\n"))

def dropReturn (line : List Char) : List Char :=
  if line.getLast? = some '\r' then line.dropLast else line

def lines (text : String) : List String :=
  let parts := pieces '\n' text.toList
  let ended := parts.dropLast.map fun line => String.ofList (dropReturn line)
  match parts.getLast? with
  | some (c :: rest) => ended ++ [String.ofList (c :: rest)]
  | _ => ended

def byteCount : List Char → Nat
  | [] => 0
  | c :: rest => c.utf8Size + byteCount rest

/-- The first bytes and the rest, unless the place lies inside a character or beyond the end. -/
def splitBytes? (count : Nat) : List Char → Option (List Char × List Char)
  | [] => if count = 0 then some ([], []) else none
  | c :: rest =>
    if count = 0 then
      some ([], c :: rest)
    else if c.utf8Size ≤ count then
      (splitBytes? (count - c.utf8Size) rest).map fun (first, second) => (c :: first, second)
    else
      none

theorem splitBytes?_append (first second : List Char) :
    splitBytes? (byteCount first) (first ++ second) = some (first, second) := by
  induction first with
  | nil => cases second <;> simp [splitBytes?, byteCount]
  | cons c rest ih =>
    have size := c.utf8Size_pos
    rw [List.cons_append, splitBytes?, byteCount, if_neg (by omega), if_pos (by omega), Nat.add_sub_cancel_left, ih]
    rfl

theorem append_of_splitBytes? {count : Nat} {text first second : List Char}
    (split : splitBytes? count text = some (first, second)) : text = first ++ second ∧ byteCount first = count := by
  induction text generalizing count first with
  | nil =>
    simp only [splitBytes?] at split
    split at split
    · simp_all [byteCount]
    · cases split
  | cons c rest ih =>
    simp only [splitBytes?] at split
    split at split
    · simp only [Option.some.injEq, Prod.mk.injEq] at split
      obtain ⟨rfl, rfl⟩ := split
      simp_all [byteCount]
    · split at split
      · obtain ⟨⟨before, after⟩, shorter, same⟩ := Option.map_eq_some_iff.1 split
        simp only [Prod.mk.injEq] at same
        obtain ⟨rfl, rfl⟩ := same
        obtain ⟨whole, size⟩ := ih shorter
        refine ⟨by rw [whole, List.cons_append], ?_⟩
        rw [byteCount, size]
        omega
      · cases split

def cut? (start stop : Nat) (text : List Char) : Option (List Char) := do
  let (_, rest) ← splitBytes? start text
  let (middle, _) ← splitBytes? (stop - start) rest
  return middle

def cutFrom? (start : Nat) (text : List Char) : Option (List Char) :=
  (splitBytes? start text).map Prod.snd

end ExactWord.Text

namespace ExactWord.Decimal

def chars : Int → List Char
  | .ofNat n => Nat.toDigits 10 n
  | .negSucc n => '-' :: Nat.toDigits 10 (n + 1)

def text (i : Int) : String := String.ofList (chars i)

def natural? (digits : List Char) : Option Nat :=
  if digits.all Char.isDigit && !digits.isEmpty && (digits.head? != some '0' || digits == ['0']) then
    some (Nat.ofDigitChars 10 digits 0)
  else
    none

/-- Reads what `chars` writes and nothing else. -/
def ofChars? : List Char → Option Int
  | '-' :: digits =>
    match natural? digits with
    | some (n + 1) => some (.negSucc n)
    | _ => none
  | digits => (natural? digits).map Int.ofNat

def ofText? (text : String) : Option Int := ofChars? text.toList

end ExactWord.Decimal
