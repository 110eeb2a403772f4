import ExactWord.Constant
import ExactWord.Proofs.Catalogue

namespace ExactWord

namespace Decimal

structure IsNumeral (digits : List Char) : Prop where
  digit : ∀ c ∈ digits, c.isDigit = true
  nonempty : digits ≠ []
  leading : digits.head? = some '0' → digits = ['0']

theorem natural?_eq_some_iff {digits : List Char} {n : Nat} :
    natural? digits = some n ↔ IsNumeral digits ∧ Nat.ofDigitChars 10 digits 0 = n := by
  have numeral : (digits.all Char.isDigit && !digits.isEmpty && (digits.head? != some '0' || digits == ['0'])) = true ↔
      IsNumeral digits := by
    simp only [Bool.and_eq_true, Bool.or_eq_true, List.all_eq_true, Bool.not_eq_true', List.isEmpty_eq_false_iff,
      bne_iff_ne, beq_iff_eq, ← Decidable.imp_iff_not_or]
    constructor
    · rintro ⟨⟨digit, nonempty⟩, leading⟩
      exact ⟨digit, nonempty, leading⟩
    · rintro ⟨digit, nonempty, leading⟩
      exact ⟨⟨digit, nonempty⟩, leading⟩
  simp only [natural?, numeral, Option.ite_none_right_eq_some, Option.some.injEq]

theorem toDigits_of_leading_zero {n : Nat} (zero : (Nat.toDigits 10 n).head? = some '0') :
    Nat.toDigits 10 n = ['0'] := by
  induction n using Nat.strongRecOn with
  | ind n ih =>
    rcases Nat.lt_or_ge n 10 with small | large
    · rw [Nat.toDigits_of_lt_base small] at zero ⊢
      simpa using zero
    · have front : (Nat.toDigits 10 (n / 10)).head? = some '0' := by
        rw [Nat.toDigits_of_base_le (by decide) large, List.head?_append] at zero
        simpa [List.head?_eq_some_head Nat.toDigits_ne_nil] using zero
      have value := congrArg (Nat.ofDigitChars 10 · 0) (ih (n / 10) (by omega) front)
      simp only [Nat.ofDigitChars_ten_toDigits] at value
      change n / 10 = 0 at value
      omega

theorem isNumeral_toDigits (n : Nat) : IsNumeral (Nat.toDigits 10 n) where
  digit _ member := Nat.isDigit_of_mem_toDigits (by decide) (by decide) member
  nonempty := Nat.toDigits_ne_nil
  leading := toDigits_of_leading_zero

theorem exists_digitChar {c : Char} (digit : c.isDigit = true) : ∃ d, d < 10 ∧ c = Nat.digitChar d := by
  have bounds : 48 ≤ c.toNat ∧ c.toNat ≤ 57 := Char.isDigit_iff_toNat.mp digit
  have small : c.toNat - 48 < 10 := by omega
  refine ⟨c.toNat - 48, small, ?_⟩
  apply Char.toNat_inj.mp
  rw [Nat.toNat_digitChar_of_lt_ten small]
  omega

theorem toDigits_append {n : Nat} (positive : 0 < n) {rest : List Char} (digit : ∀ c ∈ rest, c.isDigit = true) :
    Nat.toDigits 10 n ++ rest = Nat.toDigits 10 (Nat.ofDigitChars 10 rest n) := by
  induction rest generalizing n with
  | nil => simp
  | cons c rest ih =>
    obtain ⟨d, small, rfl⟩ := exists_digitChar (digit c (by simp))
    have longer : Nat.toDigits 10 n ++ [d.digitChar] = Nat.toDigits 10 (10 * n + d) := by
      rw [← Nat.toDigits_of_lt_base small, Nat.toDigits_append_toDigits (by decide) positive small]
    have later := @ih (10 * n + d) (by omega) fun other member => digit other (by simp [member])
    rw [Nat.ofDigitChars_cons_digitChar_of_lt_ten small, ← later, ← longer, List.append_assoc, List.singleton_append]

theorem IsNumeral.eq_toDigits {digits : List Char} (numeral : IsNumeral digits) :
    digits = Nat.toDigits 10 (Nat.ofDigitChars 10 digits 0) := by
  cases digits with
  | nil => exact absurd rfl numeral.nonempty
  | cons first rest =>
    obtain ⟨d, small, rfl⟩ := exists_digitChar (numeral.digit first (by simp))
    rcases Nat.eq_zero_or_pos d with rfl | positive
    · rw [numeral.leading rfl]
      decide
    · have digit : ∀ c ∈ rest, c.isDigit = true := fun c member => numeral.digit c (by simp [member])
      have whole := toDigits_append positive digit
      rw [Nat.toDigits_of_lt_base small, List.singleton_append] at whole
      rwa [Nat.ofDigitChars_cons_digitChar_of_lt_ten small, Nat.mul_zero, Nat.zero_add]

theorem natural?_iff {digits : List Char} {n : Nat} : natural? digits = some n ↔ digits = Nat.toDigits 10 n := by
  rw [natural?_eq_some_iff]
  constructor
  · rintro ⟨numeral, rfl⟩
    exact numeral.eq_toDigits
  · rintro rfl
    exact ⟨isNumeral_toDigits n, Nat.ofDigitChars_ten_toDigits⟩

theorem ofChars?_of_unsigned {digits : List Char} (unsigned : digits.head? ≠ some '-') :
    ofChars? digits = (natural? digits).map Int.ofNat := by
  unfold ofChars?
  split
  · simp at unsigned
  · rfl

theorem isDigit_ne_minus {c : Char} (digit : c.isDigit = true) : c ≠ '-' := by
  rintro rfl
  exact absurd digit (by decide)

theorem ofChars?_chars (i : Int) : ofChars? (chars i) = some i := by
  cases i with
  | ofNat n =>
    have unsigned : (Nat.toDigits 10 n).head? ≠ some '-' := by
      intro minus
      exact isDigit_ne_minus ((isNumeral_toDigits n).digit _ (List.mem_of_head? minus)) rfl
    rw [chars, ofChars?_of_unsigned unsigned, natural?_iff.mpr rfl]
    rfl
  | negSucc n => simp only [chars, ofChars?, natural?_iff.mpr rfl]

theorem chars_of_ofChars? {text : List Char} {i : Int} (reads : ofChars? text = some i) : text = chars i := by
  unfold ofChars? at reads
  split at reads
  · split at reads
    · rename_i read
      cases reads
      rw [natural?_iff.mp read, chars]
    · cases reads
  · obtain ⟨n, read, rfl⟩ := Option.map_eq_some_iff.mp reads
    exact natural?_iff.mp read

def isNumberChar (c : Char) : Bool := c.isDigit || c == '-'

theorem isNumberChar_of_mem_chars {i : Int} {c : Char} (member : c ∈ chars i) : isNumberChar c = true := by
  have digit : ∀ n, c ∈ Nat.toDigits 10 n → isNumberChar c = true := by
    intro n member
    simp [isNumberChar, (isNumeral_toDigits n).digit c member]
  cases i with
  | ofNat n => exact digit n member
  | negSucc n =>
    rcases List.mem_cons.mp member with rfl | member
    · decide
    · exact digit (n + 1) member

end Decimal

namespace OperandType

theorem find?_label_iff {label : OperandType → String} (distinct : ∀ t, all.find? (label · == label t) = some t)
    {text : String} {t : OperandType} : all.find? (label · == text) = some t ↔ text = label t := by
  constructor
  · intro found
    have labelled := List.find?_some found
    exact (beq_iff_eq.mp labelled).symm
  · rintro rfl
    exact distinct t

theorem ofName?_iff {text : String} {t : OperandType} : ofName? text = some t ↔ text = t.name :=
  find?_label_iff fun t => by cases t <;> rfl

theorem find?_tag_iff {text : String} {t : OperandType} : all.find? (·.tag == text) = some t ↔ text = t.tag :=
  find?_label_iff fun t => by cases t <;> rfl

theorem isNumberChar_head_name (t : OperandType) : ∃ first rest, t.name.toList = first :: rest ∧
    Decimal.isNumberChar first = false := by
  cases t <;> exact ⟨_, _, rfl, by decide⟩

theorem opening_not_mem_tag (t : OperandType) : '(' ∉ t.tag.toList := by
  cases t <;> decide

end OperandType

namespace Constant

theorem ofInt?_iff {type : OperandType} {i : Int} {c : Constant} :
    ofInt? type i = some c ↔ c.type = type ∧ c.word.toInt = i := by
  unfold ofInt? Word.ofInt?
  constructor
  · intro made
    split at made
    · cases made
      exact ⟨rfl, rfl⟩
    · cases made
  · rintro ⟨rfl, rfl⟩
    rw [dif_pos c.word.mem]
    rfl

theorem ofLiteral?_eq (text : String) : ofLiteral? text =
    (Decimal.ofChars? (text.toList.takeWhile Decimal.isNumberChar)).bind fun value =>
      (OperandType.ofName? (String.ofList (text.toList.dropWhile Decimal.isNumberChar))).bind fun type =>
        ofInt? type value := rfl

theorem ofLiteral?_literal (c : Constant) : ofLiteral? c.literal = some c := by
  have text : c.literal.toList = Decimal.chars c.word.toInt ++ c.type.name.toList := by
    rw [literal, Decimal.text, String.toList_append, String.toList_ofList]
  have inside : ∀ d ∈ Decimal.chars c.word.toInt, Decimal.isNumberChar d = true :=
    fun _ => Decimal.isNumberChar_of_mem_chars
  -- the number ends where the name of the type starts, with a letter
  obtain ⟨first, rest, name, letter⟩ := c.type.isNumberChar_head_name
  have number : c.literal.toList.takeWhile Decimal.isNumberChar = Decimal.chars c.word.toInt := by
    rw [text, List.takeWhile_append_of_pos inside, name, List.takeWhile_cons_of_neg (by simp [letter]), List.append_nil]
  have type : c.literal.toList.dropWhile Decimal.isNumberChar = c.type.name.toList := by
    rw [text, List.dropWhile_append_of_pos inside, name, List.dropWhile_cons_of_neg (by simp [letter])]
  rw [ofLiteral?_eq, number, type, Decimal.ofChars?_chars, String.ofList_toList, Option.bind_some,
    OperandType.ofName?_iff.mpr rfl, Option.bind_some, ofInt?_iff.mpr ⟨rfl, rfl⟩]

theorem literal_of_ofLiteral? {text : String} {c : Constant} (reads : ofLiteral? text = some c) : text = c.literal := by
  rw [ofLiteral?_eq] at reads
  obtain ⟨value, number, reads⟩ := Option.bind_eq_some_iff.mp reads
  obtain ⟨type, named, made⟩ := Option.bind_eq_some_iff.mp reads
  obtain ⟨rfl, rfl⟩ := ofInt?_iff.mp made
  apply String.toList_inj.mp
  calc text.toList
    _ = text.toList.takeWhile Decimal.isNumberChar ++ text.toList.dropWhile Decimal.isNumberChar :=
      List.takeWhile_append_dropWhile.symm
    _ = Decimal.chars c.word.toInt ++ c.type.name.toList := by
      rw [Decimal.chars_of_ofChars? number, ← OperandType.ofName?_iff.mp named, String.toList_ofList]
    _ = c.literal.toList := by rw [literal, Decimal.text, String.toList_append, String.toList_ofList]

def parenthesized? : List Char → Option (List Char)
  | '(' :: rest => if rest.getLast? = some ')' then some rest.dropLast else none
  | _ => none

theorem parenthesized?_iff {text inner : List Char} :
    parenthesized? text = some inner ↔ text = '(' :: (inner ++ [')']) := by
  constructor
  · intro reads
    unfold parenthesized? at reads
    split at reads
    · rename_i rest
      split at reads
      · rename_i closed
        cases reads
        obtain ⟨init, rfl⟩ := List.getLast?_eq_some_iff.mp closed
        rw [List.dropLast_concat]
      · cases reads
    · cases reads
  · rintro rfl
    simp [parenthesized?]

theorem ofTagged?_eq (text : String) : ofTagged? text =
    (OperandType.all.find? (·.tag == String.ofList (text.toList.takeWhile (· != '(')))).bind fun type =>
      (parenthesized? (text.toList.dropWhile (· != '('))).bind fun digits =>
        (Decimal.ofChars? digits).bind fun value => ofInt? type value := by
  apply congrArg (Option.bind _)
  funext type
  generalize text.toList.dropWhile (· != '(') = rest
  cases rest with
  | nil => rfl
  | cons c rest =>
    by_cases opens : c = '('
    · subst opens
      simp only [parenthesized?]
      split <;> rfl
    · simp [parenthesized?, opens]

theorem ofTagged?_tagged (c : Constant) : ofTagged? c.tagged = some c := by
  have text : c.tagged.toList = c.type.tag.toList ++ '(' :: (Decimal.chars c.word.toInt ++ [')']) := by
    simp [tagged, Decimal.text]
  have inside : ∀ d ∈ c.type.tag.toList, (d != '(') = true := by
    intro d member
    exact bne_iff_ne.mpr fun same => c.type.opening_not_mem_tag (same ▸ member)
  have tag : c.tagged.toList.takeWhile (· != '(') = c.type.tag.toList := by
    rw [text, List.takeWhile_append_of_pos inside, List.takeWhile_cons_of_neg (by decide), List.append_nil]
  have rest : c.tagged.toList.dropWhile (· != '(') = '(' :: (Decimal.chars c.word.toInt ++ [')']) := by
    rw [text, List.dropWhile_append_of_pos inside, List.dropWhile_cons_of_neg (by decide)]
  rw [ofTagged?_eq, tag, rest, String.ofList_toList, OperandType.find?_tag_iff.mpr rfl, Option.bind_some,
    parenthesized?_iff.mpr rfl, Option.bind_some, Decimal.ofChars?_chars, Option.bind_some, ofInt?_iff.mpr ⟨rfl, rfl⟩]

theorem tagged_of_ofTagged? {text : String} {c : Constant} (reads : ofTagged? text = some c) : text = c.tagged := by
  rw [ofTagged?_eq] at reads
  obtain ⟨type, named, reads⟩ := Option.bind_eq_some_iff.mp reads
  obtain ⟨digits, rest, reads⟩ := Option.bind_eq_some_iff.mp reads
  obtain ⟨value, number, made⟩ := Option.bind_eq_some_iff.mp reads
  obtain ⟨rfl, rfl⟩ := ofInt?_iff.mp made
  apply String.toList_inj.mp
  calc text.toList
    _ = text.toList.takeWhile (· != '(') ++ text.toList.dropWhile (· != '(') := List.takeWhile_append_dropWhile.symm
    _ = c.type.tag.toList ++ '(' :: (Decimal.chars c.word.toInt ++ [')']) := by
      rw [parenthesized?_iff.mp rest, Decimal.chars_of_ofChars? number, ← OperandType.find?_tag_iff.mp named,
        String.toList_ofList]
    _ = c.tagged.toList := by simp [tagged, Decimal.text]

/-- Both texts of a constant are read back as that constant, and no other text is read as it. So two constants, of
whatever types, have the same text of either kind only if they are the same. -/
theorem texts_unambiguous (a b : Constant) :
    (∀ text, ofLiteral? text = some a ↔ text = a.literal) ∧ (∀ text, ofTagged? text = some a ↔ text = a.tagged) ∧
      (a.literal = b.literal ↔ a = b) ∧ (a.tagged = b.tagged ↔ a = b) ∧
      (a.type ≠ b.type → a.literal ≠ b.literal ∧ a.tagged ≠ b.tagged) := by
  have literals : a.literal = b.literal ↔ a = b := by
    refine ⟨fun same => ?_, congrArg literal⟩
    apply Option.some.inj
    rw [← ofLiteral?_literal a, ← ofLiteral?_literal b, same]
  have tags : a.tagged = b.tagged ↔ a = b := by
    refine ⟨fun same => ?_, congrArg tagged⟩
    apply Option.some.inj
    rw [← ofTagged?_tagged a, ← ofTagged?_tagged b, same]
  refine ⟨fun text => ⟨literal_of_ofLiteral?, fun same => same ▸ ofLiteral?_literal a⟩,
    fun text => ⟨tagged_of_ofTagged?, fun same => same ▸ ofTagged?_tagged a⟩, literals, tags, ?_⟩
  intro different
  exact ⟨fun same => different (congrArg type (literals.mp same)), fun same => different (congrArg type (tags.mp same))⟩

def pointerFive : Constant := ⟨.iptr, ⟨5, by decide⟩⟩

def longFive : Constant := ⟨.i64, ⟨5, by decide⟩⟩

theorem fives_told_apart :
    pointerFive.type ≠ longFive.type ∧ pointerFive.literal ≠ longFive.literal ∧
      pointerFive.tagged ≠ longFive.tagged := by
  have different : pointerFive.type ≠ longFive.type := by decide
  exact ⟨different, (texts_unambiguous pointerFive longFive).2.2.2.2 different⟩

end Constant

end ExactWord
