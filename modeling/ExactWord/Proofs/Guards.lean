import ExactWord.Proofs.Inclusion

namespace ExactWord

def AsciiLetter (c : Char) : Prop := 'A' ≤ c ∧ c ≤ 'Z' ∨ 'a' ≤ c ∧ c ≤ 'z'

def AsciiDigit (c : Char) : Prop := '0' ≤ c ∧ c ≤ '9'

def CIdentifier (name : String) : Prop :=
  ∃ first rest, name.toList = first :: rest ∧ (AsciiLetter first ∨ first = '_') ∧
    ∀ c ∈ rest, AsciiLetter c ∨ AsciiDigit c ∨ c = '_'

theorem isAlpha_iff {c : Char} : c.isAlpha = true ↔ AsciiLetter c := by
  have upper : c.isUpper = true ↔ 'A' ≤ c ∧ c ≤ 'Z' := decide_eq_true_iff
  have lower : c.isLower = true ↔ 'a' ≤ c ∧ c ≤ 'z' :=
    Bool.and_eq_true_iff.trans (and_congr decide_eq_true_iff decide_eq_true_iff)
  exact Bool.or_eq_true_iff.trans (or_congr upper lower)

theorem isDigit_iff {c : Char} : c.isDigit = true ↔ AsciiDigit c :=
  Bool.and_eq_true_iff.trans (and_congr decide_eq_true_iff decide_eq_true_iff)

theorem isIdentifierStart_iff {c : Char} : isIdentifierStart c = true ↔ AsciiLetter c ∨ c = '_' := by
  simp only [isIdentifierStart, Bool.or_eq_true, beq_iff_eq, isAlpha_iff]

theorem isIdentifierRest_iff {c : Char} : isIdentifierRest c = true ↔ AsciiLetter c ∨ AsciiDigit c ∨ c = '_' := by
  simp only [isIdentifierRest, Char.isAlphanum, Bool.or_eq_true, beq_iff_eq, isAlpha_iff, isDigit_iff, or_assoc]

theorem isIdentifier_iff {name : String} : isIdentifier name.toList = true ↔ CIdentifier name := by
  unfold CIdentifier
  cases name.toList with
  | nil => simp [isIdentifier]
  | cons first rest =>
    simp only [isIdentifier, Bool.and_eq_true, List.all_eq_true, isIdentifierStart_iff, isIdentifierRest_iff]
    constructor
    · rintro ⟨start, later⟩
      exact ⟨first, rest, rfl, start, later⟩
    · rintro ⟨_, _, same, start, later⟩
      cases same
      exact ⟨start, later⟩

instance (name : String) : Decidable (CIdentifier name) := decidable_of_iff _ isIdentifier_iff

namespace Interface

variable {guard : String} {helpers : Bool}

theorem ofName_of_identifier (identifier : CIdentifier guard) :
    ∃ i, ofName guard helpers = .ok i ∧ i.guard.name = guard ∧ i.helpers = helpers := by
  have valid := isIdentifier_iff.mpr identifier
  refine ⟨⟨⟨guard, valid⟩, helpers⟩, ?_, rfl, rfl⟩
  simp only [ofName, IncludeGuard.ofName, dif_pos valid]
  rfl

theorem ofName_of_not_identifier (other : ¬ CIdentifier guard) : ofName guard helpers = .error ⟨guard⟩ := by
  have invalid := fun valid => other (isIdentifier_iff.mp valid)
  simp only [ofName, IncludeGuard.ofName, dif_neg invalid]
  rfl

theorem identifier_of_ofName {i : Interface} (accepted : ofName guard helpers = .ok i) :
    CIdentifier guard ∧ i.guard.name = guard ∧ i.helpers = helpers := by
  by_cases identifier : CIdentifier guard
  · obtain ⟨j, made, kept⟩ := @ofName_of_identifier guard helpers identifier
    rw [made] at accepted
    cases accepted
    exact ⟨identifier, kept⟩
  · rw [ofName_of_not_identifier identifier] at accepted
    cases accepted

@[simp]
theorem length_closing (i : Interface) : i.closing.length = 1 := rfl

theorem guarded_of_helpers {i j : Interface} (same : i.helpers = j.helpers) : i.guarded = j.guarded := by
  simp only [guarded, body, same]

theorem helpers_of_guarded {i j : Interface} (same : i.guarded = j.guarded) : i.helpers = j.helpers := by
  have length := congrArg List.length same
  obtain ⟨_, helpers⟩ := i
  obtain ⟨_, others⟩ := j
  cases helpers <;> cases others <;> simp [guarded, body, helperLines] at length ⊢ <;> omega

/-- The places where the lines of a header name its guard: the second, the third and the last one. -/
structure NamesGuard (guard : String) (lines : List String) : Prop where
  second : lines[1]? = some ("#ifndef " ++ guard)
  third : lines[2]? = some ("#define " ++ guard)
  last : lines.getLast? = some ("#endif /* " ++ guard ++ " */")

theorem namesGuard_lines (i : Interface) : NamesGuard i.guard.name i.lines :=
  ⟨rfl, rfl, List.getLast?_concat⟩

theorem length_lines_of_helpers {i j : Interface} (same : i.helpers = j.helpers) :
    i.lines.length = j.lines.length := by
  simp [lines_eq, guarded_of_helpers same]

theorem getElem?_lines_of_helpers {i j : Interface} (same : i.helpers = j.helpers) {k : Nat} (second : k ≠ 1)
    (third : k ≠ 2) (last : k + 1 ≠ i.lines.length) : i.lines[k]? = j.lines[k]? := by
  rw [lines_eq] at last
  simp only [lines_eq, guarded_of_helpers same] at last ⊢
  match k with
  | 0 => rfl
  | 1 => exact absurd rfl second
  | 2 => exact absurd rfl third
  | k + 3 =>
    have inner : k ≠ j.guarded.length := by
      intro atEnd
      simp [atEnd] at last
    simp only [List.getElem?_cons_succ, List.cons_append]
    rcases Nat.lt_or_gt_of_ne inner with before | behind
    · rw [List.getElem?_append_left before, List.getElem?_append_left before]
    · rw [List.getElem?_eq_none (by simp; omega), List.getElem?_eq_none (by simp; omega)]

theorem eq_of_lines {i j : Interface} (same : i.lines = j.lines) : i = j := by
  rw [lines_eq, lines_eq] at same
  injection same with _ fromSecond
  injection fromSecond with second fromThird
  have guarded := (List.append_inj fromThird (by simpa using congrArg List.length fromThird)).1
  injection guarded with _ guarded
  have helpers := helpers_of_guarded guarded
  have name : i.guard.name = j.guard.name := by simpa [← String.toList_inj] using second
  obtain ⟨⟨_, _⟩, _⟩ := i
  obtain ⟨⟨_, _⟩, _⟩ := j
  cases name
  cases helpers
  rfl

theorem unlines_lines_text (i : Interface) : Text.unlines (Text.lines i.text) = i.text := by
  rw [lines_text, text]

theorem text_injective : Function.Injective text := by
  intro i j same
  apply eq_of_lines
  rw [← lines_text, ← lines_text, same]

end Interface

/-- A guard is accepted if and only if it is a C identifier; it is kept unchanged, and so is a refused one in the error.
Headers with the same declarations differ only in the three lines that name the guard, and different interfaces have
different texts. -/
theorem guards_checked_and_rendered :
    (∀ guard helpers, ((∃ i, Interface.ofName guard helpers = .ok i) ↔ CIdentifier guard) ∧
      (∀ i, Interface.ofName guard helpers = .ok i → i.guard.name = guard ∧ i.helpers = helpers) ∧
      (¬ CIdentifier guard → Interface.ofName guard helpers = .error ⟨guard⟩)) ∧
    (∀ i : Interface, Text.unlines (Text.lines i.text) = i.text) ∧
    (∀ guard other helpers i j, Interface.ofName guard helpers = .ok i → Interface.ofName other helpers = .ok j →
      (Text.lines i.text).length = (Text.lines j.text).length ∧
      (∀ k, k ≠ 1 → k ≠ 2 → k + 1 ≠ (Text.lines i.text).length → (Text.lines i.text)[k]? = (Text.lines j.text)[k]?) ∧
      Interface.NamesGuard guard (Text.lines i.text) ∧ Interface.NamesGuard other (Text.lines j.text)) ∧
    Function.Injective Interface.text := by
  refine ⟨?_, Interface.unlines_lines_text, ?_, Interface.text_injective⟩
  · intro guard helpers
    refine ⟨⟨?_, ?_⟩, fun i accepted => (Interface.identifier_of_ofName accepted).2, Interface.ofName_of_not_identifier⟩
    · rintro ⟨i, accepted⟩
      exact (Interface.identifier_of_ofName accepted).1
    · intro identifier
      obtain ⟨i, accepted, -⟩ := Interface.ofName_of_identifier identifier
      exact ⟨i, accepted⟩
  · intro guard other helpers i j accepted acceptedOther
    obtain ⟨-, rfl, kept⟩ := Interface.identifier_of_ofName accepted
    obtain ⟨-, rfl, keptOther⟩ := Interface.identifier_of_ofName acceptedOther
    have same := kept.trans keptOther.symm
    simp only [Interface.lines_text]
    exact ⟨Interface.length_lines_of_helpers same, fun k => Interface.getElem?_lines_of_helpers same,
      i.namesGuard_lines, j.namesGuard_lines⟩

theorem twoGuards_rendered :
    Interface.ofName "A\n#error" true = .error ⟨"A\n#error"⟩ ∧
      ∃ i j, Interface.ofName "A" true = .ok i ∧ Interface.ofName "_1" true = .ok j ∧ i.text ≠ j.text ∧
        (Text.lines i.text)[1]? = some "#ifndef A" ∧ (Text.lines j.text)[1]? = some "#ifndef _1" ∧
        (Text.lines i.text)[0]? = (Text.lines j.text)[0]? := by
  obtain ⟨checked, -, rendered, injective⟩ := guards_checked_and_rendered
  obtain ⟨i, accepted⟩ := (checked "A" true).1.mpr (by decide)
  obtain ⟨j, acceptedOther⟩ := (checked "_1" true).1.mpr (by decide)
  obtain ⟨-, agree, names, namesOther⟩ := rendered _ _ _ i j accepted acceptedOther
  have several := (List.getElem?_eq_some_iff.mp names.second).1
  refine ⟨(checked _ true).2.2 (by decide), i, j, accepted, acceptedOther, ?_, names.second, namesOther.second,
    agree 0 (by decide) (by decide) (by omega)⟩
  intro same
  have second := names.second
  rw [injective same, namesOther.second] at second
  exact absurd second (by decide)

end ExactWord
