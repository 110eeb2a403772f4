import ExactWord.Interface
import ExactWord.Proofs.Catalogue

namespace ExactWord

def Spelled (kind : Char → Bool) (s : String) : Prop := ∀ c ∈ s.toList, kind c = true

instance (kind : Char → Bool) (s : String) : Decidable (Spelled kind s) :=
  decidable_of_iff (s.toList.all kind = true) List.all_eq_true

namespace Spelled

variable {kind : Char → Bool} {s left right : String}

theorem append (first : Spelled kind left) (second : Spelled kind right) : Spelled kind (left ++ right) := by
  intro c member
  rw [String.toList_append] at member
  rcases List.mem_append.mp member with member | member
  · exact first c member
  · exact second c member

theorem intercalate (separator : Spelled kind s) {parts : List String} (each : ∀ part ∈ parts, Spelled kind part) :
    Spelled kind (s.intercalate parts) := by
  induction parts with
  | nil => simp [Spelled]
  | cons part rest ih =>
    have first := each part (by simp)
    have later := ih fun other member => each other (by simp [member])
    cases rest with
    | nil => rwa [String.intercalate_singleton]
    | cons next others =>
      rw [String.intercalate_cons_cons]
      exact (first.append separator).append later

theorem mono {wider : Char → Bool} (spelled : Spelled kind s) (weaker : ∀ c, kind c = true → wider c = true) :
    Spelled wider s :=
  fun c member => weaker c (spelled c member)

theorem not_mem (spelled : Spelled kind s) {c : Char} (other : kind c = false) : c ∉ s.toList := by
  intro member
  rw [spelled c member] at other
  cases other

end Spelled

namespace Text

theorem pieces_of_not_mem {separator : Char} {text : List Char} (free : separator ∉ text) :
    pieces separator text = [text] := by
  induction text with
  | nil => rfl
  | cons c rest ih =>
    have other : c ≠ separator := fun same => free (by simp [same])
    have later : separator ∉ rest := fun member => free (by simp [member])
    simp only [pieces, if_neg other, ih later]

theorem pieces_append {separator : Char} {piece : List Char} (free : separator ∉ piece) (text : List Char) :
    pieces separator (piece ++ separator :: text) = piece :: pieces separator text := by
  induction piece with
  | nil => simp [pieces]
  | cons c rest ih =>
    have other : c ≠ separator := fun same => free (by simp [same])
    have later : separator ∉ rest := fun member => free (by simp [member])
    simp only [List.cons_append, pieces, if_neg other, ih later]

def isPlain (c : Char) : Bool := c != '\n' && c != '\r'

theorem pieces_unlines {lines : List String} (plain : ∀ line ∈ lines, Spelled isPlain line) :
    pieces '\n' (unlines lines).toList = lines.map String.toList ++ [[]] := by
  induction lines with
  | nil => rfl
  | cons line rest ih =>
    have text : (unlines (line :: rest)).toList = line.toList ++ '\n' :: (unlines rest).toList := by
      simp [unlines, String.toList_join]
    have free : '\n' ∉ line.toList := (plain line (by simp)).not_mem rfl
    rw [text, pieces_append free, ih fun other member => plain other (by simp [member])]
    rfl

theorem dropReturn_of_not_mem {line : List Char} (free : '\r' ∉ line) : dropReturn line = line := by
  have other : line.getLast? ≠ some '\r' := fun last => free (List.mem_of_getLast? last)
  rw [dropReturn, if_neg other]

theorem lines_unlines {lines : List String} (plain : ∀ line ∈ lines, Spelled isPlain line) :
    Text.lines (unlines lines) = lines := by
  have same : ∀ line ∈ lines, String.ofList (dropReturn line.toList) = line := by
    intro line member
    rw [dropReturn_of_not_mem ((plain line member).not_mem rfl), String.ofList_toList]
  simp only [Text.lines, pieces_unlines plain, List.dropLast_concat, List.getLast?_concat, List.map_map]
  exact (List.map_congr_left same).trans lines.map_id

end Text

theorem isIdentifierRest_of_start {c : Char} (start : isIdentifierStart c = true) : isIdentifierRest c = true := by
  simp only [isIdentifierStart, isIdentifierRest, Char.isAlphanum, Bool.or_eq_true] at start ⊢
  rcases start with letter | underscore
  · exact .inl (.inl letter)
  · exact .inr underscore

theorem IncludeGuard.spelled_name (g : IncludeGuard) : Spelled isIdentifierRest g.name := by
  have valid := g.valid
  unfold Spelled
  cases chars : g.name.toList with
  | nil => simp
  | cons first rest =>
    simp only [chars, isIdentifier, Bool.and_eq_true, List.all_eq_true] at valid
    intro c member
    rcases List.mem_cons.mp member with rfl | member
    · exact isIdentifierRest_of_start valid.1
    · exact valid.2 c member

theorem OperandType.spelled_stdintName (t : OperandType) : Spelled isIdentifierRest t.stdintName := by
  cases t <;> decide

theorem OperandType.spelled_symbolName (t : OperandType) : Spelled isIdentifierRest t.symbolName := by
  cases t <;> decide

theorem Routine.spelled_symbol (r : Routine) : Spelled isIdentifierRest r.symbol := by
  have name : Spelled isIdentifierRest r.operation.name := by cases r.operation <;> decide
  exact ((Spelled.append (by decide) name).append (by decide)).append r.type.spelled_symbolName

def isDeclaratorChar (c : Char) : Bool := isIdentifierRest c || c == ' ' || c == '*'

def isPrototypeChar (c : Char) : Bool := isDeclaratorChar c || c == '(' || c == ',' || c == ')' || c == ';'

theorem isDeclaratorChar_of_rest {c : Char} (rest : isIdentifierRest c = true) : isDeclaratorChar c = true := by
  simp [isDeclaratorChar, rest]

theorem isPrototypeChar_of_declarator {c : Char} (inside : isDeclaratorChar c = true) : isPrototypeChar c = true := by
  simp [isPrototypeChar, inside]

theorem isPlain_of_prototype {c : Char} (inside : isPrototypeChar c = true) : Text.isPlain c = true := by
  simp only [Text.isPlain, Bool.and_eq_true, bne_iff_ne]
  constructor
  · rintro rfl
    exact absurd inside (by decide)
  · rintro rfl
    exact absurd inside (by decide)

theorem CType.spelled_declare (type : CType) {declarator : String} (inside : Spelled isDeclaratorChar declarator) :
    Spelled isDeclaratorChar (type.declare declarator) := by
  induction type generalizing declarator with
  | bool => exact Spelled.append (by decide) inside
  | word t =>
    have name := t.spelled_stdintName.mono fun _ => isDeclaratorChar_of_rest
    exact (name.append (by decide)).append inside
  | pointer target ih => exact ih (Spelled.append (by decide) inside)

structure Prototype.WellFormed (p : Prototype) : Prop where
  symbol : Spelled isIdentifierRest p.symbol
  names : ∀ name ∈ p.parameterNames, Spelled isIdentifierRest name
  length : p.parameterNames.length = p.signature.parameters.length
  nonempty : p.signature.parameters ≠ []

def parameterTexts (types : List CType) (names : List String) : List String :=
  types.zipWith (fun type name => type.declare name) names

theorem Prototype.text_eq (p : Prototype) :
    p.text = p.signature.returns.declare p.symbol ++ "(" ++
      ", ".intercalate (parameterTexts p.signature.parameters p.parameterNames) ++ ");" := rfl

theorem spelled_parameterTexts {types : List CType} {names : List String}
    (words : ∀ name ∈ names, Spelled isIdentifierRest name) :
    ∀ part ∈ parameterTexts types names, Spelled isDeclaratorChar part := by
  induction types generalizing names with
  | nil => simp [parameterTexts]
  | cons type rest ih =>
    cases names with
    | nil => simp [parameterTexts]
    | cons name others =>
      intro part member
      rcases List.mem_cons.mp member with rfl | member
      · exact type.spelled_declare ((words name (by simp)).mono fun _ => isDeclaratorChar_of_rest)
      · exact ih (fun other listed => words other (by simp [listed])) part member

theorem Prototype.spelled_text {p : Prototype} (wellFormed : p.WellFormed) : Spelled isPrototypeChar p.text := by
  have head := p.signature.returns.spelled_declare (wellFormed.symbol.mono fun _ => isDeclaratorChar_of_rest)
  have parts : ∀ part ∈ parameterTexts p.signature.parameters p.parameterNames, Spelled isPrototypeChar part := by
    intro part member
    exact (spelled_parameterTexts wellFormed.names part member).mono fun _ => isPrototypeChar_of_declarator
  have inner := Spelled.intercalate (s := ", ") (by decide) parts
  rw [text_eq]
  exact (((head.mono fun _ => isPrototypeChar_of_declarator).append (by decide)).append inner).append (by decide)

theorem Routine.prototype_wellFormed (r : Routine) : r.prototype.WellFormed := by
  have names : ∀ name ∈ ["x", "y", "result"], Spelled isIdentifierRest name := by decide
  exact ⟨r.spelled_symbol, names, rfl, List.cons_ne_nil _ _⟩

namespace Interface

theorem helperPrototypes_wellFormed : ∀ p ∈ helperPrototypes, p.WellFormed := by
  intro p member
  rcases List.mem_append.mp member with conversion | legacy
  · obtain ⟨t, -, rfl⟩ := List.mem_map.mp conversion
    have names : ∀ name ∈ ["v"], Spelled isIdentifierRest name := by decide
    exact ⟨Spelled.append (by decide) t.spelled_symbolName, names, rfl, List.cons_ne_nil _ _⟩
  · simp only [legacyPrototypes, List.mem_cons, List.not_mem_nil, or_false] at legacy
    rcases legacy with rfl | rfl
    · exact ⟨by decide, by decide, rfl, List.cons_ne_nil _ _⟩
    · exact ⟨by decide, by decide, rfl, List.cons_ne_nil _ _⟩

def prototypes (i : Interface) : List Prototype :=
  Routine.all.map Routine.prototype ++ if i.helpers then helperPrototypes else []

theorem prototypes_wellFormed {i : Interface} {p : Prototype} (member : p ∈ i.prototypes) : p.WellFormed := by
  rcases List.mem_append.mp member with checked | helper
  · obtain ⟨r, -, rfl⟩ := List.mem_map.mp checked
    exact r.prototype_wellFormed
  · split at helper
    · exact helperPrototypes_wellFormed p helper
    · cases helper

theorem body_cases {i : Interface} {line : String} (member : line ∈ i.body) :
    line = "" ∨ ∃ p ∈ i.prototypes, line = p.text := by
  rcases List.mem_append.mp member with checked | helper
  · obtain ⟨operation, -, inBlock⟩ := List.mem_flatMap.mp checked
    rcases List.mem_cons.mp inBlock with blank | declared
    · exact .inl blank
    · obtain ⟨t, -, rfl⟩ := List.mem_map.mp declared
      have listed := List.mem_map_of_mem (f := Routine.prototype) (Routine.mem_all ⟨operation, t⟩)
      exact .inr ⟨_, List.mem_append_left _ listed, rfl⟩
  · split at helper
    · rename_i helpers
      rcases List.mem_cons.mp helper with blank | declared
      · exact .inl blank
      · obtain ⟨p, listed, rfl⟩ := List.mem_map.mp declared
        refine .inr ⟨p, List.mem_append_right _ ?_, rfl⟩
        rwa [if_pos helpers]
    · cases helper

/-- What stands around the declarations has neither a line end nor a semicolon in it. -/
def isFrameChar (c : Char) : Bool := Text.isPlain c && c != ';'

theorem isFrameChar_of_rest {c : Char} (rest : isIdentifierRest c = true) : isFrameChar c = true := by
  have plain := isPlain_of_prototype (isPrototypeChar_of_declarator (isDeclaratorChar_of_rest rest))
  simp only [isFrameChar, plain, Bool.true_and, bne_iff_ne]
  rintro rfl
  exact absurd rest (by decide)

theorem lines_framed (i : Interface) :
    ∃ before after, i.lines = before ++ (i.body ++ after) ∧ ∀ line ∈ before ++ after, Spelled isFrameChar line := by
  refine ⟨i.opening ++ top, bottom ++ i.closing, by simp only [lines, guarded, List.append_assoc], ?_⟩
  have guard := i.guard.spelled_name.mono fun _ => isFrameChar_of_rest
  have ends : Spelled isFrameChar "#endif /* " := by decide
  have last := (ends.append guard).append (by decide : Spelled isFrameChar " */")
  have first : ∀ line ∈ i.opening, Spelled isFrameChar line := by
    simp only [opening, List.forall_mem_cons, List.not_mem_nil, false_implies, implies_true, and_true]
    exact ⟨by decide, Spelled.append (by decide) guard, Spelled.append (by decide) guard⟩
  simp only [List.forall_mem_append, closing, List.forall_mem_singleton]
  exact ⟨⟨first, by decide⟩, by decide, last⟩

theorem plain_lines (i : Interface) : ∀ line ∈ i.lines, Spelled Text.isPlain line := by
  obtain ⟨before, after, split, frame⟩ := i.lines_framed
  have plain : ∀ line ∈ before ++ after, Spelled Text.isPlain line := by
    intro line member
    exact (frame line member).mono fun c known => (Bool.and_eq_true_iff.mp known).1
  intro line member
  rw [split] at member
  rcases List.mem_append.mp member with opens | member
  · exact plain line (List.mem_append_left _ opens)
  · rcases List.mem_append.mp member with inBody | closes
    · rcases body_cases inBody with rfl | ⟨p, listed, rfl⟩
      · decide
      · exact (Prototype.spelled_text (prototypes_wellFormed listed)).mono fun _ => isPlain_of_prototype
    · exact plain line (List.mem_append_right _ closes)

theorem lines_text (i : Interface) : Text.lines i.text = i.lines :=
  Text.lines_unlines i.plain_lines

end Interface

end ExactWord
