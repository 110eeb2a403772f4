import Mathlib.Data.List.Nodup
import Mathlib.Data.Multiset.Bind
import ExactWord.Export
import ExactWord.Proofs.Lines

namespace ExactWord

def Prototype.entry (p : Prototype) : String × Signature := (p.symbol, p.signature)

namespace Declaration

/-- A `u` when unsigned, then `int`, then the width in bits, or `ptr` where it is that of a pointer. -/
def standardName (t : OperandType) : String :=
  (if t.signed then "" else "u") ++ "int" ++ (if t = .iptr ∨ t = .uptr then "ptr" else Decimal.text t.bits) ++ "_t"

def standardType? (name : List Char) : Option CType :=
  if name = "bool".toList then some .bool
  else (OperandType.all.find? fun t => (standardName t).toList == name).map .word

def declared (base : CType) : List Char → List Char × CType
  | '*' :: declarator => declared (.pointer base) declarator
  | name => (name, base)

/-- Reads a type and a declarator, after one blank at most. -/
def typed? (text : List Char) : Option (List Char × CType) :=
  match Text.pieces ' ' text with
  | [type, declarator] => (standardType? type).map (declared · declarator)
  | [[], type, declarator] => (standardType? type).map (declared · declarator)
  | _ => none

def parameter? (text : List Char) : Option CType := (typed? text).map Prod.snd

def read? (line : String) : Option (String × Signature) :=
  match Text.pieces '(' line.toList with
  | [head, tail] =>
    match Text.pieces ')' tail with
    | [inner, [';']] => do
      let (name, returns) ← typed? head
      let parameters ← (Text.pieces ',' inner).mapM parameter?
      return (String.ofList name, ⟨returns, parameters⟩)
    | _ => none
  | _ => none

theorem standardType?_stdintName (t : OperandType) : standardType? t.stdintName.toList = some (.word t) := by
  cases t <;> decide

theorem declared_of_not_mem {name : List Char} (free : '*' ∉ name) (base : CType) :
    declared base name = (name, base) := by
  unfold declared
  split
  · simp at free
  · rfl

theorem pieces_declare (type : CType) {declarator : String} (free : ' ' ∉ declarator.toList) :
    ∃ base name c, Text.pieces ' ' (type.declare declarator).toList = [base, name] ∧ standardType? base = some c ∧
      declared c name = declared type declarator.toList := by
  induction type generalizing declarator with
  | bool =>
    refine ⟨"bool".toList, declarator.toList, .bool, ?_, by decide, rfl⟩
    have text : (CType.bool.declare declarator).toList = "bool".toList ++ ' ' :: declarator.toList := by
      simp [CType.declare]
    rw [text, Text.pieces_append (by decide), Text.pieces_of_not_mem free]
  | word t =>
    refine ⟨t.stdintName.toList, declarator.toList, .word t, ?_, standardType?_stdintName t, rfl⟩
    have text : ((CType.word t).declare declarator).toList = t.stdintName.toList ++ ' ' :: declarator.toList := by
      simp [CType.declare]
    rw [text, Text.pieces_append (t.spelled_stdintName.not_mem (by decide)), Text.pieces_of_not_mem free]
  | pointer target ih =>
    have starred : ' ' ∉ ("*" ++ declarator).toList := by simpa using free
    obtain ⟨base, name, c, pieces, standard, same⟩ := ih starred
    refine ⟨base, name, c, pieces, standard, ?_⟩
    rw [same, String.toList_append]
    rfl

theorem typed?_declare (type : CType) {name : String} (word : Spelled isIdentifierRest name) :
    typed? (type.declare name).toList = some (name.toList, type) ∧
      typed? (' ' :: (type.declare name).toList) = some (name.toList, type) := by
  obtain ⟨base, declarator, c, pieces, standard, same⟩ := pieces_declare type (word.not_mem (by decide))
  have blank : Text.pieces ' ' (' ' :: (type.declare name).toList) = [[], base, declarator] := by
    rw [← pieces]
    exact Text.pieces_append List.not_mem_nil _
  rw [declared_of_not_mem (word.not_mem (by decide))] at same
  constructor
  · simp only [typed?, pieces, standard, Option.map_some, same]
  · simp only [typed?, blank, standard, Option.map_some, same]

theorem pieces_intercalate {first : String} {rest : List String}
    (inside : ∀ part ∈ first :: rest, Spelled isDeclaratorChar part) :
    Text.pieces ',' (", ".intercalate (first :: rest)).toList =
      first.toList :: rest.map fun part => ' ' :: part.toList := by
  induction rest generalizing first with
  | nil =>
    rw [String.intercalate_singleton]
    exact Text.pieces_of_not_mem ((inside first (by simp)).not_mem (by decide))
  | cons next others ih =>
    have text : (", ".intercalate (first :: next :: others)).toList =
        first.toList ++ ',' :: (' ' :: (", ".intercalate (next :: others)).toList) := by
      rw [String.intercalate_cons_cons]
      simp
    have later := @ih next fun part member => inside part (List.mem_cons_of_mem _ member)
    rw [text, Text.pieces_append ((inside first (by simp)).not_mem (by decide)), Text.pieces, if_neg (by decide), later]
    rfl

theorem mapM_parameter?_blank {types : List CType} {names : List String}
    (words : ∀ name ∈ names, Spelled isIdentifierRest name) (length : names.length = types.length) :
    ((parameterTexts types names).map fun part => ' ' :: part.toList).mapM parameter? = some types := by
  induction types generalizing names with
  | nil => simp [parameterTexts]
  | cons type rest ih =>
    cases names with
    | nil => cases length
    | cons name others =>
      have first := (typed?_declare type (words name (by simp))).2
      have later := ih (fun other member => words other (by simp [member])) (Nat.succ.inj length)
      rw [parameterTexts, List.zipWith_cons_cons, List.map_cons, List.mapM_cons, ← parameterTexts, later]
      simp [parameter?, first]

theorem mapM_parameter? {types : List CType} {names : List String}
    (words : ∀ name ∈ names, Spelled isIdentifierRest name) (length : names.length = types.length)
    (nonempty : types ≠ []) :
    (Text.pieces ',' (", ".intercalate (parameterTexts types names)).toList).mapM parameter? = some types := by
  -- every parameter but the first is read after a blank
  cases types with
  | nil => exact absurd rfl nonempty
  | cons type rest =>
    cases names with
    | nil => cases length
    | cons name others =>
      have first := (typed?_declare type (words name (by simp))).1
      have later := mapM_parameter?_blank (fun other member => words other (by simp [member])) (Nat.succ.inj length)
      have inside := @spelled_parameterTexts (type :: rest) (name :: others) words
      rw [parameterTexts, List.zipWith_cons_cons, ← parameterTexts] at inside ⊢
      rw [pieces_intercalate inside, List.mapM_cons, later]
      simp [parameter?, first]

theorem read?_of_parts {line : String} {head inner name : List Char} {returns : CType} {types : List CType}
    (text : line.toList = head ++ '(' :: (inner ++ ')' :: [';'])) (outside : '(' ∉ head) (opens : '(' ∉ inner)
    (closes : ')' ∉ inner) (named : typed? head = some (name, returns))
    (parameters : (Text.pieces ',' inner).mapM parameter? = some types) :
    read? line = some (String.ofList name, ⟨returns, types⟩) := by
  have tail : '(' ∉ inner ++ ')' :: [';'] := by simp [opens]
  have semicolon : Text.pieces ')' [';'] = [[';']] := by decide
  simp [read?, text, Text.pieces_append outside, Text.pieces_of_not_mem tail, Text.pieces_append closes, semicolon,
    named, parameters]

theorem read?_text {p : Prototype} (wellFormed : p.WellFormed) : read? p.text = some p.entry := by
  obtain ⟨word, words, length, nonempty⟩ := wellFormed
  have head := p.signature.returns.spelled_declare (word.mono fun _ => isDeclaratorChar_of_rest)
  have inner : Spelled (fun c => isDeclaratorChar c || c == ',')
      (", ".intercalate (parameterTexts p.signature.parameters p.parameterNames)) :=
    Spelled.intercalate (by decide) fun part member =>
      (spelled_parameterTexts words part member).mono fun c known => by simp [known]
  have text : p.text.toList = (p.signature.returns.declare p.symbol).toList ++ '(' ::
      ((", ".intercalate (parameterTexts p.signature.parameters p.parameterNames)).toList ++ ')' :: [';']) := by
    simp [Prototype.text_eq]
  rw [read?_of_parts text (head.not_mem (by decide)) (inner.not_mem (by decide)) (inner.not_mem (by decide))
    (typed?_declare p.signature.returns word).1 (mapM_parameter? words length nonempty), String.ofList_toList]
  rfl

theorem mapM_read?_text {prototypes : List Prototype} (wellFormed : ∀ p ∈ prototypes, p.WellFormed) :
    (prototypes.map Prototype.text).mapM read? = some (prototypes.map Prototype.entry) := by
  induction prototypes with
  | nil => rfl
  | cons p rest ih =>
    have later := ih fun q member => wellFormed q (by simp [member])
    rw [List.map_cons, List.mapM_cons, read?_text (wellFormed p (by simp)), later]
    rfl

end Declaration

namespace Interface

def isDeclaration (line : String) : Bool := line.toList.getLast? == some ';'

def declarationLines (text : String) : List String := (Text.lines text).filter isDeclaration

theorem isDeclaration_of_not_mem {line : String} (free : ';' ∉ line.toList) : isDeclaration line = false := by
  have other : line.toList.getLast? ≠ some ';' := fun last => free (List.mem_of_getLast? last)
  exact beq_eq_false_iff_ne.mpr other

theorem isDeclaration_text (p : Prototype) : isDeclaration p.text = true := by
  rw [isDeclaration, Prototype.text_eq, String.toList_append, List.getLast?_append]
  rfl

theorem filter_block (prototypes : List Prototype) :
    ("" :: prototypes.map Prototype.text).filter isDeclaration = prototypes.map Prototype.text := by
  rw [List.filter_cons_of_neg (by decide), List.filter_eq_self]
  intro line member
  obtain ⟨p, -, rfl⟩ := List.mem_map.mp member
  exact isDeclaration_text p

theorem filter_body (i : Interface) : i.body.filter isDeclaration = i.prototypes.map Prototype.text := by
  have block : ∀ operation, (operationLines operation).filter isDeclaration =
      (OperandType.all.map fun t => (Routine.mk operation t).prototype).map Prototype.text := by
    intro operation
    rw [← filter_block, List.map_map]
    rfl
  have helpers : (if i.helpers then helperLines else []).filter isDeclaration =
      (if i.helpers then helperPrototypes else []).map Prototype.text := by
    split
    · exact filter_block helperPrototypes
    · rfl
  rw [body, prototypes, List.filter_append, List.filter_flatMap, List.map_append, helpers, Routine.all]
  simp only [block, List.map_flatMap, List.map_map]
  rfl

theorem declarationLines_text (i : Interface) : declarationLines i.text = i.prototypes.map Prototype.text := by
  obtain ⟨before, after, split, framed⟩ := i.lines_framed
  have frame : ∀ line ∈ before ++ after, ¬ isDeclaration line = true := by
    intro line member
    have free := (framed line member).not_mem (c := ';') (by decide)
    simp [isDeclaration_of_not_mem free]
  have opens := List.filter_eq_nil_iff.mpr fun line member => frame line (List.mem_append_left _ member)
  have closes := List.filter_eq_nil_iff.mpr fun line member => frame line (List.mem_append_right _ member)
  rw [declarationLines, lines_text, split, List.filter_append, List.filter_append, opens, closes, filter_body]
  simp

theorem routine_text (r : Routine) :
    r.prototype.text = "bool " ++ r.symbol ++ "(" ++ r.type.stdintName ++ " x, " ++ r.type.stdintName ++ " y, " ++
      r.type.stdintName ++ " *result);" := by
  apply String.toList_inj.mp
  simp [Prototype.text, Routine.prototype, CType.declare]

theorem conversion_text (t : OperandType) :
    t.conversionPrototype.text =
      t.stdintName ++ " ckd_utos_" ++ t.symbolName ++ "(" ++ t.unsignedType.stdintName ++ " v);" := by
  apply String.toList_inj.mp
  simp [Prototype.text, OperandType.conversionPrototype, CType.declare]

theorem helper_texts :
    helperPrototypes.map Prototype.text =
      ((OperandType.all.filter OperandType.signed).map fun t =>
        t.stdintName ++ " ckd_utos_" ++ t.symbolName ++ "(" ++ t.unsignedType.stdintName ++ " v);") ++
      ["int32_t ckd_legacy_add_i32(int32_t x, int32_t y, bool *overflow);",
        "int32_t ckd_legacy_sub_i32(int32_t x, int32_t y, bool *overflow);"] := by
  have legacy : legacyPrototypes.map Prototype.text =
      ["int32_t ckd_legacy_add_i32(int32_t x, int32_t y, bool *overflow);",
        "int32_t ckd_legacy_sub_i32(int32_t x, int32_t y, bool *overflow);"] := by decide
  rw [helperPrototypes, List.map_append, List.map_map, legacy]
  exact congrArg (· ++ _) (List.map_congr_left fun t _ => conversion_text t)

theorem symbol_ne_helper (r : Routine) {p : Prototype} (helper : p ∈ helperPrototypes) : r.symbol ≠ p.symbol := by
  -- the name of an operation has three letters, every other word there has more
  have checked : r.symbol.toList[7]? = some '_' := by
    obtain ⟨operation, t⟩ := r
    cases operation <;> simp [Routine.symbol, Operation.name]
  have other : ∀ q ∈ helperPrototypes, q.symbol.toList[7]? ≠ some '_' := by decide
  intro same
  exact other p helper (same ▸ checked)

theorem nodup_symbols (i : Interface) : (i.prototypes.map Prototype.symbol).Nodup := by
  have checked : ((Routine.all.map Routine.prototype).map Prototype.symbol).Nodup := by
    rw [List.map_map]
    exact List.Nodup.map (fun _ _ same => Routine.symbol_injective same) (by decide : Routine.all.Nodup)
  have helpers : (helperPrototypes.map Prototype.symbol).Nodup := by decide
  rw [prototypes, List.map_append]
  split
  · refine List.nodup_append.mpr ⟨checked, helpers, ?_⟩
    intro symbol member other listed
    rw [List.map_map] at member
    obtain ⟨r, -, rfl⟩ := List.mem_map.mp member
    obtain ⟨p, helper, rfl⟩ := List.mem_map.mp listed
    exact symbol_ne_helper r helper
  · simpa using checked

theorem routines_perm_exports :
    (Routine.all.map fun r => r.prototype.entry).Perm
      (OperandType.all.flatMap fun t => (Export.table t).map fun e => (e.symbol, e.signature)) := by
  have byType : (OperandType.all.flatMap fun t => (Export.table t).map fun e => (e.symbol, e.signature)) =
      OperandType.all.flatMap fun t => Operation.all.map fun operation => (Routine.mk operation t).prototype.entry := by
    simp only [Export.table_eq, List.map_map]
    rfl
  have byOperation : (Routine.all.map fun r => r.prototype.entry) =
      Operation.all.flatMap fun operation => OperandType.all.map fun t => (Routine.mk operation t).prototype.entry := by
    simp only [Routine.all, List.map_flatMap, List.map_map]
    rfl
  -- the two orders of one double enumeration: as multisets the sums commute
  rw [byType, byOperation, ← Multiset.coe_eq_coe, ← Multiset.coe_bind, ← Multiset.coe_bind]
  simp only [← Multiset.map_coe]
  exact Multiset.bind_map_comm _ _

theorem prototypes_perm_exported (guard : IncludeGuard) :
    ((Interface.mk guard true).prototypes.map Prototype.entry).Perm exportedSymbols := by
  have helpers : helperPrototypes.map Prototype.entry =
      Conversion.table.map (fun c => (c.symbol, c.signature)) ++
        Legacy.table.map (fun f => (f.symbol, f.signature)) := by
    decide
  rw [prototypes, List.map_append, List.map_map, if_pos rfl, helpers, exportedSymbols, List.append_assoc]
  exact routines_perm_exports.append_right _

end Interface

/-- Whatever the guard, the declarations of the header are one line for each routine of the catalogue and then, if asked
for, the conversions and the older helpers. Read as C, they are the exported symbols with the signatures of the
functions. -/
theorem header_declares_exports (i : Interface) :
    Interface.declarationLines i.text =
        (Routine.all.map fun r => "bool " ++ r.symbol ++ "(" ++ r.type.stdintName ++ " x, " ++ r.type.stdintName ++
          " y, " ++ r.type.stdintName ++ " *result);") ++
        (if i.helpers then
          ((OperandType.all.filter OperandType.signed).map fun t =>
            t.stdintName ++ " ckd_utos_" ++ t.symbolName ++ "(" ++ t.unsignedType.stdintName ++ " v);") ++
          ["int32_t ckd_legacy_add_i32(int32_t x, int32_t y, bool *overflow);",
            "int32_t ckd_legacy_sub_i32(int32_t x, int32_t y, bool *overflow);"]
        else []) ∧
      (Interface.declarationLines i.text).Nodup ∧
      ∃ declared, (Interface.declarationLines (Interface.mk i.guard true).text).mapM Declaration.read? = some declared ∧
        (declared.map Prod.fst).Nodup ∧ declared.Perm exportedSymbols := by
  have wellFormed : ∀ j : Interface, ∀ p ∈ j.prototypes, p.WellFormed := fun j p => Interface.prototypes_wellFormed
  refine ⟨?_, ?_, ?_⟩
  · have checked := List.map_congr_left fun r (_ : r ∈ Routine.all) => Interface.routine_text r
    rw [Interface.declarationLines_text, Interface.prototypes, List.map_append, List.map_map, ← checked]
    split
    · rw [Interface.helper_texts]
      rfl
    · rfl
  · rw [Interface.declarationLines_text]
    apply List.Nodup.of_map fun line => (Declaration.read? line).map Prod.fst
    have symbols : (i.prototypes.map Prototype.text).map (fun line => (Declaration.read? line).map Prod.fst) =
        (i.prototypes.map Prototype.symbol).map some := by
      rw [List.map_map, List.map_map]
      apply List.map_congr_left
      intro p member
      simp [Declaration.read?_text (wellFormed i p member), Prototype.entry]
    rw [symbols]
    exact (Interface.nodup_symbols i).map (Option.some_injective _)
  · refine ⟨_, ?_, ?_, Interface.prototypes_perm_exported i.guard⟩
    · rw [Interface.declarationLines_text]
      exact Declaration.mapM_read?_text (wellFormed _)
    · rw [List.map_map]
      exact Interface.nodup_symbols _

end ExactWord
