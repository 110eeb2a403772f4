import ExactWord.Proofs.Declarations

namespace ExactWord

namespace InclusionLine

theorem after?_append (start rest : String) : after? start (start ++ rest) = some rest := by
  have starts : start.toList.isPrefixOf (start ++ rest).toList = true := by
    rw [String.toList_append, List.isPrefixOf_iff_prefix]
    exact List.prefix_append _ _
  rw [after?, if_pos starts, String.toList_append, ← String.length_toList, List.drop_left, String.ofList_toList]

theorem after?_of_not_mem {start line : String} {c : Char} (needed : c ∈ start.toList) (free : c ∉ line.toList) :
    after? start line = none := by
  have other : ¬ start.toList.isPrefixOf line.toList = true := by
    intro starts
    exact free ((List.isPrefixOf_iff_prefix.mp starts).subset needed)
  rw [after?, if_neg other]

theorem ofLine_of_not_mem {line : String} (free : '#' ∉ line.toList) : ofLine line = .other := by
  have none : ∀ start : String, '#' ∈ start.toList → after? start line = Option.none :=
    fun start needed => after?_of_not_mem needed free
  simp [ofLine, none "#ifdef " (by decide), none "#ifndef " (by decide), none "#define " (by decide),
    none "#endif" (by decide)]

theorem ofLine_ifndef (name : String) : ofLine ("#ifndef " ++ name) = .ifNotDefined name := by
  have other : after? "#ifdef " ("#ifndef " ++ name) = none := by simp [after?]
  simp [ofLine, other, after?_append]

theorem ofLine_define (name : String) : ofLine ("#define " ++ name) = .define name := by
  have first : after? "#ifdef " ("#define " ++ name) = none := by simp [after?]
  have second : after? "#ifndef " ("#define " ++ name) = none := by simp [after?]
  simp [ofLine, first, second, after?_append]

theorem ofLine_endif (rest : String) : ofLine ("#endif" ++ rest) = .endIf := by
  have first : after? "#ifdef " ("#endif" ++ rest) = none := by simp [after?]
  have second : after? "#ifndef " ("#endif" ++ rest) = none := by simp [after?]
  have third : after? "#define " ("#endif" ++ rest) = none := by simp [after?]
  simp [ofLine, first, second, third, after?_append]

end InclusionLine

namespace Inclusion

open InclusionLine

def keep (s : Inclusion) (lines : List String) : Inclusion :=
  if s.isActive then { s with kept := s.kept ++ lines } else s

theorem keep_of_active {s : Inclusion} (active : s.isActive = true) (lines : List String) :
    s.keep lines = { s with kept := s.kept ++ lines } := if_pos active

theorem keep_of_inactive {s : Inclusion} (inactive : s.isActive = false) (lines : List String) : s.keep lines = s :=
  if_neg (by simp [inactive])

theorem keep_append (s : Inclusion) (first second : List String) :
    (s.keep first).keep second = s.keep (first ++ second) := by
  cases active : s.isActive with
  | true =>
    have still : (s.keep first).isActive = true := by rw [keep_of_active active]; exact active
    rw [keep_of_active still, keep_of_active active, keep_of_active active, List.append_assoc]
  | false => rw [keep_of_inactive active, keep_of_inactive active, keep_of_inactive active]

theorem keep_nil (s : Inclusion) : s.keep [] = s := by
  cases active : s.isActive with
  | true => rw [keep_of_active active, List.append_nil]
  | false => exact keep_of_inactive active []

theorem defined_keep (s : Inclusion) (lines : List String) : (s.keep lines).defined = s.defined := by
  unfold keep
  split <;> rfl

theorem conditions_keep (s : Inclusion) (lines : List String) : (s.keep lines).conditions = s.conditions := by
  unfold keep
  split <;> rfl

def Reads (s : Inclusion) (lines : List String) (after : Inclusion) : Prop := lines.foldlM line? s = some after

theorem Reads.nil (s : Inclusion) : Reads s [] s := rfl

theorem Reads.cons {s middle last : Inclusion} {line : String} {lines : List String}
    (first : s.line? line = some middle) (second : Reads middle lines last) : Reads s (line :: lines) last := by
  rw [Reads, List.foldlM_cons, first]
  exact second

theorem Reads.append {s middle last : Inclusion} {before after : List String} (first : Reads s before middle)
    (second : Reads middle after last) : Reads s (before ++ after) last := by
  rw [Reads, List.foldlM_append, first]
  exact second

theorem reads_others {lines : List String} (others : ∀ line ∈ lines, ofLine line = .other) (s : Inclusion) :
    Reads s lines (s.keep lines) := by
  induction lines generalizing s with
  | nil =>
    rw [keep_nil]
    exact .nil s
  | cons line rest ih =>
    have first : s.line? line = some (s.keep [line]) := by simp [line?, others line (by simp), keep]
    have later := ih (fun other member => others other (by simp [member])) (s.keep [line])
    rw [keep_append] at later
    exact .cons first later

def enter (s : Inclusion) (condition : Bool) : Inclusion := { s with conditions := condition :: s.conditions }

theorem Reads.conditional {s last : Inclusion} {condition : Bool} {start stop : String} {lines : List String}
    (opens : s.line? start = some (s.enter condition)) (inner : Reads (s.enter condition) lines last)
    (level : last.conditions = condition :: s.conditions) (closes : ofLine stop = .endIf) :
    Reads s (start :: (lines ++ [stop])) { last with conditions := s.conditions } := by
  have ends : last.line? stop = some { last with conditions := s.conditions } := by simp [line?, closes, level]
  exact .cons opens (inner.append (.cons ends (.nil _)))

theorem leave_keep (s : Inclusion) (condition : Bool) (lines : List String) :
    { (s.enter condition).keep lines with conditions := s.conditions } = s.keep (if condition then lines else []) := by
  have active : (s.enter condition).isActive = (condition && s.isActive) := by simp [enter, isActive]
  cases condition with
  | false => rw [keep_of_inactive (by simp [active]), if_neg (by simp), keep_nil]; rfl
  | true =>
    rw [if_pos rfl]
    cases outer : s.isActive with
    | true => rw [keep_of_active (by simp [active, outer]), keep_of_active outer]; rfl
    | false => rw [keep_of_inactive (by simp [active, outer]), keep_of_inactive outer]; rfl

/-- In every state the lines keep what is shown to compilers with or without the macro, and change nothing else. -/
def Shows (name : String) (lines : List String) (shown : Bool → List String) : Prop :=
  ∀ s : Inclusion, Reads s lines (s.keep (shown (s.defined.contains name)))

theorem Shows.append {name : String} {before after : List String} {first second : Bool → List String}
    (left : Shows name before first) (right : Shows name after second) :
    Shows name (before ++ after) fun known => first known ++ second known := by
  intro s
  have later := right (s.keep (first (s.defined.contains name)))
  rw [defined_keep, keep_append] at later
  exact (left s).append later

theorem shows_others {lines : List String} (others : ∀ line ∈ lines, ofLine line = .other) (name : String) :
    Shows name lines fun _ => lines :=
  reads_others others

theorem shows_ifdef {start name stop : String} {lines : List String} (opens : ofLine start = .ifDefined name)
    (others : ∀ line ∈ lines, ofLine line = .other) (closes : ofLine stop = .endIf) :
    Shows name (start :: (lines ++ [stop])) fun known => if known then lines else [] := by
  intro s
  have enters : s.line? start = some (s.enter (s.defined.contains name)) := by simp [line?, opens, enter]
  rw [← leave_keep]
  exact .conditional enters (reads_others others _) (conditions_keep _ _) closes

end Inclusion

namespace Interface

open Inclusion InclusionLine

def content (i : Interface) (linkage : Bool) : List String :=
  (includes ++ if linkage then [linkageStart] else []) ++ i.body ++
    ([""] ++ (if linkage then [linkageEnd] else []) ++ [""])

theorem lines_eq (i : Interface) :
    i.lines = comment :: ("#ifndef " ++ i.guard.name) :: ((("#define " ++ i.guard.name) :: i.guarded) ++ i.closing) :=
  rfl

theorem ofLine_body {i : Interface} {line : String} (member : line ∈ i.body) : ofLine line = .other := by
  rcases body_cases member with rfl | ⟨p, listed, rfl⟩
  · decide
  · exact ofLine_of_not_mem ((Prototype.spelled_text (prototypes_wellFormed listed)).not_mem (by decide))

theorem shows_forCPlusPlus {line : String} (other : ofLine line = .other) :
    Shows "__cplusplus" (forCPlusPlus line) fun known => if known then [line] else [] := by
  show Shows "__cplusplus" ("#ifdef __cplusplus" :: ([line] ++ ["#endif"])) _
  exact shows_ifdef (by decide) (by simpa using other) (by decide)

theorem shows_guarded (i : Interface) : Shows "__cplusplus" i.guarded i.content := by
  have included : ∀ line ∈ includes, ofLine line = .other := by decide
  have blank : ∀ line ∈ [""], ofLine line = .other := by decide
  have start := (shows_others included _).append (@shows_forCPlusPlus linkageStart (by decide))
  have declarations := shows_others (fun _ => ofLine_body (i := i)) "__cplusplus"
  have stop := ((shows_others blank _).append (@shows_forCPlusPlus linkageEnd (by decide))).append
    (shows_others blank _)
  exact (start.append declarations).append stop

theorem ofLine_last (guard : String) : ofLine ("#endif /* " ++ guard ++ " */") = .endIf := by
  have split : "#endif /* " ++ guard ++ " */" = "#endif" ++ (" /* " ++ guard ++ " */") := by
    apply String.toList_inj.mp
    simp
  rw [split, ofLine_endif]

theorem include?_of_guarded {i : Interface} {defined : List String} {fresh : Bool} {last : Inclusion}
    (guard : (!defined.contains i.guard.name) = fresh)
    (inner : Reads ⟨defined, [fresh], [comment]⟩ (("#define " ++ i.guard.name) :: i.guarded) last)
    (level : last.conditions = [fresh]) : include? defined i.lines = some { last with conditions := [] } := by
  have commented : Inclusion.line? ⟨defined, [], []⟩ comment = some ⟨defined, [], [comment]⟩ := by
    have other : ofLine comment = .other := by decide
    simp [line?, other, isActive]
  have enters : Inclusion.line? ⟨defined, [], [comment]⟩ ("#ifndef " ++ i.guard.name) =
      some (enter ⟨defined, [], [comment]⟩ fresh) := by
    simp [line?, ofLine_ifndef, enter, ← guard]
  rw [lines_eq]
  exact Reads.cons commented (.conditional enters inner level (ofLine_last i.guard.name))

theorem include?_first {i : Interface} {defined : List String} (fresh : i.guard.name ∉ defined) :
    include? defined i.lines = some ⟨i.guard.name :: defined, [],
      comment :: i.content ((i.guard.name :: defined).contains "__cplusplus")⟩ := by
  have guard : (!defined.contains i.guard.name) = true := by simpa using fresh
  have defines : Inclusion.line? ⟨defined, [true], [comment]⟩ ("#define " ++ i.guard.name) =
      some ⟨i.guard.name :: defined, [true], [comment]⟩ := by
    simp [line?, ofLine_define, isActive]
  -- the guard is defined before any line asks for the language, so it counts there
  have inner := Reads.cons defines (i.shows_guarded _)
  rw [keep_of_active rfl] at inner
  exact include?_of_guarded guard inner rfl

theorem include?_again {i : Interface} {defined : List String} (present : i.guard.name ∈ defined) :
    include? defined i.lines = some ⟨defined, [], [comment]⟩ := by
  have guard : (!defined.contains i.guard.name) = false := by simpa using present
  have ignores : Inclusion.line? ⟨defined, [false], [comment]⟩ ("#define " ++ i.guard.name) =
      some ⟨defined, [false], [comment]⟩ := by
    simp [line?, ofLine_define, isActive]
  have inner := Reads.cons ignores (i.shows_guarded _)
  rw [keep_of_inactive rfl] at inner
  exact include?_of_guarded guard inner rfl

theorem filter_content (i : Interface) (linkage : Bool) :
    (comment :: i.content linkage).filter isDeclaration = declarationLines i.text := by
  have first : (comment :: (includes ++ if linkage then [linkageStart] else [])).filter isDeclaration = [] := by
    cases linkage <;> decide
  have last : ([""] ++ (if linkage then [linkageEnd] else []) ++ [""]).filter isDeclaration = [] := by
    cases linkage <;> decide
  rw [declarationLines_text, ← filter_body, content, ← List.cons_append, ← List.cons_append, List.filter_append,
    List.filter_append, first, last, List.nil_append, List.append_nil]

theorem not_mem_body {i : Interface} {line : String} {c : Char} (inside : c ∈ line.toList)
    (other : isPrototypeChar c = false) : line ∉ i.body := by
  intro member
  rcases body_cases member with rfl | ⟨p, listed, rfl⟩
  · simp at inside
  · exact (Prototype.spelled_text (prototypes_wellFormed listed)).not_mem other inside

theorem linkage_mem_content (i : Interface) (linkage : Bool) :
    ("extern \"C\" \x7b" ∈ comment :: i.content linkage ↔ linkage = true) ∧
      ("\x7d" ∈ comment :: i.content linkage ↔ linkage = true) := by
  have opens : "extern \"C\" \x7b" ∉ i.body := not_mem_body (c := '"') (by decide) (by decide)
  have closes : "\x7d" ∉ i.body := not_mem_body (c := '\x7d') (by decide) (by decide)
  cases linkage <;> simp [content, comment, includes, linkageStart, linkageEnd, opens, closes]

end Interface

/-- Where the guard is not yet defined, the header shows its inclusions and all of its declarations, and the linkage
lines to C++ and to nobody else, unless the guard is the very macro that tells C++ apart. From then on it shows only
its comment. -/
theorem include_guard_admits_once (i : Interface) (defined : List String) (fresh : i.guard.name ∉ defined) :
    ∃ first second, Inclusion.include? defined (Text.lines i.text) = some first ∧ first.conditions = [] ∧
      "#include <stdbool.h>" ∈ first.kept ∧ "#include <stdint.h>" ∈ first.kept ∧
      first.kept.filter Interface.isDeclaration = Interface.declarationLines i.text ∧
      ("extern \"C\" \x7b" ∈ first.kept ↔ "__cplusplus" ∈ defined ∨ i.guard.name = "__cplusplus") ∧
      ("\x7d" ∈ first.kept ↔ "__cplusplus" ∈ defined ∨ i.guard.name = "__cplusplus") ∧
      Inclusion.include? first.defined (Text.lines i.text) = some second ∧ second.conditions = [] ∧
      second.kept = ["/* Generated by ckd-header. Do not edit. */"] := by
  have language : (i.guard.name :: defined).contains "__cplusplus" = true ↔
      "__cplusplus" ∈ defined ∨ i.guard.name = "__cplusplus" := by
    rw [List.contains_iff_mem, List.mem_cons, or_comm]
    exact or_congr Iff.rfl ⟨Eq.symm, Eq.symm⟩
  have linkage := i.linkage_mem_content ((i.guard.name :: defined).contains "__cplusplus")
  rw [language] at linkage
  refine ⟨⟨i.guard.name :: defined, [],
      Interface.comment :: i.content ((i.guard.name :: defined).contains "__cplusplus")⟩,
    ⟨i.guard.name :: defined, [], [Interface.comment]⟩, ?_, rfl, ?_, ?_, i.filter_content _, linkage.1, linkage.2, ?_,
    rfl, rfl⟩
  · rw [Interface.lines_text]
    exact Interface.include?_first fresh
  · simp [Interface.content, Interface.includes]
  · simp [Interface.content, Interface.includes]
  · rw [Interface.lines_text]
    exact Interface.include?_again List.mem_cons_self

theorem standard_admitted_once :
    IncludeGuard.standardName ∉ ["__cplusplus"] ∧
      ∃ first second, Inclusion.include? ["__cplusplus"] (Text.lines Interface.standard.text) = some first ∧
        "extern \"C\" \x7b" ∈ first.kept ∧
        Inclusion.include? first.defined (Text.lines Interface.standard.text) = some second ∧
        second.kept = ["/* Generated by ckd-header. Do not edit. */"] := by
  have fresh : IncludeGuard.standardName ∉ ["__cplusplus"] := by decide
  obtain ⟨first, second, once, -, -, -, -, linkage, -, again, -, rest⟩ :=
    include_guard_admits_once Interface.standard ["__cplusplus"] fresh
  exact ⟨fresh, first, second, once, linkage.mpr (.inl (by decide)), again, rest⟩

def cplusplusGuarded : Interface := ⟨⟨"__cplusplus", by decide⟩, true⟩

/-- The guard `__cplusplus` is accepted, and with it the first inclusion shows the linkage lines to C too. -/
theorem cplusplus_guard_shows_linkage :
    Interface.ofName "__cplusplus" true = .ok cplusplusGuarded ∧ cplusplusGuarded.guard.name ∉ ([] : List String) ∧
      ∃ first, Inclusion.include? [] (Text.lines cplusplusGuarded.text) = some first ∧
        ¬ ("extern \"C\" \x7b" ∈ first.kept ↔ "__cplusplus" ∈ ([] : List String)) ∧
        ¬ ("\x7d" ∈ first.kept ↔ "__cplusplus" ∈ ([] : List String)) := by
  have fresh : cplusplusGuarded.guard.name ∉ ([] : List String) := List.not_mem_nil
  have linkage := cplusplusGuarded.linkage_mem_content true
  refine ⟨rfl, fresh, ⟨["__cplusplus"], [], Interface.comment :: cplusplusGuarded.content true⟩, ?_, ?_, ?_⟩
  · rw [Interface.lines_text]
    exact Interface.include?_first fresh
  · simp [linkage.1]
  · simp [linkage.2]

end ExactWord
