import ExactWord.Proofs.Folding

namespace ExactWord

namespace Register

inductive Source where
  | register
  | integer (value : Int)
deriving DecidableEq

def Source.read (register : Int) : Source → Int
  | .register => register
  | .integer value => value

structure Command where
  operation : Operation
  left : Source
  right : Source
deriving DecidableEq

structure Reading where
  overflow : Bool
  register : Int
deriving DecidableEq

/-- Moves the exact result into the register. Where it is undefined or outside the layout, reports overflow and keeps
the register. -/
def step (l : Layout) (register : Int) (c : Command) : Reading :=
  match c.operation.result? (c.left.read register) (c.right.read register) with
  | none => ⟨true, register⟩
  | some e => if e ∈ l then ⟨false, e⟩ else ⟨true, register⟩

def runAll (l : Layout) (register : Int) : List Command → List Reading
  | [] => []
  | c :: rest => step l register c :: runAll l (step l register c).register rest

variable {l : Layout} {register : Int} {c : Command}

theorem step_of_not_mem
    (outside : ∀ e, c.operation.result? (c.left.read register) (c.right.read register) = some e → e ∉ l) :
    step l register c = ⟨true, register⟩ := by
  unfold step
  split
  · rfl
  · rename_i e result
    rw [if_neg (outside e result)]

theorem step_of_mem {e : Int}
    (result : c.operation.result? (c.left.read register) (c.right.read register) = some e) (mem : e ∈ l) :
    step l register c = ⟨false, e⟩ := by
  simp only [step, result, if_pos mem]

end Register

variable {build : Build} {t : OperandType}

def Routine.ofSymbol? (symbol : String) : Option Routine := all.find? (·.symbol == symbol)

theorem Routine.ofSymbol?_symbol (r : Routine) : ofSymbol? r.symbol = some r := by
  cases found : ofSymbol? r.symbol with
  | none =>
    have absent := List.find?_eq_none.mp found r r.mem_all
    simp at absent
  | some s =>
    have same := List.find?_some found
    rw [symbol_injective (beq_iff_eq.mp same)]

def Operand.source : Operand t → Register.Source
  | .slot => .register
  | .word value => .integer value.toInt

theorem Operand.read_source (slot : Word t.layout) (o : Operand t) :
    o.source.read slot.toInt = (o.read slot).toInt := by
  cases o <;> rfl

def Stored.reading (s : Stored t) : Register.Reading := ⟨s.overflow, s.slot.toInt⟩

namespace Export

theorem call_cases (build : Build) (r : Routine) (x y slot : Word r.type.layout) :
    ((ofRoutine r).call build x y (some slot) = .ok ⟨true, slot⟩ ∧
        ∀ e, r.operation.result? x.toInt y.toInt = some e → e ∉ r.type.layout) ∨
      ∃ word : Word r.type.layout, r.operation.result? x.toInt y.toInt = some word.toInt ∧
        (ofRoutine r).call build x y (some slot) = .ok ⟨false, word⟩ := by
  rcases Operation.apply_cases build r.type.bits_pos r.operation x y with ⟨refused, outside⟩ | ⟨word, defined, held⟩
  · exact .inl ⟨call_of_run (e := ofRoutine r) refused slot, outside⟩
  · exact .inr ⟨word, defined, call_of_run (e := ofRoutine r) held slot⟩

end Export

namespace Call

def command? (c : Call t) : Option Register.Command :=
  (Routine.ofSymbol? c.callee.symbol).map fun r => ⟨r.operation, c.left.source, c.right.source⟩

theorem run_follows (build : Build) {c : Call t} (listed : c.callee ∈ Export.table t) (slot : Word t.layout) :
    ∃ command stored, c.command? = some command ∧ c.run build slot = .ok stored ∧
      stored.reading = Register.step t.layout slot.toInt command ∧
      (stored.overflow = true → stored.slot = slot) := by
  obtain ⟨callee, left, right⟩ := c
  rw [Export.table_eq] at listed
  obtain ⟨operation, -, rfl⟩ := List.mem_map.mp listed
  have named : command? ⟨Export.ofRoutine ⟨operation, t⟩, left, right⟩ =
      some ⟨operation, left.source, right.source⟩ :=
    congrArg (Option.map _) (Routine.ofSymbol?_symbol ⟨operation, t⟩)
  rcases Export.call_cases build ⟨operation, t⟩ (left.read slot) (right.read slot) slot with
    ⟨refused, outside⟩ | ⟨word, defined, held⟩
  · refine ⟨_, _, named, refused, ?_, fun _ => rfl⟩
    rw [Register.step_of_not_mem (by simpa only [Operand.read_source] using outside)]
    rfl
  · refine ⟨_, _, named, held, ?_, Bool.noConfusion⟩
    rw [Register.step_of_mem (by simpa only [Operand.read_source] using defined) word.mem]
    rfl

def slotAfter (slot : Word t.layout) : List (Stored t) → Word t.layout
  | [] => slot
  | stored :: later => slotAfter stored.slot later

theorem runAll_cons_iff {slot : Word t.layout} {c : Call t} {rest : List (Call t)} {results : List (Stored t)} :
    runAll build slot (c :: rest) = .ok results ↔
      ∃ stored later, c.run build slot = .ok stored ∧ runAll build stored.slot rest = .ok later ∧
        results = stored :: later := by
  constructor
  · intro runs
    cases first : c.run build slot with
    | error why => simp [runAll, first, bind, Except.bind] at runs
    | ok stored =>
      cases second : runAll build stored.slot rest with
      | error why => simp [runAll, first, second, bind, Except.bind] at runs
      | ok later =>
        simp only [runAll, first, second, bind, Except.bind, pure, Except.pure] at runs
        cases runs
        exact ⟨stored, later, rfl, second, rfl⟩
  · rintro ⟨stored, later, first, second, rfl⟩
    simp only [runAll, first, second, bind, Except.bind, pure, Except.pure]

theorem runAll_append {slot : Word t.layout} {before after : List (Call t)} {earlier later : List (Stored t)}
    (first : runAll build slot before = .ok earlier)
    (second : runAll build (slotAfter slot earlier) after = .ok later) :
    runAll build slot (before ++ after) = .ok (earlier ++ later) := by
  induction before generalizing slot earlier with
  | nil =>
    cases first
    exact second
  | cons c rest ih =>
    obtain ⟨stored, others, runs, continues, rfl⟩ := runAll_cons_iff.mp first
    exact runAll_cons_iff.mpr ⟨stored, others ++ later, runs, ih continues second, rfl⟩

theorem runAll_follows (build : Build) (slot : Word t.layout) {calls : List (Call t)}
    (listed : ∀ c ∈ calls, c.callee ∈ Export.table t) :
    ∃ commands stored, calls.mapM command? = some commands ∧ runAll build slot calls = .ok stored ∧
      stored.map Stored.reading = Register.runAll t.layout slot.toInt commands := by
  -- the slot is general: the register starts every call from whatever the calls before it left behind
  induction calls generalizing slot with
  | nil => exact ⟨[], [], rfl, rfl, rfl⟩
  | cons c rest ih =>
    obtain ⟨command, stored, named, runs, agrees, -⟩ := run_follows build (listed c (by simp)) slot
    obtain ⟨commands, later, others, continues, follow⟩ := ih stored.slot fun d member => listed d (by simp [member])
    refine ⟨command :: commands, stored :: later, ?_, runAll_cons_iff.mpr ⟨stored, later, runs, continues, rfl⟩, ?_⟩
    · simp [List.mapM_cons, named, others]
    · have register : stored.slot.toInt = (Register.step t.layout slot.toInt command).register :=
        congrArg Register.Reading.register agrees
      rw [List.map_cons, follow, agrees, register]
      rfl

end Call

/-- Every sequence of calls over one slot runs to its end and shows the flags and contents that the register shows. A
flagged call leaves the slot as the calls before it left it, and the calls after it go on from there. -/
theorem calls_follow_register (build : Build) (slot : Word t.layout) (calls : List (Call t))
    (listed : ∀ c ∈ calls, c.callee ∈ Export.table t) :
    ∃ commands stored, calls.mapM Call.command? = some commands ∧ Call.runAll build slot calls = .ok stored ∧
      stored.map Stored.reading = Register.runAll t.layout slot.toInt commands ∧
      ∀ before c after, calls = before ++ c :: after → ∃ earlier result later,
        Call.runAll build slot before = .ok earlier ∧ c.run build (Call.slotAfter slot earlier) = .ok result ∧
        Call.runAll build result.slot after = .ok later ∧ stored = earlier ++ result :: later ∧
        (result.overflow = true → result.slot = Call.slotAfter slot earlier) := by
  obtain ⟨commands, stored, named, runs, follows⟩ := Call.runAll_follows build slot listed
  refine ⟨commands, stored, named, runs, follows, ?_⟩
  rintro before c after rfl
  have listedBefore : ∀ d ∈ before, d.callee ∈ Export.table t := fun d member => listed d (by simp [member])
  have listedAfter : ∀ d ∈ after, d.callee ∈ Export.table t := fun d member => listed d (by simp [member])
  obtain ⟨-, earlier, -, first, -⟩ := Call.runAll_follows build slot listedBefore
  obtain ⟨-, result, -, second, -, kept⟩ := Call.run_follows build (listed c (by simp)) (Call.slotAfter slot earlier)
  obtain ⟨-, later, -, third, -⟩ := Call.runAll_follows build result.slot listedAfter
  have whole := Call.runAll_append first (Call.runAll_cons_iff.mpr ⟨result, later, second, third, rfl⟩)
  rw [runs] at whole
  exact ⟨earlier, result, later, first, second, third, Except.ok.inj whole, kept⟩

def failingCalls : List (Call .i8) :=
  [⟨.ofRoutine ⟨.add, .i8⟩, .slot, .slot⟩, ⟨.ofRoutine ⟨.div, .i8⟩, .slot, .word .zero⟩,
    ⟨.ofRoutine ⟨.rem, .i8⟩, .slot, .word ⟨7, by decide⟩⟩]

theorem failingCalls_follow_register :
    (∀ c ∈ failingCalls, c.callee ∈ Export.table .i8) ∧
      ∃ stored, Call.runAll .standard ⟨100, by decide⟩ failingCalls = .ok stored ∧
        stored.map Stored.reading = [⟨true, 100⟩, ⟨true, 100⟩, ⟨false, 2⟩] := by
  have listed : ∀ c ∈ failingCalls, c.callee ∈ Export.table .i8 := by
    simp [failingCalls, Export.table_eq, Operation.all]
  obtain ⟨commands, stored, named, runs, follows, -⟩ :=
    calls_follow_register .standard ⟨100, by decide⟩ failingCalls listed
  have spelled : failingCalls.mapM Call.command? =
      some [⟨.add, .register, .register⟩, ⟨.div, .register, .integer 0⟩, ⟨.rem, .register, .integer 7⟩] := by
    decide
  refine ⟨listed, stored, runs, ?_⟩
  rw [follows, Option.some.inj (named.symm.trans spelled)]
  decide

end ExactWord
