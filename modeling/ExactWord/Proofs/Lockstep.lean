import ExactWord.Proofs.Register

namespace ExactWord

variable {build : Build} {t : OperandType}

structure Update (t : OperandType) where
  operation : Operation
  operand : Word t.layout

namespace Update

def step (u : Update t) : Constant.Step := ⟨u.operation, none, some ⟨t, u.operand⟩⟩

def call? (u : Update t) : Option (Call t) :=
  (Export.ofType? t (Routine.symbol ⟨u.operation, t⟩)).map fun callee => ⟨callee, .slot, .word u.operand⟩

def result? (value : Int) (u : Update t) : Option Int := u.operation.result? value u.operand.toInt

/-- The exact value of the expression after each update; undefined from the first undefined result on. -/
def values (value : Option Int) : List (Update t) → List (Option Int)
  | [] => []
  | u :: rest => value.bind u.result? :: values (value.bind u.result?) rest

def fits (l : Layout) : Option Int → Bool
  | none => false
  | some e => decide (e ∈ l)

def call (u : Update t) : Call t := ⟨Export.ofRoutine ⟨u.operation, t⟩, .slot, .word u.operand⟩

theorem call?_eq (u : Update t) : u.call? = some u.call :=
  congrArg (Option.map _) (Export.ofType?_symbol ⟨u.operation, t⟩)

theorem mapM_call? (updates : List (Update t)) : updates.mapM call? = some (updates.map call) := by
  have every : (call? : Update t → Option (Call t)) = fun u => pure u.call := by
    funext u
    exact u.call?_eq
  rw [every, List.mapM_pure]
  rfl

theorem callee_listed (u : Update t) : u.call.callee ∈ Export.table t := by
  rw [Export.table_eq]
  exact List.mem_map.mpr ⟨u.operation, u.operation.mem_all, rfl⟩

theorem fits_of_outside {l : Layout} {value : Option Int} (outside : ∀ e, value = some e → e ∉ l) :
    fits l value = false := by
  cases value with
  | none => rfl
  | some e => exact decide_eq_false (outside e rfl)

theorem fits_word (word : Word t.layout) : fits t.layout (some word.toInt) = true :=
  decide_eq_true word.mem

theorem run_cases (build : Build) (x : Word t.layout) (u : Update t) :
    (fits t.layout (u.result? x.toInt) = false ∧ u.call.run build x = .ok ⟨true, x⟩ ∧
        u.step.run build ⟨t, x⟩ = .ok ⟨⟨t, .zero⟩, true⟩) ∨
      ∃ word : Word t.layout, u.result? x.toInt = some word.toInt ∧ u.call.run build x = .ok ⟨false, word⟩ ∧
        u.step.run build ⟨t, x⟩ = .ok ⟨⟨t, word⟩, false⟩ := by
  rcases Operation.apply_cases build t.bits_pos u.operation x u.operand with ⟨refused, outside⟩ | ⟨word, defined, held⟩
  · have called := Export.call_of_run (e := u.call.callee) refused x
    exact .inl ⟨fits_of_outside outside, called, Constant.fold_of_apply refused⟩
  · have called := Export.call_of_run (e := u.call.callee) held x
    exact .inr ⟨word, defined, called, Constant.fold_of_apply held⟩

end Update

theorem Constant.runAll_updates (build : Build) (x : Word t.layout) (updates : List (Update t)) :
    ∃ folded : List Folded, runAll build ⟨t, x⟩ (updates.map Update.step) = folded.map .ok ∧
      ∀ f ∈ folded, f.constant.type = t := by
  induction updates generalizing x with
  | nil => exact ⟨[], rfl, by simp⟩
  | cons u rest ih =>
    obtain ⟨checked, -, first⟩ := fold_eq build u.operation t x u.operand
    obtain ⟨later, continues, types⟩ := ih checked.value
    refine ⟨⟨⟨t, checked.value⟩, checked.overflow⟩ :: later, ?_, ?_⟩
    · have runs : u.step.run build ⟨t, x⟩ = .ok ⟨⟨t, checked.value⟩, checked.overflow⟩ := first
      simp only [List.map_cons, runAll, runs, next, continues]
    · intro f member
      rcases List.mem_cons.mp member with rfl | member
      · rfl
      · exact types f member

structure InStep (values : List (Option Int)) (folded : List Folded) (stored : List (Stored t))
    (words : List (Word t.layout)) : Prop where
  exact : values = words.map fun word => some word.toInt
  folding : folded = words.map fun word => ⟨⟨t, word⟩, false⟩
  calling : stored = words.map fun word => ⟨false, word⟩

theorem InStep.nil : InStep (t := t) [] [] [] [] := ⟨rfl, rfl, rfl⟩

theorem InStep.cons {values : List (Option Int)} {folded : List Folded} {stored : List (Stored t)}
    {words : List (Word t.layout)} (rest : InStep values folded stored words) (word : Word t.layout) :
    InStep (some word.toInt :: values) (⟨⟨t, word⟩, false⟩ :: folded) (⟨false, word⟩ :: stored) (word :: words) :=
  ⟨by rw [rest.exact, List.map_cons], by rw [rest.folding, List.map_cons], by rw [rest.calling, List.map_cons]⟩

/-- What the folder and the slot show, told by the first update whose exact result is undefined or out of range. Before
it they are in step; at it both raise the flag, the accumulator falls to zero and the slot keeps its content. -/
def PartAtOverflow (start : Word t.layout) (updates : List (Update t)) (folded : List Folded)
    (stored : List (Stored t)) : Prop :=
  match (Update.values (some start.toInt) updates).findIdx? (!Update.fits t.layout ·) with
  | none => ∃ words, InStep (Update.values (some start.toInt) updates) folded stored words
  | some k =>
    (∃ words, InStep ((Update.values (some start.toInt) updates).take k) (folded.take k) (stored.take k) words) ∧
      folded[k]? = some ⟨⟨t, .zero⟩, true⟩ ∧ stored[k]? = some ⟨true, Call.slotAfter start (stored.take k)⟩

theorem PartAtOverflow.of_refused {start : Word t.layout} {u : Update t}
    (outside : Update.fits t.layout (u.result? start.toInt) = false) (rest : List (Update t))
    (folded : List Folded) (stored : List (Stored t)) :
    PartAtOverflow start (u :: rest) (⟨⟨t, .zero⟩, true⟩ :: folded) (⟨true, start⟩ :: stored) := by
  simp only [PartAtOverflow, Update.values, Option.bind_some, List.findIdx?_cons, outside, Bool.not_false, if_true]
  exact ⟨⟨[], .nil⟩, rfl, rfl⟩

theorem PartAtOverflow.cons {start word : Word t.layout} {u : Update t}
    (defined : u.result? start.toInt = some word.toInt) {rest : List (Update t)} {folded : List Folded}
    {stored : List (Stored t)} (later : PartAtOverflow word rest folded stored) :
    PartAtOverflow start (u :: rest) (⟨⟨t, word⟩, false⟩ :: folded) (⟨false, word⟩ :: stored) := by
  unfold PartAtOverflow at later
  simp only [PartAtOverflow, Update.values, Option.bind_some, List.findIdx?_cons, defined, Update.fits_word,
    Bool.not_true, Bool.false_eq_true, if_false]
  cases found : (Update.values (some word.toInt) rest).findIdx? (!Update.fits t.layout ·) with
  | none =>
    rw [found] at later
    obtain ⟨words, agree⟩ := later
    exact ⟨word :: words, agree.cons word⟩
  | some k =>
    rw [found] at later
    obtain ⟨⟨words, agree⟩, falls, keeps⟩ := later
    exact ⟨⟨word :: words, agree.cons word⟩, falls, keeps⟩

theorem runs_part_at_overflow (start : Word t.layout) {updates : List (Update t)} {stored : List (Stored t)}
    {folded : List Folded} (called : Call.runAll build start (updates.map Update.call) = .ok stored)
    (folds : Constant.runAll build ⟨t, start⟩ (updates.map Update.step) = folded.map .ok) :
    PartAtOverflow start updates folded stored := by
  induction updates generalizing start stored folded with
  | nil =>
    cases called
    cases folded with
    | nil => exact ⟨[], .nil⟩
    | cons f later => cases folds
  | cons u rest ih =>
    obtain ⟨first, later, runs, continues, rfl⟩ := Call.runAll_cons_iff.mp called
    cases folded with
    | nil => cases folds
    | cons f others =>
      simp only [List.map_cons, Constant.runAll, List.cons.injEq] at folds
      obtain ⟨folding, goes⟩ := folds
      -- both runs stand at one word: after a refusal they go on from different ones, which is no longer looked at
      rcases Update.run_cases build start u with ⟨outside, flagged, zeroed⟩ | ⟨word, defined, stores, takes⟩
      · rw [flagged] at runs
        rw [zeroed] at folding
        cases runs
        cases folding
        exact .of_refused outside rest others later
      · rw [stores] at runs
        rw [takes] at folding goes
        cases runs
        cases folding
        exact .cons defined (ih word continues goes)

/-- The folder meets no mismatch and keeps the type, both runs reach their ends, and they are in step up to the first
overflow. -/
theorem folding_in_step_with_calls (build : Build) (start : Word t.layout) (updates : List (Update t)) :
    ∃ calls stored folded, updates.mapM Update.call? = some calls ∧ Call.runAll build start calls = .ok stored ∧
      Constant.runAll build ⟨t, start⟩ (updates.map Update.step) = folded.map .ok ∧
      (∀ f ∈ folded, f.constant.type = t) ∧ PartAtOverflow start updates folded stored := by
  have listed : ∀ c ∈ updates.map Update.call, c.callee ∈ Export.table t := by
    intro c member
    obtain ⟨u, -, rfl⟩ := List.mem_map.mp member
    exact u.callee_listed
  obtain ⟨-, stored, -, called, -⟩ := Call.runAll_follows build start listed
  obtain ⟨folded, folds, types⟩ := Constant.runAll_updates build start updates
  exact ⟨updates.map Update.call, stored, folded, Update.mapM_call? updates, called, folds, types,
    runs_part_at_overflow start called folds⟩

end ExactWord
