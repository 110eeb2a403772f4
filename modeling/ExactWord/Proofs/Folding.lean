import ExactWord.Constant
import ExactWord.Proofs.Catalogue
import ExactWord.Proofs.Exactness

namespace ExactWord

namespace Constant

variable {build : Build}

theorem wordAs?_self (t : OperandType) (word : Word t.layout) : wordAs? t ⟨t, word⟩ = some word :=
  dif_pos rfl

theorem fold_of_ne {a b : Constant} (different : a.type ≠ b.type) (operation : Operation) :
    fold build operation a b = .error (.mismatch ⟨a.type, b.type⟩) := by
  have absent : b.wordAs? a.type = none := dif_neg (Ne.symm different)
  rw [fold, absent]

theorem fold_of_apply {operation : Operation} {t : OperandType} {x y : Word t.layout} {checked : Checked t.layout}
    (applied : operation.apply build x y = .ok checked) :
    fold build operation ⟨t, x⟩ ⟨t, y⟩ = .ok ⟨⟨t, checked.value⟩, checked.overflow⟩ := by
  simp only [fold, wordAs?_self, applied]

theorem fold_eq (build : Build) (operation : Operation) (t : OperandType) (x y : Word t.layout) :
    ∃ checked : Checked t.layout, operation.apply build x y = .ok checked ∧
      fold build operation ⟨t, x⟩ ⟨t, y⟩ = .ok ⟨⟨t, checked.value⟩, checked.overflow⟩ := by
  have applied := Operation.apply_eq build t.bits_pos operation x y
  exact ⟨_, applied, fold_of_apply applied⟩

theorem fold_error_iff (build : Build) (operation : Operation) (a b : Constant) (error : FoldError) :
    fold build operation a b = .error error ↔ a.type ≠ b.type ∧ error = .mismatch ⟨a.type, b.type⟩ := by
  by_cases same : a.type = b.type
  · obtain ⟨t, x⟩ := a
    obtain ⟨u, y⟩ := b
    cases same
    obtain ⟨checked, -, folded⟩ := fold_eq build operation t x y
    rw [folded]
    constructor
    · intro failed
      cases failed
    · rintro ⟨different, -⟩
      exact absurd rfl different
  · rw [fold_of_ne same operation]
    constructor
    · intro failed
      cases failed
      exact ⟨same, rfl⟩
    · rintro ⟨-, rfl⟩
      rfl

end Constant

theorem Export.call_of_run {build : Build} {t : OperandType} {e : Export t} {x y : Word t.layout}
    {checked : Checked t.layout} (runs : e.builtin.run build x y = .ok checked) (slot : Word t.layout) :
    e.call build x y (some slot) = .ok ⟨checked.overflow, if checked.overflow then slot else checked.value⟩ := by
  simp only [call, runs]

/-- Folding fails on operands of different types only; on operands of one type it returns what the routine of that
name returns, and what the C function of that symbol returns and stores. -/
theorem fold_agrees_with_calls (build : Build) (operation : Operation) :
    (∀ (a b : Constant) (error : FoldError),
      Constant.fold build operation a b = .error error ↔ a.type ≠ b.type ∧ error = .mismatch ⟨a.type, b.type⟩) ∧
    ∀ (t : OperandType) (x y slot : Word t.layout),
      ∃ (value : Word t.layout) (overflow : Bool) (routine : Builtin t) (function : Export t),
        Constant.fold build operation ⟨t, x⟩ ⟨t, y⟩ = .ok ⟨⟨t, value⟩, overflow⟩ ∧
        Builtin.find? (Routine.name ⟨operation, t⟩) = some ⟨t, routine⟩ ∧
        routine.run build x y = .ok ⟨value, overflow⟩ ∧
        Export.find? (Routine.symbol ⟨operation, t⟩) = some ⟨t, function⟩ ∧
        function.call build x y (some slot) = .ok ⟨overflow, if overflow then slot else value⟩ := by
  refine ⟨Constant.fold_error_iff build operation, ?_⟩
  intro t x y slot
  obtain ⟨⟨value, overflow⟩, applied, folded⟩ := Constant.fold_eq build operation t x y
  have runs : (Export.ofRoutine ⟨operation, t⟩).builtin.run build x y = .ok ⟨value, overflow⟩ := applied
  exact ⟨value, overflow, Builtin.ofRoutine ⟨operation, t⟩, Export.ofRoutine ⟨operation, t⟩, folded,
    Builtin.find?_name ⟨operation, t⟩, applied, Export.find?_symbol ⟨operation, t⟩, Export.call_of_run runs slot⟩

end ExactWord
