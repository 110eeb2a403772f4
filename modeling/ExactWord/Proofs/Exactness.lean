import ExactWord.Proofs.Product

namespace ExactWord

namespace Checked

open Operation (checkedOf)

variable {l : Layout}

def Holds (checked : Checked l) (i : Int) : Prop :=
  checked.overflow = false ∧ checked.value.toInt = i

theorem holds_toInt_iff {checked : Checked l} {word : Word l} :
    checked.Holds word.toInt ↔ checked = exact word := by
  constructor
  · obtain ⟨value, overflow⟩ := checked
    rintro ⟨rfl, same⟩
    exact congrArg exact (Word.ext same)
  · rintro rfl
    exact ⟨rfl, rfl⟩

theorem holds_checkedOf_iff {result : Option Int} {i : Int} :
    (checkedOf result : Checked l).Holds i ↔ result = some i ∧ i ∈ l := by
  rcases checkedOf_cases result with ⟨refused, outside⟩ | ⟨word, defined, held⟩
  · rw [refused]
    constructor
    · rintro ⟨flag, -⟩
      cases flag
    · rintro ⟨defined, mem⟩
      exact absurd mem (outside i defined)
  · rw [held, defined]
    constructor
    · rintro ⟨-, rfl⟩
      exact ⟨rfl, word.mem⟩
    · rintro ⟨same, -⟩
      exact ⟨rfl, Option.some.inj same⟩

end Checked

namespace Operation

open Checked

variable {l : Layout}

variable (build : Build)

theorem apply_eq (positive : 0 < l.bits) (operation : Operation) (x y : Word l) :
    operation.apply build x y = .ok (checkedOf (operation.result? x.toInt y.toInt)) := by
  cases operation with
  | add => exact sum_eq x y
  | sub => exact difference_eq x y
  | mul => exact product_eq build positive x y
  | div =>
    simp only [apply, result?]
    split
    · rename_i zeroDivisor
      exact quotient_of_zero zeroDivisor
    · rename_i nonzero
      exact quotient_eq nonzero
  | rem =>
    simp only [apply, result?]
    split
    · rename_i zeroDivisor
      exact remainder_of_zero zeroDivisor
    · rename_i nonzero
      exact remainder_eq nonzero

theorem apply_cases (positive : 0 < l.bits) (operation : Operation) (x y : Word l) :
    (operation.apply build x y = .ok outOfRange ∧ ∀ e, operation.result? x.toInt y.toInt = some e → e ∉ l) ∨
      ∃ word : Word l,
        operation.result? x.toInt y.toInt = some word.toInt ∧ operation.apply build x y = .ok (exact word) := by
  rw [apply_eq build positive operation x y]
  rcases checkedOf_cases (operation.result? x.toInt y.toInt) with ⟨refused, outside⟩ | ⟨word, defined, held⟩
  · exact .inl ⟨congrArg Except.ok refused, outside⟩
  · exact .inr ⟨word, defined, congrArg Except.ok held⟩

theorem apply_eq_exact_iff (positive : 0 < l.bits) (operation : Operation) (x y z : Word l) :
    operation.apply build x y = .ok (exact z) ↔ operation.result? x.toInt y.toInt = some z.toInt := by
  rw [apply_eq build positive operation x y, Except.ok.injEq, ← holds_toInt_iff, holds_checkedOf_iff]
  exact and_iff_left z.mem

theorem apply_exact (operation : Operation) (t : OperandType) (x y : Word t.layout) :
    ∃ checked : Checked t.layout, operation.apply build x y = .ok checked ∧
      (checked.overflow = true ↔ operation.result? x.toInt y.toInt = none ∨
        ∃ e, operation.result? x.toInt y.toInt = some e ∧ (e < t.layout.least ∨ t.layout.greatest < e)) ∧
      (checked.overflow = false → operation.result? x.toInt y.toInt = some checked.value.toInt) ∧
      (checked.overflow = true → checked.value.toInt = 0) := by
  refine ⟨_, apply_eq build t.bits_pos operation x y, ?_⟩
  rcases checkedOf_cases (operation.result? x.toInt y.toInt) with ⟨refused, outside⟩ | ⟨word, defined, held⟩
  · rw [refused]
    refine ⟨iff_of_true rfl ?_, Bool.noConfusion, fun _ => rfl⟩
    cases result : operation.result? x.toInt y.toInt with
    | none => exact .inl rfl
    | some e =>
      have beyond := outside e result
      rw [Layout.mem_iff] at beyond
      exact .inr ⟨e, rfl, by omega⟩
  · rw [held, defined]
    refine ⟨iff_of_false Bool.noConfusion ?_, fun _ => rfl, Bool.noConfusion⟩
    rintro (undefined | ⟨e, same, beyond⟩)
    · cases undefined
    · have inside := word.mem
      rw [Layout.mem_iff, Option.some.inj same] at inside
      omega

end Operation

end ExactWord
