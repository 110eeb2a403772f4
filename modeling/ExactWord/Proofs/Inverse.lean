import Mathlib.Tactic.TFAE
import ExactWord.Proofs.Exactness

namespace ExactWord

theorem mul_eq_iff_tdiv_tmod {x y z : Int} (nonzero : y ≠ 0) : x * y = z ↔ z.tdiv y = x ∧ z.tmod y = 0 := by
  constructor
  · rintro rfl
    exact ⟨Int.mul_tdiv_cancel x nonzero, Int.mul_tmod_left x y⟩
  · rintro ⟨quotient, remainder⟩
    have whole := Int.tdiv_mul_add_tmod z y
    rw [quotient, remainder] at whole
    omega

namespace Checked

open Word
open Operation (apply_eq_exact_iff)

variable {l : Layout}

theorem sum_eq_exact_iff (positive : 0 < l.bits) (x y z : Word l) :
    sum x y = .ok (exact z) ↔ x.toInt + y.toInt = z.toInt :=
  (apply_eq_exact_iff .standard positive .add x y z).trans Option.some_inj

theorem difference_eq_exact_iff (positive : 0 < l.bits) (x y z : Word l) :
    difference x y = .ok (exact z) ↔ x.toInt - y.toInt = z.toInt :=
  (apply_eq_exact_iff .standard positive .sub x y z).trans Option.some_inj

theorem product_eq_exact_iff (build : Build) (positive : 0 < l.bits) (x y z : Word l) :
    product build x y = .ok (exact z) ↔ x.toInt * y.toInt = z.toInt :=
  (apply_eq_exact_iff build positive .mul x y z).trans Option.some_inj

theorem quotient_eq_exact_iff (positive : 0 < l.bits) (x z : Word l) {y : Word l} (nonzero : y.toInt ≠ 0) :
    quotient x y = .ok (exact z) ↔ x.toInt.tdiv y.toInt = z.toInt := by
  have returned := apply_eq_exact_iff .standard positive .div x y z
  rw [Operation.result?, if_neg nonzero, Option.some_inj] at returned
  exact returned

theorem remainder_eq_exact_iff (positive : 0 < l.bits) (x z : Word l) {y : Word l} (nonzero : y.toInt ≠ 0) :
    remainder x y = .ok (exact z) ↔ x.toInt.tmod y.toInt = z.toInt := by
  have returned := apply_eq_exact_iff .standard positive .rem x y z
  rw [Operation.result?, if_neg nonzero, Option.some_inj] at returned
  exact returned

/-- Each list ends with the equation between the integers: the operations agree, and return wherever it holds. -/
theorem operations_undo_each_other (build : Build) (t : OperandType) (x y z : Word t.layout) :
    [sum x y = .ok (exact z), difference z y = .ok (exact x), difference z x = .ok (exact y),
      x.toInt + y.toInt = z.toInt].TFAE ∧
    (y ≠ zero →
      [product build x y = .ok (exact z), quotient z y = .ok (exact x) ∧ remainder z y = .ok (exact zero),
        x.toInt * y.toInt = z.toInt].TFAE) := by
  have positive := t.bits_pos
  constructor
  · rw [sum_eq_exact_iff positive, difference_eq_exact_iff positive, difference_eq_exact_iff positive]
    tfae_have 1 ↔ 2 := by omega
    tfae_have 1 ↔ 3 := by omega
    tfae_have 1 ↔ 4 := Iff.rfl
    tfae_finish
  · intro other
    have nonzero : y.toInt ≠ 0 := fun none => other (ext none)
    rw [product_eq_exact_iff build positive, quotient_eq_exact_iff positive z x nonzero,
      remainder_eq_exact_iff positive z zero nonzero]
    tfae_have 1 ↔ 2 := mul_eq_iff_tdiv_tmod nonzero
    tfae_have 1 ↔ 3 := Iff.rfl
    tfae_finish

theorem leastByte_halved :
    let half : Word OperandType.i8.layout := ⟨-64, by decide⟩
    let two : Word OperandType.i8.layout := ⟨2, by decide⟩
    two ≠ zero ∧ product .standard half two = .ok (exact (least _)) ∧
      quotient (least _) two = .ok (exact half) ∧ remainder (least _) two = .ok (exact zero) := by
  intro half two
  have nonzero : two ≠ zero := by decide
  have undone := (operations_undo_each_other .standard .i8 half two (least _)).2 nonzero
  have doubled : half.toInt * two.toInt = (least OperandType.i8.layout).toInt := by decide
  exact ⟨nonzero, (undone.out 0 2).mpr doubled, (undone.out 1 2).mpr doubled⟩

end Checked

end ExactWord
