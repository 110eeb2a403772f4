import ExactWord.Proofs.Checked

namespace ExactWord

theorem tdiv_lt_iff {bound factor divisor : Int} (nonneg : 0 ≤ bound) (positive : 0 < divisor) :
    bound.tdiv divisor < factor ↔ bound < factor * divisor := by
  rw [Int.tdiv_eq_ediv_of_nonneg nonneg]
  exact Int.ediv_lt_iff_lt_mul positive

theorem lt_tdiv_iff_of_nonpos {bound factor divisor : Int} (nonpos : bound ≤ 0) (positive : 0 < divisor) :
    factor < bound.tdiv divisor ↔ factor * divisor < bound := by
  have reflected := @tdiv_lt_iff (-bound) (-factor) divisor (by omega) positive
  rw [Int.neg_tdiv, Int.neg_mul] at reflected
  omega

theorem lt_tdiv_iff_of_negative {bound factor divisor : Int} (nonneg : 0 ≤ bound) (negative : divisor < 0) :
    factor < bound.tdiv divisor ↔ bound < factor * divisor := by
  have reflected := @tdiv_lt_iff bound (-factor) (-divisor) nonneg (by omega)
  rw [Int.tdiv_neg, Int.neg_mul_neg] at reflected
  omega

namespace Checked

open Word
open Operation (checkedOf)

variable {l : Layout}

theorem productExceedsBounds_eq (x y : Word l) :
    productExceedsBounds x y = .ok (decide (x.toInt * y.toInt ∉ l)) := by
  have nonpos := l.least_nonpos
  have nonneg := l.greatest_nonneg
  unfold productExceedsBounds
  -- the signs of the factors give the sign of the product, which leaves a single bound to compare with
  simp only [lt_def, toInt_zero]
  split
  · rename_i left
    split
    · rename_i right
      have product := Int.mul_pos left right
      have exceeds := @tdiv_lt_iff l.greatest x.toInt y.toInt nonneg right
      apply compare_of_ok (div_of_mem (by omega) (Layout.greatest_tdiv_mem y.mem (by omega)))
      simp only [toInt_greatest, Layout.mem_iff]
      omega
    · split
      · rename_i right
        have product := Int.mul_neg_of_pos_of_neg left right
        have exceeds := @lt_tdiv_iff_of_nonpos l.least y.toInt x.toInt nonpos left
        apply compare_of_ok (div_of_mem (by omega) (Layout.least_tdiv_mem x.mem left))
        simp only [toInt_least, Layout.mem_iff, Int.mul_comm x.toInt] at product ⊢
        omega
      · exact ok_false_of_mem (Layout.mul_mem_of_zero (by omega))
  · split
    · rename_i left
      split
      · rename_i right
        have product := Int.mul_neg_of_neg_of_pos left right
        have exceeds := @lt_tdiv_iff_of_nonpos l.least x.toInt y.toInt nonpos right
        apply compare_of_ok (div_of_mem (by omega) (Layout.least_tdiv_mem y.mem right))
        simp only [toInt_least, Layout.mem_iff]
        omega
      · split
        · rename_i right
          have product := Int.mul_pos_of_neg_of_neg left right
          have exceeds := @lt_tdiv_iff_of_negative l.greatest x.toInt y.toInt nonneg right
          apply compare_of_ok (div_of_mem (by omega) (Layout.greatest_tdiv_mem y.mem (by omega)))
          simp only [toInt_greatest, Layout.mem_iff]
          omega
        · exact ok_false_of_mem (Layout.mul_mem_of_zero (by omega))
    · exact ok_false_of_mem (Layout.mul_mem_of_zero (by omega))

theorem productByBounds_eq (x y : Word l) : productByBounds x y = .ok (checkedOf (some (x.toInt * y.toInt))) := by
  unfold productByBounds
  cases sign : l.signed with
  | true =>
    simp only [if_true, productExceedsBounds_eq]
    exact guarded_exactly _
  | false =>
    have nonneg := l.greatest_nonneg
    have bottom := Layout.least_of_unsigned sign
    have left := x.mem.1
    have right := y.mem.1
    simp only [Bool.false_eq_true, if_false, eq_iff, toInt_zero]
    split
    · rename_i empty
      have mem : x.toInt * y.toInt ∈ l := Layout.mul_mem_of_zero (.inl empty)
      rw [checkedOf_of_mem mem]
      exact congrArg (fun word => Except.ok (exact word)) (ext (by simp [empty]))
    · rename_i nonzero
      have product : 0 ≤ y.toInt * x.toInt := Int.mul_nonneg (by omega) (by omega)
      have exceeds := @tdiv_lt_iff l.greatest y.toInt x.toInt nonneg (by omega)
      have test : (do let bound ← (greatest l).div x; return decide (bound < y) : Except Trap Bool) =
          .ok (decide (x.toInt * y.toInt ∉ l)) := by
        apply compare_of_ok (div_of_mem nonzero (Layout.greatest_tdiv_mem x.mem nonzero))
        simp only [lt_def, toInt_greatest, Layout.mem_iff, Int.mul_comm x.toInt]
        omega
      rw [test]
      exact guarded_exactly _

theorem productByWidening_eq (positive : 0 < l.bits) (x y : Word l) :
    productByWidening x y = .ok (checkedOf (some (x.toInt * y.toInt))) := by
  have wide := Layout.mul_mem_doubled positive x.mem y.mem
  have runs : x.widen.mul y.widen = .ok ⟨x.toInt * y.toInt, wide⟩ := exactly_of_mem wide
  rw [productByWidening, runs]
  by_cases mem : x.toInt * y.toInt ∈ l
  · have inside : ¬ (l.greatest < x.toInt * y.toInt ∨ x.toInt * y.toInt < l.least) := by
      rw [Layout.mem_iff] at mem
      omega
    rw [checkedOf_of_mem mem]
    refine (if_neg inside).trans ?_
    rw [truncate_of_mem positive mem]
    rfl
  · have outside : l.greatest < x.toInt * y.toInt ∨ x.toInt * y.toInt < l.least := by
      rw [Layout.mem_iff] at mem
      omega
    rw [checkedOf_of_not_mem mem]
    exact if_pos outside

theorem product_eq (build : Build) (positive : 0 < l.bits) (x y : Word l) :
    product build x y = .ok (checkedOf (some (x.toInt * y.toInt))) := by
  unfold product
  split
  · exact productByWidening_eq positive x y
  · exact productByBounds_eq x y

/-- The two ways to multiply return one and the same pair, so it makes no difference which of them a build takes, and
neither of them traps. -/
theorem productByBounds_agrees_productByWidening (t : OperandType) (x y : Word t.layout) :
    ∃ checked : Checked t.layout,
      productByBounds x y = .ok checked ∧ productByWidening x y = .ok checked ∧
        (∀ build, product build x y = .ok checked) ∧
        checked.overflow = decide (x.toInt * y.toInt ∉ t.layout) ∧
        checked.value.toInt = if checked.overflow then 0 else x.toInt * y.toInt := by
  refine ⟨checkedOf (some (x.toInt * y.toInt)), productByBounds_eq x y, productByWidening_eq t.bits_pos x y,
    fun build => product_eq build t.bits_pos x y, ?_⟩
  by_cases mem : x.toInt * y.toInt ∈ t.layout
  · rw [checkedOf_of_mem mem]
    simp [exact, mem]
  · rw [checkedOf_of_not_mem mem]
    simp [outOfRange, mem]

end Checked

end ExactWord
