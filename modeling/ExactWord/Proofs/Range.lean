import Mathlib.Algebra.Order.Ring.Int
import ExactWord.OperandType
import ExactWord.Word

namespace ExactWord

theorem tdiv_between {x y : Int} (positive : 0 < y) :
    (0 ≤ x → 0 ≤ x.tdiv y ∧ x.tdiv y ≤ x) ∧ (x ≤ 0 → x ≤ x.tdiv y ∧ x.tdiv y ≤ 0) := by
  constructor
  · intro nonneg
    exact ⟨Int.tdiv_nonneg nonneg (Int.le_of_lt positive), Int.tdiv_le_self y nonneg⟩
  · intro nonpos
    have flipped : x.tdiv y = -((-x).tdiv y) := by rw [Int.neg_tdiv, Int.neg_neg]
    have low := Int.tdiv_le_self y (Int.neg_nonneg_of_nonpos nonpos)
    have high := Int.tdiv_nonneg (Int.neg_nonneg_of_nonpos nonpos) (Int.le_of_lt positive)
    omega

namespace Layout

variable {l : Layout}

theorem mem_unsigned {bits : Nat} {i : Int} : i ∈ unsigned bits ↔ 0 ≤ i ∧ i ≤ 2 ^ bits - 1 := Iff.rfl

theorem mem_twosComplement {bits : Nat} {i : Int} :
    i ∈ twosComplement bits ↔ -2 ^ (bits - 1) ≤ i ∧ i ≤ 2 ^ (bits - 1) - 1 := Iff.rfl

theorem least_of_signed (signed : l.signed = true) : l.least = -l.greatest - 1 := by
  simp only [least, greatest, signed, if_true]
  omega

theorem least_of_unsigned (unsigned : l.signed = false) : l.least = 0 := by
  simp [least, unsigned]

/-- Only a two's complement layout holds a negative integer, and such a layout reaches one further down than up. -/
theorem least_of_negative {i : Int} (mem : i ∈ l) (negative : i < 0) : l.least = -l.greatest - 1 := by
  cases sign : l.signed with
  | true => exact least_of_signed sign
  | false =>
    have bottom := least_of_unsigned sign
    simp only [mem_iff] at mem
    omega

/-- The least word divided by minus one is the only quotient of two words that leaves the layout. -/
theorem tdiv_mem_iff {x y : Int} (dividend : x ∈ l) (divisor : y ∈ l) (nonzero : y ≠ 0) :
    x.tdiv y ∈ l ↔ ¬ (x = l.least ∧ y = -1) := by
  have nonpos := l.least_nonpos
  have nonneg := l.greatest_nonneg
  rcases Int.lt_or_gt_of_ne nonzero with negative | positive
  · have bottom := least_of_negative divisor negative
    simp only [mem_iff] at dividend ⊢
    by_cases unit : y = -1
    · subst unit
      have opposite : x.tdiv (-1) = -x := by rw [Int.tdiv_neg, Int.tdiv_one]
      rw [opposite]
      omega
    · have halved : (x.tdiv y).natAbs * 2 ≤ x.natAbs := by
        rw [Int.natAbs_tdiv]
        calc x.natAbs / y.natAbs * 2 ≤ x.natAbs / y.natAbs * y.natAbs := Nat.mul_le_mul_left _ (by omega)
          _ ≤ x.natAbs := Nat.div_mul_le_self _ _
      omega
  · have between := @tdiv_between x y positive
    simp only [mem_iff] at dividend ⊢
    omega

theorem greatest_tdiv_mem {y : Int} (divisor : y ∈ l) (nonzero : y ≠ 0) : l.greatest.tdiv y ∈ l := by
  apply (tdiv_mem_iff l.greatest_mem divisor nonzero).mpr
  rintro ⟨same, unit⟩
  have bottom := least_of_negative divisor (by omega)
  omega

theorem least_tdiv_mem {y : Int} (divisor : y ∈ l) (positive : 0 < y) : l.least.tdiv y ∈ l := by
  apply (tdiv_mem_iff l.least_mem divisor (by omega)).mpr
  omega

theorem tmod_mem {x : Int} (dividend : x ∈ l) (y : Int) : x.tmod y ∈ l := by
  have nonpos := l.least_nonpos
  have nonneg := l.greatest_nonneg
  have size : (x.tmod y).natAbs ≤ x.natAbs := by
    rw [Int.natAbs_tmod]
    exact Nat.mod_le _ _
  simp only [mem_iff] at dividend ⊢
  rcases Int.le_total 0 x with sign | sign
  · have remainder := Int.tmod_nonneg y sign
    omega
  · have remainder := Int.tmod_nonneg y (Int.neg_nonneg_of_nonpos sign)
    rw [Int.neg_tmod] at remainder
    omega

theorem mul_mem_of_zero {x y : Int} (factor : x = 0 ∨ y = 0) : x * y ∈ l := by
  rw [Int.mul_eq_zero.mpr factor]
  exact l.zero_mem

theorem mul_mem_doubled {x y : Int} (positive : 0 < l.bits) (left : x ∈ l) (right : y ∈ l) :
    x * y ∈ l.doubled := by
  obtain ⟨signed, bits⟩ := l
  change 0 < bits at positive
  cases signed with
  | true =>
    have leftBounds := mem_twosComplement.mp left
    have rightBounds := mem_twosComplement.mp right
    have half : (0 : Int) < 2 ^ (bits - 1) := two_pow_pos (bits - 1)
    have square : (2 : Int) ^ (2 * bits - 1) = 2 * (2 ^ (bits - 1) * 2 ^ (bits - 1)) := by
      rw [← pow_add, ← pow_succ']
      congr 1
      omega
    -- the extreme product is the square of the least word, a quarter of the doubled range
    have size : ((x * y).natAbs : Int) ≤ 2 ^ (bits - 1) * 2 ^ (bits - 1) := by
      rw [Int.natAbs_mul, Int.natCast_mul]
      exact Int.mul_le_mul (by omega) (by omega) (by omega) (by omega)
    have quarter := Int.mul_pos half half
    change x * y ∈ twosComplement (2 * bits)
    rw [mem_twosComplement]
    omega
  | false =>
    have leftBounds := mem_unsigned.mp left
    have rightBounds := mem_unsigned.mp right
    have square : (2 : Int) ^ (2 * bits) = 2 ^ bits * 2 ^ bits := by
      rw [← pow_add]
      congr 1
      omega
    have nonneg := Int.mul_nonneg leftBounds.1 rightBounds.1
    have below : x * y < 2 ^ bits * 2 ^ bits :=
      calc x * y ≤ x * 2 ^ bits := Int.mul_le_mul_of_nonneg_left (by omega) leftBounds.1
        _ < 2 ^ bits * 2 ^ bits := Int.mul_lt_mul_of_pos_right (by omega) (two_pow_pos bits)
    change x * y ∈ unsigned (2 * bits)
    rw [mem_unsigned]
    omega

theorem wrap_of_mem {i : Int} (positive : 0 < l.bits) (mem : i ∈ l) : l.wrap i = i := by
  obtain ⟨signed, bits⟩ := l
  change 0 < bits at positive
  cases signed with
  | true =>
    have bounds := mem_twosComplement.mp mem
    have halves : (2 : Int) ^ bits = 2 * 2 ^ (bits - 1) := two_pow_halves positive
    have cast : ((2 ^ bits : Nat) : Int) = 2 ^ bits := by simp
    change i.bmod (2 ^ bits) = i
    apply Int.bmod_eq_of_le_mul_two
    · omega
    · omega
  | false =>
    have bounds := mem_unsigned.mp mem
    change i % 2 ^ bits = i
    exact Int.emod_eq_of_lt bounds.1 (by omega)

end Layout

theorem bind_of_ok {α β : Type} {first : Except Trap α} {a : α} (runs : first = .ok a) (next : α → Except Trap β) :
    (first >>= next) = next a := by
  rw [runs]
  rfl

namespace Word

variable {l : Layout}

@[simp] theorem toInt_zero : (zero : Word l).toInt = 0 := rfl

@[simp] theorem toInt_least : (least l).toInt = l.least := rfl

@[simp] theorem toInt_greatest : (greatest l).toInt = l.greatest := rfl

@[simp] theorem toInt_widen (x : Word l) : x.widen.toInt = x.toInt := rfl

theorem eq_iff {x y : Word l} : x = y ↔ x.toInt = y.toInt :=
  ⟨congrArg toInt, ext⟩

theorem isNegOne_iff (x : Word l) : x.isNegOne = true ↔ x.toInt = -1 := by
  unfold isNegOne
  cases sign : l.signed with
  | true =>
    have ones : (complement (zero : Word l)).toInt = -1 := by
      have bottom := Layout.least_of_signed sign
      simp only [complement, toInt_zero]
      omega
    simp only [Bool.true_and, beq_iff_eq, eq_iff, ones]
  | false =>
    have bottom := Layout.least_of_unsigned sign
    have low := x.mem.1
    constructor
    · simp
    · omega

theorem div_of_mem {x y : Word l} (nonzero : y.toInt ≠ 0) (mem : x.toInt.tdiv y.toInt ∈ l) :
    x.div y = .ok ⟨x.toInt.tdiv y.toInt, mem⟩ := by
  have divisor : y ≠ zero := fun same => nonzero (congrArg toInt same)
  rw [div, if_neg divisor, exactly_of_mem mem]

theorem truncate_of_mem {m : Layout} {x : Word l} (positive : 0 < m.bits) (mem : x.toInt ∈ m) :
    (x.truncate : Word m) = ⟨x.toInt, mem⟩ :=
  ext (Layout.wrap_of_mem positive mem)

end Word

theorem OperandType.bits_pos (t : OperandType) : 0 < t.layout.bits := by
  cases t <;> decide

end ExactWord
