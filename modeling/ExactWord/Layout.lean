namespace ExactWord

structure Layout where
  signed : Bool
  bits : Nat
deriving DecidableEq, Repr

namespace Layout

def unsigned (bits : Nat) : Layout := ⟨false, bits⟩

def twosComplement (bits : Nat) : Layout := ⟨true, bits⟩

def least (l : Layout) : Int :=
  if l.signed then -Int.pow 2 (l.bits - 1) else 0

def greatest (l : Layout) : Int :=
  if l.signed then Int.pow 2 (l.bits - 1) - 1 else Int.pow 2 l.bits - 1

instance : Membership Int Layout where
  mem l i := l.least ≤ i ∧ i ≤ l.greatest

theorem mem_iff {l : Layout} {i : Int} : i ∈ l ↔ l.least ≤ i ∧ i ≤ l.greatest := Iff.rfl

instance (l : Layout) (i : Int) : Decidable (i ∈ l) :=
  decidable_of_iff _ (mem_iff (l := l)).symm

theorem two_pow_pos (n : Nat) : 0 < Int.pow 2 n :=
  Int.pow_pos (by decide)

theorem two_pow_mono {m n : Nat} (le : m ≤ n) : Int.pow 2 m ≤ Int.pow 2 n :=
  Int.ofNat_le.mpr (Nat.pow_le_pow_right (by decide) le)

theorem two_pow_halves {n : Nat} (positive : 0 < n) : Int.pow 2 n = 2 * Int.pow 2 (n - 1) := by
  obtain ⟨m, rfl⟩ := Nat.exists_eq_add_of_lt positive
  rw [Nat.zero_add, Nat.add_sub_cancel]
  exact Int.pow_succ' 2 m

theorem least_nonpos (l : Layout) : l.least ≤ 0 := by
  have positive := two_pow_pos (l.bits - 1)
  unfold least
  split <;> omega

theorem greatest_nonneg (l : Layout) : 0 ≤ l.greatest := by
  have half := two_pow_pos (l.bits - 1)
  have whole := two_pow_pos l.bits
  unfold greatest
  split <;> omega

theorem zero_mem (l : Layout) : 0 ∈ l :=
  ⟨l.least_nonpos, l.greatest_nonneg⟩

theorem least_mem (l : Layout) : l.least ∈ l :=
  ⟨Int.le_refl _, Int.le_trans l.least_nonpos l.greatest_nonneg⟩

theorem greatest_mem (l : Layout) : l.greatest ∈ l :=
  ⟨Int.le_trans l.least_nonpos l.greatest_nonneg, Int.le_refl _⟩

/-- The layout of the same sign and twice the width, in which a product of two words is exact. -/
def doubled (l : Layout) : Layout :=
  { l with bits := 2 * l.bits }

theorem mem_doubled {l : Layout} {i : Int} (mem : i ∈ l) : i ∈ l.doubled := by
  have half : Int.pow 2 (l.bits - 1) ≤ Int.pow 2 (2 * l.bits - 1) := two_pow_mono (by omega)
  have whole : Int.pow 2 l.bits ≤ Int.pow 2 (2 * l.bits) := two_pow_mono (by omega)
  simp only [mem_iff, least, greatest, doubled] at mem ⊢
  split at mem <;> rename_i sign <;> simp only [sign, if_true, if_false, Bool.false_eq_true] at mem ⊢ <;> omega

/-- The representative of an integer modulo `2 ^ bits` that the layout holds. -/
def wrap (l : Layout) (i : Int) : Int :=
  if l.signed then i.bmod (Nat.pow 2 l.bits) else i % Int.pow 2 l.bits

theorem wrap_mem (l : Layout) (i : Int) : l.wrap i ∈ l := by
  have positive : 0 < Nat.pow 2 l.bits := Nat.two_pow_pos _
  have low := @Int.le_bmod i (Nat.pow 2 l.bits) positive
  have high := @Int.bmod_lt i (Nat.pow 2 l.bits) positive
  have cast : ((Nat.pow 2 l.bits : Nat) : Int) = Int.pow 2 l.bits := rfl
  rw [cast] at low high
  have nonneg := Int.emod_nonneg i (Int.ne_of_gt (two_pow_pos l.bits))
  have below := Int.emod_lt_of_pos i (two_pow_pos l.bits)
  simp only [mem_iff, least, greatest, wrap]
  split
  · rcases Nat.eq_zero_or_pos l.bits with zero | pos
    · have one : Int.pow 2 0 = 1 := rfl
      rw [zero, one] at low high
      rw [zero, one]
      omega
    · have halves := two_pow_halves pos
      omega
  · omega

end Layout

end ExactWord
