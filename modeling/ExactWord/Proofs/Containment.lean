import ExactWord.Proofs.Exactness

namespace ExactWord

namespace Layout

variable {l m : Layout} {a b : Nat}

instance : HasSubset Layout where
  Subset l m := ∀ i, i ∈ l → i ∈ m

theorem subset_iff : l ⊆ m ↔ m.least ≤ l.least ∧ l.greatest ≤ m.greatest := by
  constructor
  · intro contained
    exact ⟨(contained _ l.least_mem).1, (contained _ l.greatest_mem).2⟩
  · intro bounds i mem
    rw [mem_iff] at mem ⊢
    omega

instance : Decidable (l ⊆ m) := decidable_of_iff _ subset_iff.symm

theorem two_pow_le_iff : (2 : Int) ^ a ≤ 2 ^ b ↔ a ≤ b :=
  pow_le_pow_iff_right₀ one_lt_two

theorem unsigned_subset_unsigned : unsigned a ⊆ unsigned b ↔ a ≤ b := by
  rw [subset_iff, ← two_pow_le_iff]
  change (0 : Int) ≤ 0 ∧ (2 : Int) ^ a - 1 ≤ 2 ^ b - 1 ↔ _
  omega

theorem twosComplement_subset_twosComplement (positive : 0 < a) (positive' : 0 < b) :
    twosComplement a ⊆ twosComplement b ↔ a ≤ b := by
  have halves := @two_pow_le_iff (a - 1) (b - 1)
  rw [subset_iff]
  change -(2 : Int) ^ (b - 1) ≤ -2 ^ (a - 1) ∧ (2 : Int) ^ (a - 1) - 1 ≤ 2 ^ (b - 1) - 1 ↔ _
  omega

theorem unsigned_subset_twosComplement (positive : 0 < b) : unsigned a ⊆ twosComplement b ↔ a < b := by
  have half : (0 : Int) < 2 ^ (b - 1) := two_pow_pos (b - 1)
  -- the sign takes one bit of the wider layout
  have room := @two_pow_le_iff a (b - 1)
  rw [subset_iff]
  change -(2 : Int) ^ (b - 1) ≤ 0 ∧ (2 : Int) ^ a - 1 ≤ 2 ^ (b - 1) - 1 ↔ _
  omega

theorem not_twosComplement_subset_unsigned : ¬ twosComplement a ⊆ unsigned b := by
  have half : (0 : Int) < 2 ^ (a - 1) := two_pow_pos (a - 1)
  rw [subset_iff]
  change ¬ ((0 : Int) ≤ -2 ^ (a - 1) ∧ _)
  omega

end Layout

theorem OperandType.layout_subset_iff (t w : OperandType) :
    t.layout ⊆ w.layout ↔
      (t.signed = w.signed ∧ t.bits ≤ w.bits) ∨ (t.signed = false ∧ w.signed = true ∧ t.bits < w.bits) := by
  have positive : 0 < t.bits := t.bits_pos
  have positive' : 0 < w.bits := w.bits_pos
  unfold layout
  cases t.signed with
  | true =>
    cases w.signed with
    | true => simpa [Layout.twosComplement] using Layout.twosComplement_subset_twosComplement positive positive'
    | false => simpa [Layout.twosComplement, Layout.unsigned] using Layout.not_twosComplement_subset_unsigned
  | false =>
    cases w.signed with
    | true => simpa [Layout.twosComplement, Layout.unsigned] using Layout.unsigned_subset_twosComplement positive'
    | false => simpa [Layout.unsigned] using Layout.unsigned_subset_unsigned

def Word.within {l m : Layout} (contained : l ⊆ m) (x : Word l) : Word m :=
  ⟨x.toInt, contained x.toInt x.mem⟩

namespace Operation

open Checked

theorem holds_within_iff {l m : Layout} (contained : l ⊆ m) (result : Option Int) (v : Int) :
    (checkedOf result : Checked l).Holds v ↔ (checkedOf result : Checked m).Holds v ∧ v ∈ l := by
  -- whatever branch led there, both layouts are asked whether they hold one and the same exact result
  rw [holds_checkedOf_iff, holds_checkedOf_iff]
  constructor
  · rintro ⟨defined, mem⟩
    exact ⟨⟨defined, contained v mem⟩, mem⟩
  · rintro ⟨⟨defined, -⟩, mem⟩
    exact ⟨defined, mem⟩

/-- One type lies in another when it is no wider, or narrower where the sign costs a bit. An operation in it is then the
operation in the other, with what leaves the range refused. -/
theorem narrow_agrees_with_wide (build : Build) (t w : OperandType) :
    (t.layout ⊆ w.layout ↔
      (t.signed = w.signed ∧ t.bits ≤ w.bits) ∨ (t.signed = false ∧ w.signed = true ∧ t.bits < w.bits)) ∧
    ∀ (contained : t.layout ⊆ w.layout) (operation : Operation) (x y : Word t.layout),
      ∃ (narrow : Checked t.layout) (wide : Checked w.layout),
        operation.apply build x y = .ok narrow ∧
        operation.apply build (x.within contained) (y.within contained) = .ok wide ∧
        ∀ v : Int, narrow.Holds v ↔ wide.Holds v ∧ v ∈ t.layout := by
  refine ⟨t.layout_subset_iff w, ?_⟩
  intro contained operation x y
  exact ⟨_, _, apply_eq build t.bits_pos operation x y,
    apply_eq build w.bits_pos operation (x.within contained) (y.within contained), holds_within_iff contained _⟩

theorem leastByte_negated_within :
    let least : Word OperandType.i8.layout := Word.least _
    let unit : Word OperandType.i8.layout := ⟨-1, by decide⟩
    ∃ (contained : OperandType.i8.layout ⊆ OperandType.i16.layout) (narrow : Checked OperandType.i8.layout)
      (wide : Checked OperandType.i16.layout),
      Operation.div.apply .standard least unit = .ok narrow ∧
        Operation.div.apply .standard (least.within contained) (unit.within contained) = .ok wide ∧
        wide.Holds 128 ∧ ¬ narrow.Holds 128 := by
  intro least unit
  have contained : OperandType.i8.layout ⊆ OperandType.i16.layout := by decide
  obtain ⟨narrow, wide, runs, runsWide, holds⟩ :=
    (narrow_agrees_with_wide .standard .i8 .i16).2 contained .div least unit
  refine ⟨contained, narrow, wide, runs, runsWide, ?_, ?_⟩
  · have negated : Operation.div.apply .standard (least.within contained) (unit.within contained) =
        .ok (exact ⟨128, by decide⟩) := rfl
    rw [runsWide] at negated
    rw [Except.ok.inj negated]
    exact ⟨rfl, rfl⟩
  · rw [holds]
    rintro ⟨-, mem⟩
    exact absurd mem (by decide)

end Operation

end ExactWord
