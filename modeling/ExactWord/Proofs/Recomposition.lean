import ExactWord.Proofs.Exactness

namespace ExactWord

theorem tmod_between (x : Int) {y : Int} (nonzero : y ≠ 0) :
    (x.tmod y).natAbs < y.natAbs ∧ (0 ≤ x → 0 ≤ x.tmod y ∧ x.tmod y ≤ x) ∧ (x ≤ 0 → x ≤ x.tmod y ∧ x.tmod y ≤ 0) := by
  have size := Int.natAbs_tmod x y
  have below := Nat.mod_lt x.natAbs (Int.natAbs_pos.mpr nonzero)
  have within := Nat.mod_le x.natAbs y.natAbs
  refine ⟨by omega, ?_, ?_⟩
  · intro nonneg
    have sign := Int.tmod_nonneg y nonneg
    omega
  · intro nonpos
    have sign := Int.tmod_nonneg y (Int.neg_nonneg_of_nonpos nonpos)
    rw [Int.neg_tmod] at sign
    omega

theorem Layout.tdiv_mul_mem {l : Layout} {x y : Int} (dividend : x ∈ l) (nonzero : y ≠ 0) : x.tdiv y * y ∈ l := by
  have whole := Int.tdiv_mul_add_tmod x y
  have between := tmod_between x nonzero
  have nonpos := l.least_nonpos
  have nonneg := l.greatest_nonneg
  rw [mem_iff] at dividend ⊢
  omega

namespace Checked

open Word

theorem outOfRange_ne_exact {l : Layout} (word : Word l) : outOfRange ≠ exact word := by
  intro same
  cases congrArg Checked.overflow same

theorem division_cases {l : Layout} (x y : Word l) :
    (y.toInt = 0 ∧ quotient x y = .ok outOfRange ∧ remainder x y = .ok outOfRange) ∨
    (x = least l ∧ y.toInt = -1 ∧ quotient x y = .ok outOfRange ∧ remainder x y = .ok (exact zero)) ∨
    ∃ q r : Word l, y.toInt ≠ 0 ∧ ¬ (x = least l ∧ y.toInt = -1) ∧
      q.toInt = x.toInt.tdiv y.toInt ∧ r.toInt = x.toInt.tmod y.toInt ∧
      quotient x y = .ok (exact q) ∧ remainder x y = .ok (exact r) := by
  rcases eq_or_ne y.toInt 0 with zeroDivisor | nonzero
  · exact .inl ⟨zeroDivisor, quotient_of_zero zeroDivisor, remainder_of_zero zeroDivisor⟩
  · have remains := Layout.tmod_mem x.mem y.toInt
    have fits := Layout.tdiv_mem_iff x.mem y.mem nonzero
    by_cases extreme : x = least l ∧ y.toInt = -1
    · obtain ⟨bottom, unit⟩ := extreme
      have outside : x.toInt.tdiv y.toInt ∉ l := fun mem => fits.mp mem ⟨congrArg toInt bottom, unit⟩
      have none : x.toInt.tmod y.toInt = 0 := by rw [unit, Int.tmod_neg, Int.tmod_one]
      refine .inr (.inl ⟨bottom, unit, ?_, ?_⟩)
      · rw [quotient_eq nonzero, checkedOf_of_not_mem outside]
      · rw [remainder_eq nonzero, checkedOf_of_mem remains]
        exact congrArg (fun word => Except.ok (exact word)) (ext none)
    · have inside : x.toInt.tdiv y.toInt ∈ l := fits.mpr fun both => extreme ⟨ext both.1, both.2⟩
      refine .inr (.inr ⟨⟨_, inside⟩, ⟨_, remains⟩, nonzero, extreme, rfl, rfl, ?_, ?_⟩)
      · rw [quotient_eq nonzero, checkedOf_of_mem inside]
      · rw [remainder_eq nonzero, checkedOf_of_mem remains]

theorem recompose (build : Build) {l : Layout} (positive : 0 < l.bits) {x y q r : Word l} (nonzero : y.toInt ≠ 0)
    (quotient : q.toInt = x.toInt.tdiv y.toInt) (remainder : r.toInt = x.toInt.tmod y.toInt) :
    ∃ m : Word l,
      product build q y = .ok (exact m) ∧ productByBounds q y = .ok (exact m) ∧ sum m r = .ok (exact x) := by
  have mem : q.toInt * y.toInt ∈ l := by
    rw [quotient]
    exact Layout.tdiv_mul_mem x.mem nonzero
  have whole : q.toInt * y.toInt + r.toInt = x.toInt := by
    rw [quotient, remainder]
    exact Int.tdiv_mul_add_tmod x.toInt y.toInt
  refine ⟨⟨_, mem⟩, ?_, ?_, ?_⟩
  · rw [product_eq build positive, checkedOf_of_mem mem]
  · rw [productByBounds_eq, checkedOf_of_mem mem]
  · rw [sum_eq, whole, checkedOf_of_mem x.mem]

/-- A quotient is refused where the remainder is, and besides only for the least word by minus one. A quotient that is
returned leads back to the dividend through the checked operations. -/
theorem quotient_recomposes (build : Build) (t : OperandType) (x y : Word t.layout) :
    ∃ divided remains : Checked t.layout, quotient x y = .ok divided ∧ remainder x y = .ok remains ∧
      (remains.overflow = true → divided.overflow = true) ∧
      (divided.overflow = true ∧ remains.overflow = false ↔
        t.signed = true ∧ x = least t.layout ∧ y.toInt = -1) ∧
      (t.signed = true ∧ x = least t.layout ∧ y.toInt = -1 → remains = exact zero) ∧
      ∀ q, divided = exact q → ∃ r m : Word t.layout, remains = exact r ∧
        r.toInt.natAbs < y.toInt.natAbs ∧ (r.toInt = 0 ∨ r.toInt.sign = x.toInt.sign) ∧
        product build q y = .ok (exact m) ∧ productByBounds q y = .ok (exact m) ∧ sum m r = .ok (exact x) := by
  rcases division_cases x y with
    ⟨zeroDivisor, divides, leaves⟩ | ⟨bottom, unit, divides, leaves⟩ |
      ⟨q, r, nonzero, ordinary, quotient, remainder, divides, leaves⟩
  · refine ⟨_, _, divides, leaves, fun _ => rfl, ?_, ?_, fun q refused => absurd refused (outOfRange_ne_exact q)⟩
    · simp [outOfRange, zeroDivisor]
    · simp [zeroDivisor]
  · have signed : t.signed = true := by
      cases sign : t.signed with
      | true => rfl
      | false =>
        have least := Layout.least_of_unsigned (l := t.layout) sign
        have low := y.mem.1
        omega
    exact ⟨_, _, divides, leaves, fun _ => rfl, iff_of_true ⟨rfl, rfl⟩ ⟨signed, bottom, unit⟩, fun _ => rfl,
      fun q refused => absurd refused (outOfRange_ne_exact q)⟩
  · refine ⟨_, _, divides, leaves, id, iff_of_false (fun refused => Bool.false_ne_true refused.1)
      (fun least => ordinary least.2), fun least => absurd least.2 ordinary, ?_⟩
    intro q' same
    cases same
    obtain ⟨m, wide, bounded, added⟩ := recompose build t.bits_pos nonzero quotient remainder
    have between := tmod_between x.toInt nonzero
    rw [← remainder] at between
    refine ⟨r, m, rfl, between.1, ?_, wide, bounded, added⟩
    rcases Int.lt_trichotomy r.toInt 0 with negative | none | positive
    · right
      rw [Int.sign_eq_neg_one_of_neg negative, Int.sign_eq_neg_one_of_neg (by omega)]
    · exact .inl none
    · right
      rw [Int.sign_eq_one_of_pos positive, Int.sign_eq_one_of_pos (by omega)]

end Checked

end ExactWord
