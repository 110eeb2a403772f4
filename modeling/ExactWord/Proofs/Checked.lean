import ExactWord.Routine
import ExactWord.Proofs.Range

namespace ExactWord.Checked

open Word
open Operation (checkedOf)

variable {l : Layout}

theorem checkedOf_of_mem {i : Int} (mem : i ∈ l) : checkedOf (some i) = exact (⟨i, mem⟩ : Word l) :=
  dif_pos mem

theorem checkedOf_of_not_mem {i : Int} (outside : i ∉ l) : checkedOf (some i) = (outOfRange : Checked l) :=
  dif_neg outside

theorem checkedOf_cases (result : Option Int) :
    ((checkedOf result : Checked l) = outOfRange ∧ ∀ i, result = some i → i ∉ l) ∨
      ∃ word : Word l, result = some word.toInt ∧ checkedOf result = exact word := by
  cases result with
  | none => exact .inl ⟨rfl, fun i absent => nomatch absent⟩
  | some i =>
    by_cases mem : i ∈ l
    · exact .inr ⟨⟨i, mem⟩, rfl, checkedOf_of_mem mem⟩
    · refine .inl ⟨checkedOf_of_not_mem mem, ?_⟩
      intro other same
      rw [← Option.some.inj same]
      exact mem

theorem ok_false_of_mem {i : Int} (mem : i ∈ l) : (return false : Except Trap Bool) = .ok (decide (i ∉ l)) := by
  rw [decide_eq_false (not_not_intro mem)]
  rfl

theorem compare_of_ok {computed : Except Trap (Word l)} {bound : Word l} (runs : computed = .ok bound)
    {test : Word l → Prop} [DecidablePred test] {outside : Prop} [Decidable outside] (same : test bound ↔ outside) :
    (do let word ← computed; return decide (test word) : Except Trap Bool) = .ok (decide outside) := by
  rw [runs]
  exact congrArg Except.ok (decide_eq_decide.mpr same)

theorem guarded_exactly (i : Int) :
    guarded (.ok (decide (i ∉ l))) (exactly i) = .ok (checkedOf (some i) : Checked l) := by
  by_cases mem : i ∈ l
  · rw [exactly_of_mem mem, checkedOf_of_mem mem, decide_eq_false (not_not_intro mem)]
    rfl
  · rw [checkedOf_of_not_mem mem, decide_eq_true mem]
    rfl

theorem sumOverflows_eq (x y : Word l) : sumOverflows x y = .ok (decide (x.toInt + y.toInt ∉ l)) := by
  have left := x.mem
  have right := y.mem
  rw [Layout.mem_iff] at left right
  unfold sumOverflows
  cases sign : l.signed with
  | true =>
    have bottom := Layout.least_of_signed sign
    simp only [if_true, lt_def, toInt_zero]
    split
    · have room : l.greatest - x.toInt ∈ l := by rw [Layout.mem_iff]; omega
      apply compare_of_ok (exactly_of_mem room)
      simp only [Layout.mem_iff]
      omega
    · split
      · have room : l.least - x.toInt ∈ l := by rw [Layout.mem_iff]; omega
        apply compare_of_ok (exactly_of_mem room)
        simp only [Layout.mem_iff]
        omega
      · apply ok_false_of_mem
        rw [Layout.mem_iff]
        omega
  | false =>
    have bottom := Layout.least_of_unsigned sign
    have room : l.greatest - x.toInt ∈ l := by rw [Layout.mem_iff]; omega
    simp only [Bool.false_eq_true, if_false, lt_def]
    apply compare_of_ok (exactly_of_mem room)
    simp only [Layout.mem_iff]
    omega

theorem sum_eq (x y : Word l) : sum x y = .ok (checkedOf (some (x.toInt + y.toInt))) := by
  rw [sum, sumOverflows_eq]
  exact guarded_exactly _

theorem differenceOverflows_eq (x y : Word l) :
    differenceOverflows x y = .ok (decide (x.toInt - y.toInt ∉ l)) := by
  have left := x.mem
  have right := y.mem
  rw [Layout.mem_iff] at left right
  unfold differenceOverflows
  cases sign : l.signed with
  | true =>
    have bottom := Layout.least_of_signed sign
    simp only [if_true, lt_def, toInt_zero]
    split
    · have bound : l.greatest + y.toInt ∈ l := by rw [Layout.mem_iff]; omega
      apply compare_of_ok (exactly_of_mem bound)
      simp only [Layout.mem_iff]
      omega
    · split
      · have bound : l.least + y.toInt ∈ l := by rw [Layout.mem_iff]; omega
        apply compare_of_ok (exactly_of_mem bound)
        simp only [Layout.mem_iff]
        omega
      · apply ok_false_of_mem
        rw [Layout.mem_iff]
        omega
  | false =>
    have bottom := Layout.least_of_unsigned sign
    simp only [Bool.false_eq_true, if_false, lt_def]
    apply congrArg Except.ok
    rw [decide_eq_decide, Layout.mem_iff]
    omega

theorem difference_eq (x y : Word l) : difference x y = .ok (checkedOf (some (x.toInt - y.toInt))) := by
  rw [difference, differenceOverflows_eq]
  exact guarded_exactly _

theorem quotient_of_zero {x y : Word l} (zeroDivisor : y.toInt = 0) : quotient x y = .ok outOfRange :=
  if_pos (.inl (ext zeroDivisor))

theorem quotient_eq {x y : Word l} (nonzero : y.toInt ≠ 0) :
    quotient x y = .ok (checkedOf (some (x.toInt.tdiv y.toInt))) := by
  have fits := Layout.tdiv_mem_iff x.mem y.mem nonzero
  have refused : (y = zero ∨ (x = least l ∧ y.isNegOne)) ↔ x.toInt.tdiv y.toInt ∉ l := by
    rw [fits, isNegOne_iff, eq_iff, eq_iff, toInt_zero, toInt_least, Decidable.not_not]
    exact or_iff_right nonzero
  unfold quotient
  simp only [refused]
  split
  · rename_i outside
    rw [checkedOf_of_not_mem outside]
    rfl
  · rename_i inside
    have mem := Decidable.not_not.mp inside
    rw [div_of_mem nonzero mem, checkedOf_of_mem mem]
    rfl

theorem remainder_of_zero {x y : Word l} (zeroDivisor : y.toInt = 0) : remainder x y = .ok outOfRange :=
  if_pos (ext zeroDivisor)

theorem remainder_eq {x y : Word l} (nonzero : y.toInt ≠ 0) :
    remainder x y = .ok (checkedOf (some (x.toInt.tmod y.toInt))) := by
  have mem := Layout.tmod_mem x.mem y.toInt
  have divisor : y ≠ zero := fun same => nonzero (congrArg toInt same)
  rw [remainder, if_neg divisor, checkedOf_of_mem mem]
  simp only [isNegOne_iff]
  split
  · -- the instruction is not asked, and the exact remainder is zero
    rename_i unit
    have none : x.toInt.tmod y.toInt = 0 := by rw [unit, Int.tmod_neg, Int.tmod_one]
    exact congrArg (fun word => Except.ok (exact word)) (ext none.symm)
  · rename_i other
    have fits := (Layout.tdiv_mem_iff x.mem y.mem nonzero).mpr (fun both => other both.2)
    rw [rem, div_of_mem nonzero fits, exactly_of_mem mem]
    rfl

end ExactWord.Checked
