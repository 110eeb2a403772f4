import ExactWord.Proofs.Catalogue
import ExactWord.Proofs.Exactness
import ExactWord.Proofs.TwosComplement

namespace ExactWord

theorem Layout.two_pow_bits {l : Layout} (signed : l.signed = true) (positive : 0 < l.bits) :
    (2 : Int) ^ l.bits = 2 * (l.greatest + 1) := by
  have halves : (2 : Int) ^ l.bits = 2 * Int.pow 2 (l.bits - 1) := two_pow_halves positive
  simp only [greatest, signed, if_true]
  omega

namespace Checked

open Word
open Operation (checkedOf)

variable {l : Layout} {i : Int}

def wrappedOf (i : Int) : Checked l := ⟨wrap i, decide (i ∉ l)⟩

theorem wrappedOf_of_mem (positive : 0 < l.bits) (mem : i ∈ l) : wrappedOf i = exact (⟨i, mem⟩ : Word l) := by
  have kept : (wrap i : Word l) = ⟨i, mem⟩ := ext (Layout.wrap_of_mem positive mem)
  rw [wrappedOf, kept, decide_eq_false (not_not_intro mem)]
  rfl

theorem wrappedOf_of_not_mem (outside : i ∉ l) : wrappedOf i = (⟨wrap i, true⟩ : Checked l) := by
  rw [wrappedOf, decide_eq_true outside]

/-- The integer that a wrapped result stands for when it is off by one turn at most. -/
def unwrapped (wrapped : Checked l) : Int :=
  if wrapped.overflow then
    if wrapped.value.toInt < 0 then wrapped.value.toInt + 2 ^ l.bits else wrapped.value.toInt - 2 ^ l.bits
  else
    wrapped.value.toInt

theorem unwrapped_wrappedOf (signed : l.signed = true) (positive : 0 < l.bits) (low : 2 * l.least ≤ i)
    (high : i ≤ 2 * l.greatest + 1) : (wrappedOf i : Checked l).unwrapped = i := by
  have turn := Layout.two_pow_bits signed positive
  have bottom := Layout.least_of_signed signed
  by_cases mem : i ∈ l
  · rw [wrappedOf_of_mem positive mem]
    rfl
  · rw [wrappedOf_of_not_mem mem, unwrapped, if_pos rfl]
    rw [Layout.mem_iff] at mem
    change (if l.wrap i < 0 then l.wrap i + 2 ^ l.bits else l.wrap i - 2 ^ l.bits) = i
    -- one turn takes what is too small to the upper half and what is too great to the negative words
    rcases lt_or_ge i l.least with below | inside
    · have up : l.wrap i = i + 1 * 2 ^ l.bits := Layout.wrap_of_turns positive 1 (Layout.mem_iff.mpr (by omega))
      rw [up, if_neg (by omega)]
      omega
    · have down : l.wrap i = i + -1 * 2 ^ l.bits :=
        Layout.wrap_of_turns positive (-1) (Layout.mem_iff.mpr (by omega))
      rw [down, if_pos (by omega)]
      omega

theorem wrappedOf_beside_checkedOf (positive : 0 < l.bits) (i : Int) :
    (wrappedOf i : Checked l).overflow = (checkedOf (some i) : Checked l).overflow ∧
      ((checkedOf (some i) : Checked l).overflow = false →
        (wrappedOf i : Checked l).value = (checkedOf (some i) : Checked l).value) := by
  by_cases mem : i ∈ l
  · rw [wrappedOf_of_mem positive mem, checkedOf_of_mem mem]
    exact ⟨rfl, fun _ => rfl⟩
  · rw [wrappedOf_of_not_mem mem, checkedOf_of_not_mem mem]
    exact ⟨rfl, Bool.noConfusion⟩

end Checked

namespace Word

open Layout (unsigned twosComplement)

variable {bits : Nat} {i j : Int}

theorem pattern_modEq (s : Word (twosComplement bits)) : s.pattern.toInt ≡ s.toInt [ZMOD 2 ^ bits] :=
  (unsigned bits).wrap_emod s.toInt

theorem toSigned_wrap (positive : 0 < bits) (same : i ≡ j [ZMOD 2 ^ bits]) :
    (wrap i : Word (unsigned bits)).toSigned = .ok (wrap j) := by
  rw [toSigned_eq positive]
  have residues : (unsigned bits).wrap i % 2 ^ bits = j % 2 ^ bits := ((unsigned bits).wrap_emod i).trans same
  exact congrArg Except.ok (ext (Layout.wrap_congr (l := twosComplement bits) residues))

end Word

namespace Legacy

open Word
open Checked (wrappedOf)

theorem call_of_run {f : Legacy} {x y : Word OperandType.i32.layout} {result : Checked OperandType.i32.layout}
    (runs : f.run x y = .ok result) (cell : Bool) : f.call x y (some cell) = .ok result := by
  simp only [call, runs]

/-- A helper beside the routine and the C function of the given names: it agrees with the routine, wraps what `combine`
makes of the bit patterns, leads back to what it makes of the integers, and is what the function returns and stores,
whatever the cell held before. -/
def KeepsExact (build : Build) (helper : Word OperandType.i32.layout → Word OperandType.i32.layout →
      Except Trap (Checked OperandType.i32.layout))
    (routine symbol : String) (combine : Int → Int → Int) (x y : Word OperandType.i32.layout) : Prop :=
  ∃ (wrapped general : Checked OperandType.i32.layout) (builtin : Builtin .i32) (function : Legacy),
    helper x y = .ok wrapped ∧
    Builtin.find? routine = some ⟨.i32, builtin⟩ ∧ builtin.run build x y = .ok general ∧
    wrapped.overflow = general.overflow ∧ (general.overflow = false → wrapped.value = general.value) ∧
    (wrap (combine (pattern x).toInt (pattern y).toInt) : Word (Layout.unsigned 32)).toSigned = .ok wrapped.value ∧
    combine x.toInt y.toInt = wrapped.unwrapped ∧
    Legacy.find? symbol = some function ∧ ∀ cell, function.call x y (some cell) = .ok wrapped

theorem keepsExact_of_run (build : Build) (f : Legacy) (operation : Operation) {combine : Int → Int → Int}
    {x y : Word OperandType.i32.layout}
    (runs : f.run x y = .ok (wrappedOf (combine x.toInt y.toInt)))
    (defined : operation.result? x.toInt y.toInt = some (combine x.toInt y.toInt))
    (patterns : combine (pattern x).toInt (pattern y).toInt ≡ combine x.toInt y.toInt [ZMOD 2 ^ 32])
    (low : -2 ^ 32 ≤ combine x.toInt y.toInt) (high : combine x.toInt y.toInt ≤ 2 ^ 32 - 1)
    (listed : Legacy.find? f.symbol = some f) :
    KeepsExact build f.run (Routine.name ⟨operation, .i32⟩) f.symbol combine x y := by
  have positive := OperandType.i32.bits_pos
  have applied := Operation.apply_eq build positive operation x y
  rw [defined] at applied
  obtain ⟨flags, values⟩ := Checked.wrappedOf_beside_checkedOf positive (combine x.toInt y.toInt)
  have recovered := Checked.unwrapped_wrappedOf (l := OperandType.i32.layout) rfl positive low high
  exact ⟨_, _, _, f, runs, Builtin.find?_name ⟨operation, .i32⟩, applied, flags, values,
    toSigned_wrap positive patterns, recovered.symm, listed, call_of_run runs⟩

theorem helpers_keep_exact (build : Build) (x y : Word OperandType.i32.layout) :
    KeepsExact build Checked.wrappedSum "checked_add_i32" "ckd_legacy_add_i32" (· + ·) x y ∧
      KeepsExact build Checked.wrappedDifference "checked_sub_i32" "ckd_legacy_sub_i32" (· - ·) x y := by
  have positive := OperandType.i32.bits_pos
  have left : -2 ^ 31 ≤ x.toInt ∧ x.toInt ≤ 2 ^ 31 - 1 := Layout.mem_twosComplement.mp x.mem
  have right : -2 ^ 31 ≤ y.toInt ∧ y.toInt ≤ 2 ^ 31 - 1 := Layout.mem_twosComplement.mp y.mem
  constructor
  · exact keepsExact_of_run build add .add (Checked.wrappedSum_eq positive x y) rfl
      ((pattern_modEq x).add (pattern_modEq y)) (by omega) (by omega) rfl
  · exact keepsExact_of_run build sub .sub (Checked.wrappedDifference_eq rfl positive x y) rfl
      ((pattern_modEq x).sub (pattern_modEq y)) (by omega) (by omega) rfl

end Legacy

end ExactWord
