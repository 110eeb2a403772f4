import ExactWord.Export
import ExactWord.Proofs.Exactness

namespace ExactWord

namespace Layout

variable {l : Layout}

theorem mem_doubled_of_twice {i : Int} (positive : 0 < l.bits) (low : 2 * l.least ≤ i)
    (high : i ≤ 2 * l.greatest + 1) : i ∈ l.doubled := by
  obtain ⟨signed, bits⟩ := l
  change 0 < bits at positive
  cases signed with
  | true =>
    change 2 * -2 ^ (bits - 1) ≤ i at low
    change i ≤ 2 * (2 ^ (bits - 1) - 1) + 1 at high
    have halves : (2 : Int) ^ bits = 2 * 2 ^ (bits - 1) := two_pow_halves positive
    have room : (2 : Int) ^ bits ≤ 2 ^ (2 * bits - 1) := two_pow_mono (by omega)
    change i ∈ twosComplement (2 * bits)
    rw [mem_twosComplement]
    omega
  | false =>
    change 2 * 0 ≤ i at low
    change i ≤ 2 * (2 ^ bits - 1) + 1 at high
    have room : (2 : Int) * 2 ^ bits ≤ 2 ^ (2 * bits) := by
      rw [← pow_succ']
      exact two_pow_mono (by omega)
    change i ∈ unsigned (2 * bits)
    rw [mem_unsigned]
    omega

theorem wrap_congr {i j : Int} (same : i % 2 ^ l.bits = j % 2 ^ l.bits) : l.wrap i = l.wrap j := by
  unfold wrap
  split
  · have residues : i % (Nat.pow 2 l.bits : Nat) = j % (Nat.pow 2 l.bits : Nat) := same
    rw [← Int.emod_bmod, residues, Int.emod_bmod]
  · exact same

theorem wrap_eq_of_emod_eq {i j : Int} (positive : 0 < l.bits) (mem : i ∈ l)
    (same : i % 2 ^ l.bits = j % 2 ^ l.bits) : l.wrap j = i := by
  rw [← wrap_congr same]
  exact wrap_of_mem positive mem

end Layout

namespace Word

open Layout (unsigned twosComplement)

variable {bits : Nat}

/-- Words of the upper half move down by the half in the unsigned layout and by another half in the signed one. -/
theorem toSigned_eq (positive : 0 < bits) (v : Word (unsigned bits)) : v.toSigned = .ok (wrap v.toInt) := by
  have half : (0 : Int) < 2 ^ (bits - 1) := Layout.two_pow_pos (bits - 1)
  have halves : (2 : Int) ^ bits = 2 * 2 ^ (bits - 1) := Layout.two_pow_halves positive
  have bounds := Layout.mem_unsigned.mp v.mem
  have topMem : (2 : Int) ^ (bits - 1) - 1 ∈ unsigned bits := Layout.mem_unsigned.mpr (by omega)
  have top : ((greatest (twosComplement bits)).truncate : Word (unsigned bits)) = ⟨2 ^ (bits - 1) - 1, topMem⟩ :=
    truncate_of_mem positive topMem
  unfold toSigned
  rw [top]
  simp only [le_def]
  split
  · rfl
  · have aboveMem : v.toInt - (2 ^ (bits - 1) - 1) ∈ unsigned bits := Layout.mem_unsigned.mpr (by omega)
    have offsetMem : v.toInt - (2 ^ (bits - 1) - 1) - 1 ∈ unsigned bits := Layout.mem_unsigned.mpr (by omega)
    have lowMem : v.toInt - (2 ^ (bits - 1) - 1) - 1 ∈ twosComplement bits := Layout.mem_twosComplement.mpr (by omega)
    have downMem : v.toInt - (2 ^ (bits - 1) - 1) - 1 + -2 ^ (bits - 1) ∈ twosComplement bits :=
      Layout.mem_twosComplement.mpr (by omega)
    have above : v.sub ⟨2 ^ (bits - 1) - 1, topMem⟩ = .ok ⟨_, aboveMem⟩ := exactly_of_mem aboveMem
    have offset : sub ⟨_, aboveMem⟩ (wrap 1) = .ok ⟨_, offsetMem⟩ := by
      have one : (wrap 1 : Word (unsigned bits)).toInt = 1 :=
        Layout.wrap_of_mem positive (Layout.mem_unsigned.mpr (by omega))
      rw [sub, one]
      exact exactly_of_mem offsetMem
    have low : (truncate ⟨_, offsetMem⟩ : Word (twosComplement bits)) = ⟨_, lowMem⟩ := truncate_of_mem positive lowMem
    have down : add ⟨_, lowMem⟩ (least (twosComplement bits)) = .ok ⟨_, downMem⟩ := exactly_of_mem downMem
    have wrapped : (⟨_, downMem⟩ : Word (twosComplement bits)) = wrap v.toInt := by
      apply ext
      apply (Layout.wrap_eq_of_emod_eq positive downMem _).symm
      have whole : v.toInt - (2 ^ (bits - 1) - 1) - 1 + -2 ^ (bits - 1) = v.toInt - 2 ^ bits := by omega
      rw [whole]
      exact Int.sub_emod_right _ _
    refine (bind_of_ok above _).trans ((bind_of_ok offset _).trans ?_)
    rw [low, down, wrapped]

end Word

namespace Checked

open Word

variable {l : Layout}

theorem narrowed_eq {i : Int} (wide : i ∈ l.doubled) :
    narrowed (⟨i, wide⟩ : Word l.doubled) = (⟨wrap i, decide (i ∉ l)⟩ : Checked l) := by
  have same : (i < l.least ∨ l.greatest < i) ↔ i ∉ l := by
    rw [Layout.mem_iff]
    omega
  exact congrArg (Checked.mk (wrap i)) (decide_eq_decide.mpr same)

theorem wrappedSum_eq (positive : 0 < l.bits) (x y : Word l) :
    wrappedSum x y = .ok ⟨wrap (x.toInt + y.toInt), decide (x.toInt + y.toInt ∉ l)⟩ := by
  have left := x.mem
  have right := y.mem
  rw [Layout.mem_iff] at left right
  have wide : x.toInt + y.toInt ∈ l.doubled := Layout.mem_doubled_of_twice positive (by omega) (by omega)
  rw [wrappedSum, Word.add, toInt_widen, toInt_widen, exactly_of_mem wide, ← narrowed_eq wide]
  rfl

theorem wrappedDifference_eq (signed : l.signed = true) (positive : 0 < l.bits) (x y : Word l) :
    wrappedDifference x y = .ok ⟨wrap (x.toInt - y.toInt), decide (x.toInt - y.toInt ∉ l)⟩ := by
  have left := x.mem
  have right := y.mem
  have bottom := Layout.least_of_signed signed
  rw [Layout.mem_iff] at left right
  have wide : x.toInt - y.toInt ∈ l.doubled := Layout.mem_doubled_of_twice positive (by omega) (by omega)
  rw [wrappedDifference, Word.sub, toInt_widen, toInt_widen, exactly_of_mem wide, ← narrowed_eq wide]
  rfl

end Checked

open Checked

def TrapFree {α : Type} (computation : Except Trap α) : Prop :=
  ∃ result, computation = .ok result

theorem Operation.apply_trapFree (build : Build) (operation : Operation) (t : OperandType) (x y : Word t.layout) :
    TrapFree (operation.apply build x y) :=
  ⟨_, apply_eq build t.bits_pos operation x y⟩

/-- A trap of any instruction would be the result of the whole computation, so returning says that none was met. -/
theorem checks_never_trap (build : Build) :
    (∀ (t : OperandType) (x y : Word t.layout),
      TrapFree (sum x y) ∧ TrapFree (difference x y) ∧ TrapFree (product build x y) ∧
        TrapFree (productByWidening x y) ∧ TrapFree (productByBounds x y) ∧
        TrapFree (quotient x y) ∧ TrapFree (remainder x y)) ∧
    (∀ (t : OperandType) (v : Word (Layout.unsigned t.bits)), TrapFree v.toSigned) ∧
    ∀ x y : Word OperandType.i32.layout, TrapFree (wrappedSum x y) ∧ TrapFree (wrappedDifference x y) := by
  refine ⟨?_, ?_, ?_⟩
  · intro t x y
    have any := fun operation => Operation.apply_trapFree build operation t x y
    exact ⟨any .add, any .sub, any .mul, ⟨_, productByWidening_eq t.bits_pos x y⟩, ⟨_, productByBounds_eq x y⟩,
      any .div, any .rem⟩
  · intro t v
    exact ⟨_, Word.toSigned_eq t.bits_pos v⟩
  · intro x y
    have positive := OperandType.i32.bits_pos
    exact ⟨⟨_, wrappedSum_eq positive x y⟩, ⟨_, wrappedDifference_eq rfl positive x y⟩⟩

end ExactWord
