import Mathlib.Data.Int.ModEq
import Mathlib.Logic.Equiv.Defs
import ExactWord.Proofs.Wrapping

namespace ExactWord

namespace Layout

variable {l : Layout}

theorem wrap_emod (l : Layout) (i : Int) : l.wrap i % 2 ^ l.bits = i % 2 ^ l.bits := by
  unfold wrap
  split
  · exact Int.bmod_emod
  · exact Int.emod_emod_of_dvd i (Int.dvd_refl _)

theorem eq_wrap_iff (positive : 0 < l.bits) {i j : Int} : i = l.wrap j ↔ i ∈ l ∧ i ≡ j [ZMOD 2 ^ l.bits] := by
  constructor
  · rintro rfl
    exact ⟨l.wrap_mem j, l.wrap_emod j⟩
  · rintro ⟨mem, same⟩
    exact (wrap_eq_of_emod_eq positive mem same).symm

theorem wrap_of_turns (positive : 0 < l.bits) {i : Int} (turns : Int) (mem : i + turns * 2 ^ l.bits ∈ l) :
    l.wrap i = i + turns * 2 ^ l.bits := by
  symm
  apply (eq_wrap_iff positive).mpr
  exact ⟨mem, Int.add_mul_emod_self_right i turns _⟩

end Layout

namespace Word

open Layout (unsigned twosComplement)

variable {bits : Nat}

theorem wrap_wrap {l : Layout} (x : Word l) (m : Layout) (positive : 0 < l.bits) (width : m.bits = l.bits) :
    wrap (wrap x.toInt : Word m).toInt = x := by
  apply ext
  apply Layout.wrap_eq_of_emod_eq positive x.mem
  rw [← width]
  exact (m.wrap_emod x.toInt).symm

def pattern (s : Word (twosComplement bits)) : Word (unsigned bits) := wrap s.toInt

theorem toInt_pattern (s : Word (twosComplement bits)) : s.pattern.toInt = s.toInt % 2 ^ bits := rfl

def signedReading (positive : 0 < bits) : Word (unsigned bits) ≃ Word (twosComplement bits) where
  toFun v := wrap v.toInt
  invFun := pattern
  left_inv v := wrap_wrap v (twosComplement bits) positive rfl
  right_inv s := wrap_wrap s (unsigned bits) positive rfl

variable (positive : 0 < bits) (v : Word (unsigned bits))

theorem toInt_signedReading : (signedReading positive v).toInt = (twosComplement bits).wrap v.toInt := rfl

theorem signedReading_of_lower (lower : v.toInt ≤ 2 ^ (bits - 1) - 1) :
    (signedReading positive v).toInt = v.toInt := by
  have bounds := Layout.mem_unsigned.mp v.mem
  have half : (0 : Int) < 2 ^ (bits - 1) := Layout.two_pow_pos (bits - 1)
  exact Layout.wrap_of_mem positive (Layout.mem_twosComplement.mpr (by omega))

theorem signedReading_of_upper (upper : 2 ^ (bits - 1) ≤ v.toInt) :
    (signedReading positive v).toInt = v.toInt - 2 ^ bits := by
  have bounds := Layout.mem_unsigned.mp v.mem
  have halves : (2 : Int) ^ bits = 2 * 2 ^ (bits - 1) := Layout.two_pow_halves positive
  have mem : v.toInt + -1 * 2 ^ bits ∈ twosComplement bits := Layout.mem_twosComplement.mpr (by omega)
  have down : (twosComplement bits).wrap v.toInt = v.toInt + -1 * 2 ^ bits := Layout.wrap_of_turns positive (-1) mem
  rw [toInt_signedReading, down]
  omega

end Word

theorem Conversion.ofTarget?_of_signed {t : OperandType} (signed : t.signed = true) :
    ofTarget? t = some ⟨"ckd_utos_" ++ t.symbolName, t.unsignedType, t, Word.toSigned, t.layout_unsignedType,
      t.layout_of_signed signed⟩ := by
  cases t with
  | i8 | i16 | i32 | i64 | iptr => rfl
  | u8 | u16 | u32 | u64 | uptr => cases signed

namespace Word

open Layout (unsigned twosComplement)

/-- The conversion never traps and is a one-to-one match of the two layouts; the C function is the same match. -/
theorem toSigned_matches_residues (t : OperandType) (signed : t.signed = true) :
    ∃ reading : Word (unsigned t.bits) ≃ Word (twosComplement t.bits),
      (∀ v : Word (unsigned t.bits), v.toSigned = .ok (reading v)) ∧
      (∀ v i, i = (reading v).toInt ↔
        (-2 ^ (t.bits - 1) ≤ i ∧ i ≤ 2 ^ (t.bits - 1) - 1) ∧ i ≡ v.toInt [ZMOD 2 ^ t.bits]) ∧
      (∀ s, (reading.symm s).toInt = s.toInt % 2 ^ t.bits) ∧
      (∀ u v, u < v → v.toInt ≤ 2 ^ (t.bits - 1) - 1 → reading u < reading v) ∧
      (∀ u v, u < v → 2 ^ (t.bits - 1) ≤ u.toInt → reading u < reading v) ∧
      Conversion.ofTarget? t = some ⟨"ckd_utos_" ++ t.symbolName, t.unsignedType, t, toSigned, t.layout_unsignedType,
        t.layout_of_signed signed⟩ ∧
      ∀ v, Conversion.call ⟨"ckd_utos_" ++ t.symbolName, t.unsignedType, t, toSigned, t.layout_unsignedType,
        t.layout_of_signed signed⟩ v = .ok (reading v) := by
  have positive : 0 < t.bits := t.bits_pos
  refine ⟨signedReading positive, toSigned_eq positive, ?_, toInt_pattern, ?_, ?_,
    Conversion.ofTarget?_of_signed signed, toSigned_eq positive⟩
  · intro v i
    exact Layout.eq_wrap_iff (l := twosComplement t.bits) positive
  · intro u v less lower
    rw [lt_def] at less ⊢
    rw [signedReading_of_lower positive u (by omega), signedReading_of_lower positive v lower]
    exact less
  · intro u v less upper
    rw [lt_def] at less ⊢
    rw [signedReading_of_upper positive u upper, signedReading_of_upper positive v (by omega)]
    omega

theorem firstOfUpperHalf_read :
    let top : Word (unsigned OperandType.i64.bits) := ⟨2 ^ 63 - 1, by decide⟩
    let next : Word (unsigned OperandType.i64.bits) := ⟨2 ^ 63, by decide⟩
    OperandType.i64.signed = true ∧ top.toSigned = .ok (greatest _) ∧ next.toSigned = .ok (least _) ∧
      Conversion.call ⟨"ckd_utos_i64", .u64, .i64, toSigned, rfl, rfl⟩ next = .ok (least _) := by
  intro top next
  obtain ⟨reading, runs, residues, -, -, -, -, exported⟩ := toSigned_matches_residues .i64 rfl
  have greatestRead : greatest _ = reading top := ext ((residues top _).mpr (by decide))
  have leastRead : least _ = reading next := ext ((residues next _).mpr (by decide))
  rw [greatestRead, leastRead]
  exact ⟨rfl, runs top, runs next, exported next⟩

end Word

end ExactWord
