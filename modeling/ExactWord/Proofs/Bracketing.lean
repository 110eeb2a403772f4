import Mathlib.Algebra.BigOperators.Group.List.Basic
import ExactWord.Proofs.Exactness

namespace ExactWord

open Operation (checkedOf)

inductive Bracketing (l : Layout) where
  | leaf (word : Word l)
  | node (left right : Bracketing l)

namespace Bracketing

variable {l : Layout}

def leaves : Bracketing l → List (Word l)
  | leaf word => [word]
  | node left right => left.leaves ++ right.leaves

/-- Applies a checked operation at every node. The whole overflows if any of its nodes does. -/
def evaluate (step : Word l → Word l → Except Trap (Checked l)) : Bracketing l → Except Trap (Checked l)
  | leaf word => .ok (.exact word)
  | node left right => do
    let x ← left.evaluate step
    let y ← right.evaluate step
    let combined ← step x.value y.value
    return ⟨combined.value, x.overflow || y.overflow || combined.overflow⟩

def total (combine : Int → Int → Int) : Bracketing l → Int
  | leaf word => word.toInt
  | node left right => combine (left.total combine) (right.total combine)

def Fits (combine : Int → Int → Int) : Bracketing l → Prop
  | leaf _ => True
  | node left right =>
    left.Fits combine ∧ right.Fits combine ∧ combine (left.total combine) (right.total combine) ∈ l

theorem total_add (tree : Bracketing l) : tree.total (· + ·) = (tree.leaves.map Word.toInt).sum := by
  induction tree with
  | leaf word => simp [total, leaves]
  | node left right ihLeft ihRight => simp only [total, leaves, ihLeft, ihRight, List.map_append, List.sum_append]

theorem total_mul (tree : Bracketing l) : tree.total (· * ·) = (tree.leaves.map Word.toInt).prod := by
  induction tree with
  | leaf word => simp [total, leaves]
  | node left right ihLeft ihRight => simp only [total, leaves, ihLeft, ihRight, List.map_append, List.prod_append]

section Evaluation

variable {step : Word l → Word l → Except Trap (Checked l)} {combine : Int → Int → Int}

theorem evaluate_fits (computes : ∀ x y, step x y = .ok (checkedOf (some (combine x.toInt y.toInt))))
    (tree : Bracketing l) :
    ∃ checked, tree.evaluate step = .ok checked ∧ (checked.overflow = false ↔ tree.Fits combine) ∧
      (tree.Fits combine → checked.value.toInt = tree.total combine) := by
  induction tree with
  | leaf word => exact ⟨.exact word, rfl, iff_of_true rfl trivial, fun _ => rfl⟩
  | node left right ihLeft ihRight =>
    obtain ⟨x, runsLeft, fitsLeft, exactLeft⟩ := ihLeft
    obtain ⟨y, runsRight, fitsRight, exactRight⟩ := ihRight
    let combined : Checked l := checkedOf (some (combine x.value.toInt y.value.toInt))
    refine ⟨⟨combined.value, x.overflow || y.overflow || combined.overflow⟩, ?_, ?_⟩
    · simp only [evaluate, runsLeft, runsRight, bind, Except.bind, computes]
      rfl
    · simp only [Bool.or_eq_false_iff, fitsLeft, fitsRight, Fits, total, and_assoc]
      -- only where both halves fit is the value of each of them its exact total
      by_cases fits : left.Fits combine ∧ right.Fits combine
      · rw [← exactLeft fits.1, ← exactRight fits.2]
        by_cases mem : combine x.value.toInt y.value.toInt ∈ l
        · simp [combined, Checked.checkedOf_of_mem mem, Checked.exact, fits, mem]
        · simp [combined, Checked.checkedOf_of_not_mem mem, Checked.outOfRange, mem]
      · exact ⟨iff_of_false (fun all => fits ⟨all.1, all.2.1⟩) fun all => fits ⟨all.1, all.2.1⟩,
          fun all => absurd ⟨all.1, all.2.1⟩ fits⟩

structure Growing (combine : Int → Int → Int) (floor : Int) : Prop where
  left : ∀ m n, floor ≤ m → floor ≤ n → m ≤ combine m n
  right : ∀ m n, floor ≤ m → floor ≤ n → n ≤ combine m n

theorem growing_add : Growing (· + ·) 0 where
  left := by intros; omega
  right := by intros; omega

theorem growing_mul : Growing (· * ·) 1 where
  left _ _ above positive := le_mul_of_one_le_right (by omega) positive
  right _ _ positive above := le_mul_of_one_le_left (by omega) positive

theorem Growing.floor_le_total {floor : Int} (growing : Growing combine floor) {tree : Bracketing l}
    (above : ∀ word ∈ tree.leaves, floor ≤ word.toInt) : floor ≤ tree.total combine := by
  induction tree with
  | leaf word => exact above word (List.mem_singleton_self word)
  | node left right ihLeft ihRight =>
    have low := ihLeft fun word member => above word (List.mem_append_left _ member)
    have high := ihRight fun word member => above word (List.mem_append_right _ member)
    exact le_trans low (growing.left _ _ low high)

theorem Growing.fits_iff {floor : Int} (growing : Growing combine floor) (bottom : l.least ≤ floor)
    {tree : Bracketing l} (above : ∀ word ∈ tree.leaves, floor ≤ word.toInt) :
    tree.Fits combine ↔ tree.total combine ≤ l.greatest := by
  induction tree with
  | leaf word => exact iff_of_true trivial word.mem.2
  | node left right ihLeft ihRight =>
    have aboveLeft : ∀ word ∈ left.leaves, floor ≤ word.toInt :=
      fun word member => above word (List.mem_append_left _ member)
    have aboveRight : ∀ word ∈ right.leaves, floor ≤ word.toInt :=
      fun word member => above word (List.mem_append_right _ member)
    have low := growing.floor_le_total aboveLeft
    have high := growing.floor_le_total aboveRight
    -- no half is greater than the whole, so a node that leaves the layout takes the whole with it
    have fromLeft := growing.left _ _ low high
    have fromRight := growing.right _ _ low high
    rw [Fits, total, ihLeft aboveLeft, ihRight aboveRight, Layout.mem_iff]
    omega

theorem Growing.evaluate_perm {floor : Int} (growing : Growing combine floor) (nonneg : 0 ≤ floor)
    (computes : ∀ x y, step x y = .ok (checkedOf (some (combine x.toInt y.toInt))))
    {words : List (Word l)} {whole : Int}
    (totals : ∀ tree : Bracketing l, tree.leaves.Perm words → tree.total combine = whole)
    {first second : Bracketing l} (ofFirst : first.leaves.Perm words) (ofSecond : second.leaves.Perm words) :
    ∃ a b : Checked l, first.evaluate step = .ok a ∧ second.evaluate step = .ok b ∧
      (a.overflow = false → b.overflow = false → a.value = b.value) ∧
      (l.signed = false → (∀ word ∈ words, floor ≤ word.toInt) →
        (a.overflow = true ↔ b.overflow = true) ∧ (a.overflow = true ↔ l.greatest < whole)) := by
  obtain ⟨a, runsFirst, fitsFirst, exactFirst⟩ := evaluate_fits computes first
  obtain ⟨b, runsSecond, fitsSecond, exactSecond⟩ := evaluate_fits computes second
  refine ⟨a, b, runsFirst, runsSecond, ?_, ?_⟩
  · intro keepsFirst keepsSecond
    apply Word.ext
    rw [exactFirst (fitsFirst.mp keepsFirst), exactSecond (fitsSecond.mp keepsSecond), totals first ofFirst,
      totals second ofSecond]
  · intro unsigned above
    have bottom : l.least ≤ floor := by rw [Layout.least_of_unsigned unsigned]; exact nonneg
    have overflows : ∀ {tree : Bracketing l} {checked : Checked l}, tree.leaves.Perm words →
        (checked.overflow = false ↔ tree.Fits combine) → (checked.overflow = true ↔ l.greatest < whole) := by
      intro tree checked ofTree fits
      rw [growing.fits_iff bottom fun word member => above word (ofTree.mem_iff.mp member), totals tree ofTree] at fits
      rw [← Bool.not_eq_false, fits, not_le]
    have ofA := overflows ofFirst fitsFirst
    have ofB := overflows ofSecond fitsSecond
    exact ⟨ofA.trans ofB.symm, ofA⟩

end Evaluation

/-- Neither order nor brackets change a sum or a product that does not overflow. Over unsigned words they do not decide
about the overflow either, except that a factor zero may come in time to prevent it. -/
theorem order_and_brackets_irrelevant (build : Build) (t : OperandType) (words : List (Word t.layout))
    (first second : Bracketing t.layout) (ofFirst : first.leaves.Perm words) (ofSecond : second.leaves.Perm words) :
    (∃ a b : Checked t.layout, first.evaluate Checked.sum = .ok a ∧ second.evaluate Checked.sum = .ok b ∧
      (a.overflow = false → b.overflow = false → a.value = b.value) ∧
      (t.signed = false → (a.overflow = true ↔ b.overflow = true) ∧
        (a.overflow = true ↔ t.layout.greatest < (words.map Word.toInt).sum))) ∧
    ∃ a b : Checked t.layout,
      first.evaluate (Checked.product build) = .ok a ∧ second.evaluate (Checked.product build) = .ok b ∧
      (a.overflow = false → b.overflow = false → a.value = b.value) ∧
      (t.signed = false → (∀ word ∈ words, word ≠ Word.zero) → (a.overflow = true ↔ b.overflow = true) ∧
        (a.overflow = true ↔ t.layout.greatest < (words.map Word.toInt).prod)) := by
  have nonneg : t.signed = false → ∀ word ∈ words, 0 ≤ word.toInt := by
    intro unsigned word _
    have low := word.mem.1
    rwa [Layout.least_of_unsigned unsigned] at low
  constructor
  · have sums : ∀ tree : Bracketing t.layout, tree.leaves.Perm words →
        tree.total (· + ·) = (words.map Word.toInt).sum :=
      fun tree ofTree => tree.total_add.trans (ofTree.map _).sum_eq
    obtain ⟨a, b, runsFirst, runsSecond, same, overflows⟩ :=
      growing_add.evaluate_perm (le_refl 0) Checked.sum_eq sums ofFirst ofSecond
    exact ⟨a, b, runsFirst, runsSecond, same, fun unsigned => overflows unsigned (nonneg unsigned)⟩
  · have products : ∀ tree : Bracketing t.layout, tree.leaves.Perm words →
        tree.total (· * ·) = (words.map Word.toInt).prod :=
      fun tree ofTree => tree.total_mul.trans (ofTree.map _).prod_eq
    obtain ⟨a, b, runsFirst, runsSecond, same, overflows⟩ :=
      growing_mul.evaluate_perm (by decide) (Checked.product_eq build t.bits_pos) products ofFirst ofSecond
    refine ⟨a, b, runsFirst, runsSecond, same, fun unsigned nonzero => overflows unsigned ?_⟩
    intro word member
    have low := nonneg unsigned word member
    have other : word.toInt ≠ 0 := fun none => nonzero word member (Word.ext none)
    omega

def threeBytes : List (Word OperandType.u8.layout) := [⟨16, by decide⟩, ⟨8, by decide⟩, ⟨2, by decide⟩]

def threeBytesInOrder : Bracketing OperandType.u8.layout :=
  node (node (leaf ⟨16, by decide⟩) (leaf ⟨8, by decide⟩)) (leaf ⟨2, by decide⟩)

def threeBytesLastFirst : Bracketing OperandType.u8.layout :=
  node (leaf ⟨2, by decide⟩) (node (leaf ⟨16, by decide⟩) (leaf ⟨8, by decide⟩))

theorem threeBytes_product_overflows :
    threeBytesInOrder.leaves.Perm threeBytes ∧ threeBytesLastFirst.leaves.Perm threeBytes ∧
      ∃ a b, threeBytesInOrder.evaluate (Checked.product .standard) = .ok a ∧
        threeBytesLastFirst.evaluate (Checked.product .standard) = .ok b ∧ a.overflow = true ∧ b.overflow = true := by
  have ofFirst : threeBytesInOrder.leaves.Perm threeBytes := .refl _
  have ofSecond : threeBytesLastFirst.leaves.Perm threeBytes := by decide
  obtain ⟨-, a, b, runsFirst, runsSecond, -, overflows⟩ :=
    order_and_brackets_irrelevant .standard .u8 threeBytes threeBytesInOrder threeBytesLastFirst ofFirst ofSecond
  obtain ⟨both, exceeds⟩ := overflows rfl (by decide)
  have overflow : a.overflow = true := exceeds.mpr (by decide)
  exact ⟨ofFirst, ofSecond, a, b, runsFirst, runsSecond, overflow, both.mp overflow⟩

end Bracketing

end ExactWord
