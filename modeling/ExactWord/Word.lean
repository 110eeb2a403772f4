import ExactWord.Layout

namespace ExactWord

structure Word (l : Layout) where
  toInt : Int
  mem : toInt ∈ l
deriving DecidableEq

namespace Word

variable {l : Layout}

theorem ext {x y : Word l} (same : x.toInt = y.toInt) : x = y := by
  cases x; cases y; cases same; rfl

def ofInt? (i : Int) : Option (Word l) :=
  if mem : i ∈ l then some ⟨i, mem⟩ else none

def wrap (i : Int) : Word l := ⟨l.wrap i, l.wrap_mem i⟩

def zero : Word l := ⟨0, l.zero_mem⟩

def least (l : Layout) : Word l := ⟨l.least, l.least_mem⟩

def greatest (l : Layout) : Word l := ⟨l.greatest, l.greatest_mem⟩

instance : LT (Word l) := ⟨fun x y => x.toInt < y.toInt⟩

instance : LE (Word l) := ⟨fun x y => x.toInt ≤ y.toInt⟩

theorem lt_def {x y : Word l} : x < y ↔ x.toInt < y.toInt := Iff.rfl

theorem le_def {x y : Word l} : x ≤ y ↔ x.toInt ≤ y.toInt := Iff.rfl

instance (x y : Word l) : Decidable (x < y) := decidable_of_iff _ (lt_def (x := x)).symm

instance (x y : Word l) : Decidable (x ≤ y) := decidable_of_iff _ (le_def (x := x)).symm

def complement (x : Word l) : Word l :=
  ⟨l.greatest + l.least - x.toInt, by
    have mem := x.mem
    simp only [Layout.mem_iff] at mem ⊢
    omega⟩

def widen (x : Word l) : Word l.doubled := ⟨x.toInt, Layout.mem_doubled x.mem⟩

def truncate {m : Layout} (x : Word l) : Word m := wrap x.toInt

/-- In two's complement the pattern of all ones is minus one. -/
def isNegOne (x : Word l) : Bool := l.signed && x == complement zero

end Word

inductive Trap where
  | overflow
  | zeroDivisor
deriving DecidableEq, Repr

namespace Word

variable {l : Layout}

def exactly (i : Int) : Except Trap (Word l) :=
  if mem : i ∈ l then .ok ⟨i, mem⟩ else .error .overflow

theorem exactly_of_mem {i : Int} (mem : i ∈ l) : (exactly i : Except Trap (Word l)) = .ok ⟨i, mem⟩ :=
  dif_pos mem

def add (x y : Word l) : Except Trap (Word l) := exactly (x.toInt + y.toInt)

def sub (x y : Word l) : Except Trap (Word l) := exactly (x.toInt - y.toInt)

def mul (x y : Word l) : Except Trap (Word l) := exactly (x.toInt * y.toInt)

/-- Truncates toward zero. The least word divided by minus one does not fit. -/
def div (x y : Word l) : Except Trap (Word l) :=
  if y = zero then .error .zeroDivisor else exactly (x.toInt.tdiv y.toInt)

/-- The remainder of the division instruction, which traps whenever that one does. -/
def rem (x y : Word l) : Except Trap (Word l) := do
  let _ ← x.div y
  exactly (x.toInt.tmod y.toInt)

end Word

end ExactWord
