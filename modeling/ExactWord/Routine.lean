import ExactWord.Checked
import ExactWord.OperandType

namespace ExactWord

inductive Operation where
  | add
  | sub
  | mul
  | div
  | rem
deriving DecidableEq, Repr

namespace Operation

def all : List Operation := [.add, .sub, .mul, .div, .rem]

def name : Operation → String
  | .add => "add"
  | .sub => "sub"
  | .mul => "mul"
  | .div => "div"
  | .rem => "rem"

def tag : Operation → String
  | .add => "Add"
  | .sub => "Sub"
  | .mul => "Mul"
  | .div => "Div"
  | .rem => "Rem"

def ofName? (name : String) : Option Operation := all.find? (·.name == name)

def rank : Operation → Nat
  | .add => 0
  | .sub => 1
  | .mul => 2
  | .div => 3
  | .rem => 4

instance : Ord Operation := ⟨fun a b => compare a.rank b.rank⟩

def apply {l : Layout} (build : Build) : Operation → Word l → Word l → Except Trap (Checked l)
  | .add => Checked.sum
  | .sub => Checked.difference
  | .mul => Checked.product build
  | .div => Checked.quotient
  | .rem => Checked.remainder

/-- The exact result; quotients truncate toward zero, and remainders take the sign of the dividend. -/
def result? : Operation → Int → Int → Option Int
  | .add, x, y => some (x + y)
  | .sub, x, y => some (x - y)
  | .mul, x, y => some (x * y)
  | .div, x, y => if y = 0 then none else some (x.tdiv y)
  | .rem, x, y => if y = 0 then none else some (x.tmod y)

def checkedOf {l : Layout} : Option Int → Checked l
  | none => .outOfRange
  | some i => if mem : i ∈ l then .exact ⟨i, mem⟩ else .outOfRange

end Operation

structure Routine where
  operation : Operation
  type : OperandType
deriving DecidableEq, Repr

namespace Routine

def all : List Routine :=
  Operation.all.flatMap fun operation => OperandType.all.map fun type => ⟨operation, type⟩

def name (r : Routine) : String := "checked_" ++ r.operation.name ++ "_" ++ r.type.name

def symbol (r : Routine) : String := "ckd_" ++ r.operation.name ++ "_" ++ r.type.symbolName

def tagged (r : Routine) : String :=
  "EntryPoint \x7b op: " ++ r.operation.tag ++ ", ty: " ++ r.type.tag ++ " \x7d"

instance : Ord Routine :=
  ⟨fun a b => (compare a.operation b.operation).then (compare a.type b.type)⟩

end Routine

structure Builtin (t : OperandType) where
  name : String
  run : Build → Word t.layout → Word t.layout → Except Trap (Checked t.layout)

namespace Builtin

def family (t : OperandType) (sum difference product quotient remainder : String) : List (Builtin t) :=
  [⟨sum, fun _ => Checked.sum⟩, ⟨difference, fun _ => Checked.difference⟩, ⟨product, Checked.product⟩,
    ⟨quotient, fun _ => Checked.quotient⟩, ⟨remainder, fun _ => Checked.remainder⟩]

def table : (t : OperandType) → List (Builtin t)
  | .i8 => family .i8 "checked_add_i8" "checked_sub_i8" "checked_mul_i8" "checked_div_i8" "checked_rem_i8"
  | .i16 => family .i16 "checked_add_i16" "checked_sub_i16" "checked_mul_i16" "checked_div_i16" "checked_rem_i16"
  | .i32 => family .i32 "checked_add_i32" "checked_sub_i32" "checked_mul_i32" "checked_div_i32" "checked_rem_i32"
  | .i64 => family .i64 "checked_add_i64" "checked_sub_i64" "checked_mul_i64" "checked_div_i64" "checked_rem_i64"
  | .iptr =>
    family .iptr "checked_add_isize" "checked_sub_isize" "checked_mul_isize" "checked_div_isize" "checked_rem_isize"
  | .u8 => family .u8 "checked_add_u8" "checked_sub_u8" "checked_mul_u8" "checked_div_u8" "checked_rem_u8"
  | .u16 => family .u16 "checked_add_u16" "checked_sub_u16" "checked_mul_u16" "checked_div_u16" "checked_rem_u16"
  | .u32 => family .u32 "checked_add_u32" "checked_sub_u32" "checked_mul_u32" "checked_div_u32" "checked_rem_u32"
  | .u64 => family .u64 "checked_add_u64" "checked_sub_u64" "checked_mul_u64" "checked_div_u64" "checked_rem_u64"
  | .uptr =>
    family .uptr "checked_add_usize" "checked_sub_usize" "checked_mul_usize" "checked_div_usize" "checked_rem_usize"

def ofType? (t : OperandType) (name : String) : Option (Builtin t) := (table t).find? (·.name == name)

def named (t : OperandType) (name : String) (listed : (ofType? t name).isSome := by decide) : Builtin t :=
  (ofType? t name).get listed

def find? (name : String) : Option (Sigma Builtin) :=
  OperandType.all.findSome? fun t => (ofType? t name).map (Sigma.mk t)

end Builtin

end ExactWord
