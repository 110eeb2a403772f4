import ExactWord.Routine

namespace ExactWord

inductive Abort where
  | nullPointer (symbol : String)
  | trap (cause : Trap)
deriving DecidableEq, Repr

def Abort.message? : Abort → Option String
  | .nullPointer symbol => some ("called `" ++ symbol ++ "` with null pointer")
  | .trap _ => none

structure Export (t : OperandType) where
  symbol : String
  builtin : Builtin t

structure Stored (t : OperandType) where
  overflow : Bool
  slot : Word t.layout
deriving DecidableEq

namespace Export

def table : (t : OperandType) → List (Export t)
  | .i8 =>
    [⟨"ckd_add_i8", .named .i8 "checked_add_i8"⟩, ⟨"ckd_sub_i8", .named .i8 "checked_sub_i8"⟩,
      ⟨"ckd_mul_i8", .named .i8 "checked_mul_i8"⟩, ⟨"ckd_div_i8", .named .i8 "checked_div_i8"⟩,
      ⟨"ckd_rem_i8", .named .i8 "checked_rem_i8"⟩]
  | .i16 =>
    [⟨"ckd_add_i16", .named .i16 "checked_add_i16"⟩, ⟨"ckd_sub_i16", .named .i16 "checked_sub_i16"⟩,
      ⟨"ckd_mul_i16", .named .i16 "checked_mul_i16"⟩, ⟨"ckd_div_i16", .named .i16 "checked_div_i16"⟩,
      ⟨"ckd_rem_i16", .named .i16 "checked_rem_i16"⟩]
  | .i32 =>
    [⟨"ckd_add_i32", .named .i32 "checked_add_i32"⟩, ⟨"ckd_sub_i32", .named .i32 "checked_sub_i32"⟩,
      ⟨"ckd_mul_i32", .named .i32 "checked_mul_i32"⟩, ⟨"ckd_div_i32", .named .i32 "checked_div_i32"⟩,
      ⟨"ckd_rem_i32", .named .i32 "checked_rem_i32"⟩]
  | .i64 =>
    [⟨"ckd_add_i64", .named .i64 "checked_add_i64"⟩, ⟨"ckd_sub_i64", .named .i64 "checked_sub_i64"⟩,
      ⟨"ckd_mul_i64", .named .i64 "checked_mul_i64"⟩, ⟨"ckd_div_i64", .named .i64 "checked_div_i64"⟩,
      ⟨"ckd_rem_i64", .named .i64 "checked_rem_i64"⟩]
  | .iptr =>
    [⟨"ckd_add_intptr", .named .iptr "checked_add_isize"⟩, ⟨"ckd_sub_intptr", .named .iptr "checked_sub_isize"⟩,
      ⟨"ckd_mul_intptr", .named .iptr "checked_mul_isize"⟩, ⟨"ckd_div_intptr", .named .iptr "checked_div_isize"⟩,
      ⟨"ckd_rem_intptr", .named .iptr "checked_rem_isize"⟩]
  | .u8 =>
    [⟨"ckd_add_u8", .named .u8 "checked_add_u8"⟩, ⟨"ckd_sub_u8", .named .u8 "checked_sub_u8"⟩,
      ⟨"ckd_mul_u8", .named .u8 "checked_mul_u8"⟩, ⟨"ckd_div_u8", .named .u8 "checked_div_u8"⟩,
      ⟨"ckd_rem_u8", .named .u8 "checked_rem_u8"⟩]
  | .u16 =>
    [⟨"ckd_add_u16", .named .u16 "checked_add_u16"⟩, ⟨"ckd_sub_u16", .named .u16 "checked_sub_u16"⟩,
      ⟨"ckd_mul_u16", .named .u16 "checked_mul_u16"⟩, ⟨"ckd_div_u16", .named .u16 "checked_div_u16"⟩,
      ⟨"ckd_rem_u16", .named .u16 "checked_rem_u16"⟩]
  | .u32 =>
    [⟨"ckd_add_u32", .named .u32 "checked_add_u32"⟩, ⟨"ckd_sub_u32", .named .u32 "checked_sub_u32"⟩,
      ⟨"ckd_mul_u32", .named .u32 "checked_mul_u32"⟩, ⟨"ckd_div_u32", .named .u32 "checked_div_u32"⟩,
      ⟨"ckd_rem_u32", .named .u32 "checked_rem_u32"⟩]
  | .u64 =>
    [⟨"ckd_add_u64", .named .u64 "checked_add_u64"⟩, ⟨"ckd_sub_u64", .named .u64 "checked_sub_u64"⟩,
      ⟨"ckd_mul_u64", .named .u64 "checked_mul_u64"⟩, ⟨"ckd_div_u64", .named .u64 "checked_div_u64"⟩,
      ⟨"ckd_rem_u64", .named .u64 "checked_rem_u64"⟩]
  | .uptr =>
    [⟨"ckd_add_uintptr", .named .uptr "checked_add_usize"⟩, ⟨"ckd_sub_uintptr", .named .uptr "checked_sub_usize"⟩,
      ⟨"ckd_mul_uintptr", .named .uptr "checked_mul_usize"⟩, ⟨"ckd_div_uintptr", .named .uptr "checked_div_usize"⟩,
      ⟨"ckd_rem_uintptr", .named .uptr "checked_rem_usize"⟩]

def ofType? (t : OperandType) (symbol : String) : Option (Export t) := (table t).find? (·.symbol == symbol)

def find? (symbol : String) : Option (Sigma Export) :=
  OperandType.all.findSome? fun t => (ofType? t symbol).map (Sigma.mk t)

variable {t : OperandType}

/-- Calls the function; no slot stands for a null pointer. -/
def call (build : Build) (e : Export t) (x y : Word t.layout) : Option (Word t.layout) → Except Abort (Stored t)
  | none => .error (.nullPointer e.symbol)
  | some slot =>
    match e.builtin.run build x y with
    | .ok result => .ok ⟨result.overflow, if result.overflow then slot else result.value⟩
    | .error cause => .error (.trap cause)

def signature (_ : Export t) : Signature := ⟨.bool, [.word t, .word t, .pointer (.word t)]⟩

end Export

variable {t : OperandType}

inductive Operand (t : OperandType) where
  | slot
  | word (value : Word t.layout)

def Operand.read (slot : Word t.layout) : Operand t → Word t.layout
  | .slot => slot
  | .word value => value

structure Call (t : OperandType) where
  callee : Export t
  left : Operand t
  right : Operand t

namespace Call

def run (build : Build) (slot : Word t.layout) (c : Call t) : Except Abort (Stored t) :=
  c.callee.call build (c.left.read slot) (c.right.read slot) (some slot)

def runAll (build : Build) (slot : Word t.layout) : List (Call t) → Except Abort (List (Stored t))
  | [] => .ok []
  | c :: rest => do
    let stored ← c.run build slot
    let later ← runAll build stored.slot rest
    return stored :: later

end Call

namespace Word

open Layout (unsigned twosComplement)

/-- Splits at the greatest signed word, so that no instruction leaves its layout. -/
def toSigned {bits : Nat} (v : Word (unsigned bits)) : Except Trap (Word (twosComplement bits)) := do
  let top : Word (unsigned bits) := (greatest (twosComplement bits)).truncate
  if v ≤ top then
    return v.truncate
  else
    let above ← v.sub top
    let offset ← above.sub (wrap 1)
    offset.truncate.add (least (twosComplement bits))

end Word

/-- A C symbol, the C types of its parameter and its result, and the function behind it, whose layouts they have. -/
structure Conversion where
  symbol : String
  source : OperandType
  target : OperandType
  run : Word (Layout.unsigned target.bits) → Except Trap (Word (Layout.twosComplement target.bits))
  reads : source.layout = Layout.unsigned target.bits
  returns : target.layout = Layout.twosComplement target.bits

namespace Conversion

def table : List Conversion :=
  [⟨"ckd_utos_i8", .u8, .i8, Word.toSigned, rfl, rfl⟩, ⟨"ckd_utos_i16", .u16, .i16, Word.toSigned, rfl, rfl⟩,
    ⟨"ckd_utos_i32", .u32, .i32, Word.toSigned, rfl, rfl⟩, ⟨"ckd_utos_i64", .u64, .i64, Word.toSigned, rfl, rfl⟩,
    ⟨"ckd_utos_intptr", .uptr, .iptr, Word.toSigned, rfl, rfl⟩]

def ofTarget? (t : OperandType) : Option Conversion := table.find? (·.target == t)

def call (c : Conversion) (v : Word (Layout.unsigned c.target.bits)) :
    Except Trap (Word (Layout.twosComplement c.target.bits)) :=
  c.run v

def signature (c : Conversion) : Signature := ⟨.word c.target, [.word c.source]⟩

end Conversion

namespace Checked

variable {l : Layout}

def narrowed (wide : Word l.doubled) : Checked l :=
  ⟨wide.truncate, decide (wide < (Word.least l).widen ∨ (Word.greatest l).widen < wide)⟩

def wrappedSum (x y : Word l) : Except Trap (Checked l) := do
  let wide ← x.widen.add y.widen
  return narrowed wide

def wrappedDifference (x y : Word l) : Except Trap (Checked l) := do
  let wide ← x.widen.sub y.widen
  return narrowed wide

end Checked

structure Legacy where
  symbol : String
  run : Word OperandType.i32.layout → Word OperandType.i32.layout → Except Trap (Checked OperandType.i32.layout)

namespace Legacy

def add : Legacy := ⟨"ckd_legacy_add_i32", Checked.wrappedSum⟩

def sub : Legacy := ⟨"ckd_legacy_sub_i32", Checked.wrappedDifference⟩

def table : List Legacy := [add, sub]

def find? (symbol : String) : Option Legacy := table.find? (·.symbol == symbol)

/-- Calls the function on a flag cell; no cell stands for a null pointer. The new content of the cell is the flag. -/
def call (f : Legacy) (x y : Word OperandType.i32.layout) :
    Option Bool → Except Abort (Checked OperandType.i32.layout)
  | none => .error (.nullPointer f.symbol)
  | some _ =>
    match f.run x y with
    | .ok result => .ok result
    | .error cause => .error (.trap cause)

def signature (_ : Legacy) : Signature := ⟨.word .i32, [.word .i32, .word .i32, .pointer .bool]⟩

end Legacy

def exportedSymbols : List (String × Signature) :=
  OperandType.all.flatMap (fun t => (Export.table t).map fun e => (e.symbol, e.signature)) ++
    Conversion.table.map (fun c => (c.symbol, c.signature)) ++
    Legacy.table.map (fun f => (f.symbol, f.signature))

end ExactWord
