import ExactWord.Word

namespace ExactWord

inductive OperandType where
  | i8
  | i16
  | i32
  | i64
  | iptr
  | u8
  | u16
  | u32
  | u64
  | uptr
deriving DecidableEq, Repr

namespace OperandType

def all : List OperandType := [.i8, .i16, .i32, .i64, .iptr, .u8, .u16, .u32, .u64, .uptr]

def pointerBits : Nat := 64

def signed : OperandType → Bool
  | .i8 | .i16 | .i32 | .i64 | .iptr => true
  | .u8 | .u16 | .u32 | .u64 | .uptr => false

def bits : OperandType → Nat
  | .i8 | .u8 => 8
  | .i16 | .u16 => 16
  | .i32 | .u32 => 32
  | .i64 | .u64 => 64
  | .iptr | .uptr => pointerBits

def layout (t : OperandType) : Layout := ⟨t.signed, t.bits⟩

def unsignedType : OperandType → OperandType
  | .i8 | .u8 => .u8
  | .i16 | .u16 => .u16
  | .i32 | .u32 => .u32
  | .i64 | .u64 => .u64
  | .iptr | .uptr => .uptr

def name : OperandType → String
  | .i8 => "i8"
  | .i16 => "i16"
  | .i32 => "i32"
  | .i64 => "i64"
  | .iptr => "isize"
  | .u8 => "u8"
  | .u16 => "u16"
  | .u32 => "u32"
  | .u64 => "u64"
  | .uptr => "usize"

def tag : OperandType → String
  | .i8 => "I8"
  | .i16 => "I16"
  | .i32 => "I32"
  | .i64 => "I64"
  | .iptr => "Isize"
  | .u8 => "U8"
  | .u16 => "U16"
  | .u32 => "U32"
  | .u64 => "U64"
  | .uptr => "Usize"

def symbolName : OperandType → String
  | .iptr => "intptr"
  | .uptr => "uintptr"
  | t => t.name

def stdintName : OperandType → String
  | .i8 => "int8_t"
  | .i16 => "int16_t"
  | .i32 => "int32_t"
  | .i64 => "int64_t"
  | .iptr => "intptr_t"
  | .u8 => "uint8_t"
  | .u16 => "uint16_t"
  | .u32 => "uint32_t"
  | .u64 => "uint64_t"
  | .uptr => "uintptr_t"

def ofName? (name : String) : Option OperandType := all.find? (·.name == name)

def rank : OperandType → Nat
  | .i8 => 0
  | .i16 => 1
  | .i32 => 2
  | .i64 => 3
  | .iptr => 4
  | .u8 => 5
  | .u16 => 6
  | .u32 => 7
  | .u64 => 8
  | .uptr => 9

instance : Ord OperandType := ⟨fun a b => compare a.rank b.rank⟩

theorem layout_unsignedType (t : OperandType) : t.unsignedType.layout = Layout.unsigned t.bits := by
  cases t <;> rfl

theorem layout_of_signed (t : OperandType) (signed : t.signed) : t.layout = Layout.twosComplement t.bits := by
  simp [layout, Layout.twosComplement, signed]

end OperandType

inductive CType where
  | bool
  | word (type : OperandType)
  | pointer (target : CType)
deriving DecidableEq, Repr

def CType.declare (declarator : String) : CType → String
  | .bool => "bool " ++ declarator
  | .word type => type.stdintName ++ " " ++ declarator
  | .pointer target => target.declare ("*" ++ declarator)

structure Signature where
  returns : CType
  parameters : List CType
deriving DecidableEq, Repr

structure Prototype where
  symbol : String
  signature : Signature
  parameterNames : List String
deriving DecidableEq, Repr

def Prototype.text (p : Prototype) : String :=
  let parameters := p.signature.parameters.zipWith (fun type name => type.declare name) p.parameterNames
  p.signature.returns.declare p.symbol ++ "(" ++ ", ".intercalate parameters ++ ");"

end ExactWord
