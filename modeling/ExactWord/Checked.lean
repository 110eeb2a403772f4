import ExactWord.Word

namespace ExactWord

/-- How the library is built: with or without products of more than 64 bits. -/
structure Build where
  wideProducts : Bool
deriving DecidableEq, Repr

def Build.standard : Build := ⟨true⟩

def Layout.multipliesWide (build : Build) (l : Layout) : Bool := build.wideProducts || l.doubled.bits ≤ 64

structure Checked (l : Layout) where
  value : Word l
  overflow : Bool
deriving DecidableEq

namespace Checked

variable {l : Layout}

/-- A result out of range carries the word zero. -/
def outOfRange : Checked l := ⟨Word.zero, true⟩

def exact (value : Word l) : Checked l := ⟨value, false⟩

def guarded (overflows : Except Trap Bool) (instruction : Except Trap (Word l)) : Except Trap (Checked l) := do
  if ← overflows then return outOfRange
  return exact (← instruction)

open Word

def sumOverflows (x y : Word l) : Except Trap Bool :=
  if l.signed then
    if zero < x then do
      let room ← (greatest l).sub x
      return decide (room < y)
    else if x < zero then do
      let room ← (least l).sub x
      return decide (y < room)
    else
      return false
  else do
    let room ← (greatest l).sub x
    return decide (room < y)

def sum (x y : Word l) : Except Trap (Checked l) := guarded (sumOverflows x y) (x.add y)

def differenceOverflows (x y : Word l) : Except Trap Bool :=
  if l.signed then
    if y < zero then do
      let bound ← (greatest l).add y
      return decide (bound < x)
    else if zero < y then do
      let bound ← (least l).add y
      return decide (x < bound)
    else
      return false
  else
    return decide (x < y)

def difference (x y : Word l) : Except Trap (Checked l) := guarded (differenceOverflows x y) (x.sub y)

def quotient (x y : Word l) : Except Trap (Checked l) :=
  if y = zero ∨ (x = least l ∧ y.isNegOne) then
    return outOfRange
  else do
    return exact (← x.div y)

/-- Minus one divides every word, and the instruction is not asked since it may trap. -/
def remainder (x y : Word l) : Except Trap (Checked l) :=
  if y = zero then
    return outOfRange
  else if y.isNegOne then
    return exact zero
  else do
    return exact (← x.rem y)

def productByWidening (x y : Word l) : Except Trap (Checked l) := do
  let product ← x.widen.mul y.widen
  if (greatest l).widen < product ∨ product < (least l).widen then
    return outOfRange
  else
    return exact product.truncate

/-- Compares one factor with the quotient of a bound by the other. The least word is only ever divided by a
positive factor, since its quotient by minus one does not fit. -/
def productExceedsBounds (x y : Word l) : Except Trap Bool :=
  if zero < x then
    if zero < y then do
      let bound ← (greatest l).div y
      return decide (bound < x)
    else if y < zero then do
      let bound ← (least l).div x
      return decide (y < bound)
    else
      return false
  else if x < zero then
    if zero < y then do
      let bound ← (least l).div y
      return decide (x < bound)
    else if y < zero then do
      let bound ← (greatest l).div y
      return decide (x < bound)
    else
      return false
  else
    return false

def productByBounds (x y : Word l) : Except Trap (Checked l) :=
  if l.signed then
    guarded (productExceedsBounds x y) (x.mul y)
  else if x = zero then
    return exact zero
  else
    guarded (do let bound ← (greatest l).div x; return decide (bound < y)) (x.mul y)

def product (build : Build) (x y : Word l) : Except Trap (Checked l) :=
  if l.multipliesWide build then productByWidening x y else productByBounds x y

end Checked

end ExactWord
