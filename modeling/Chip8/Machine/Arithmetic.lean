import Chip8.Dialect
import Chip8.Instruction.Basic
import Chip8.Machine.Basic

/-! The operations between two registers. Each is a function of the old values of
`Vx` and `Vy`; what it leaves in the flag register is written after the result, so
it stands even where `Vx` is that register. The machine works in place and comes to
the same (`Machine.run_combineRegisters`). -/

namespace Chip8

/-- The value for `Vx`, and the one for the flag register if it is to be written. -/
def Operation.evaluate (dialect : Dialect) (operation : Operation) (a b : UInt8) :
    UInt8 × Option UInt8 :=
  let cleared := if dialect.resetFlag then some 0 else none
  let source := if dialect.shiftSource then b else a
  match operation with
  | copy => (b, none)
  | or => (a ||| b, cleared)
  | and => (a &&& b, cleared)
  | xor => (a ^^^ b, cleared)
  | add => (a + b, some (if 256 ≤ a.toNat + b.toNat then 1 else 0))
  | subtract => (a - b, some (if b ≤ a then 1 else 0))
  | subtractFrom => (b - a, some (if a ≤ b then 1 else 0))
  | shiftRight => (source >>> 1, some (source &&& 1))
  | shiftLeft => (source <<< 1, some (source >>> 7))

namespace Registers

def combine (v : Registers) (dialect : Dialect) (operation : Operation) (x y : Register) :
    Registers :=
  let (value, flag) := operation.evaluate dialect (v.read x) (v.read y)
  let v := v.write x value
  match flag with
  | some flag => v.write flagRegister flag
  | none => v

/-- Replaces `V0` up to `Vx`. -/
def replaceUpTo (v : Registers) (x : Register) (byte : Nat → UInt8) : Registers :=
  Vector.ofFn fun k => if k ≤ x then byte k else v.read k

def upTo (v : Registers) (x : Register) : List UInt8 := v.toList.take (x.val + 1)

end Registers

end Chip8
