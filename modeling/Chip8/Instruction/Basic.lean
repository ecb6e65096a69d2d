/-! The instruction set. An instruction carries the operands that its form has:
registers `x` and `y`, a four-bit count `n`, a byte `nn`, an address `nnn` of
twelve bits. The nine operations between two registers are one instruction with
the operation as an operand. A word with no meaning is an instruction too, which
keeps the word. -/

namespace Chip8

abbrev Word := UInt16

abbrev Register := Fin 16

/-- What numerals for registers, keys and digits rest on. -/
instance Register.neZero : @NeZero Nat Zero.ofOfNat0 16 := ⟨by decide⟩

abbrev Address := Fin 4096

/-- The register that arithmetic, shifts and drawing use as their flag. -/
def flagRegister : Register := 15

/-- The operations that combine `Vx` with `Vy` and leave the result in `Vx`. -/
inductive Operation
  | copy
  | or
  | and
  | xor
  | add
  | subtract
  | shiftRight
  /-- `Vy - Vx`, not `Vx - Vy`. -/
  | subtractFrom
  | shiftLeft
deriving DecidableEq, Repr

inductive Instruction
  /-- A call into the machine code of the host; it has no effect. -/
  | host (target : Address)
  | clearScreen
  | ret
  | jump (target : Address)
  | call (target : Address)
  | skipIfByte (x : Register) (byte : UInt8)
  | skipUnlessByte (x : Register) (byte : UInt8)
  | skipIfEqual (x y : Register)
  | setByte (x : Register) (byte : UInt8)
  | addByte (x : Register) (byte : UInt8)
  | combine (operation : Operation) (x y : Register)
  | skipUnlessEqual (x y : Register)
  | setIndex (target : Address)
  /-- A jump to the target plus a register: `V0`, or the one that the top digit of
  the target names. -/
  | jumpOffset (target : Address)
  | random (x : Register) (mask : UInt8)
  | draw (x y : Register) (rows : Fin 16)
  | skipIfPressed (x : Register)
  | skipUnlessPressed (x : Register)
  | readDelay (x : Register)
  | awaitRelease (x : Register)
  | setDelay (x : Register)
  | setSound (x : Register)
  | addIndex (x : Register)
  | glyph (x : Register)
  | decimal (x : Register)
  | store (x : Register)
  | load (x : Register)
  | unknown (word : Word)
deriving DecidableEq, Repr

namespace Instruction

def isDraw : Instruction → Bool
  | draw .. => true
  | _ => false

/-- The register named by the top hexadecimal digit of an address. -/
def leadRegister (target : Address) : Register :=
  ⟨target.val / 256, by omega⟩

end Instruction

end Chip8
