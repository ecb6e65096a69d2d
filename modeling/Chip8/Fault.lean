import Chip8.Text.Hex

/-! Faults: the conditions that stop a machine. All but one know the address of
the instruction that ran into them; a key that does not exist may also come from
outside the program, and has no address. -/

namespace Chip8

inductive Fault
  | stackFull (pc : Nat)
  | stackEmpty (pc : Nat)
  /-- The program counter points behind the last word. -/
  | counterOutside (pc : Nat)
  | rangeOutside (length address pc : Nat)
  | noGlyph (digit : UInt8) (pc : Nat)
  | noKey (index : Int)
  /-- The machine had stopped before. -/
  | halted (pc : Nat)
deriving DecidableEq, Repr

namespace Fault

def pc? : Fault → Option Nat
  | stackFull pc | stackEmpty pc | counterOutside pc | rangeOutside _ _ pc | noGlyph _ pc
  | halted pc => some pc
  | noKey _ => none

def condition : Fault → String
  | stackFull _ => "call stack is full"
  | stackEmpty _ => "return with empty stack"
  | counterOutside _ => "program counter has exceeded memory size"
  | rangeOutside length address _ =>
    "access of " ++ toString length ++ " bytes at 0x" ++ Text.Hex.upper address ++
      " is outside memory"
  | noGlyph digit _ => "no font glyph for 0x" ++ Text.Hex.upperPadded 2 digit.toNat
  | noKey index => "invalid key index: " ++ toString index
  | halted _ => "machine is halted"

def message (f : Fault) : String :=
  match f.pc? with
  | some pc => f.condition ++ " (pc=0x" ++ Text.Hex.upperPadded 3 pc ++ ")"
  | none => f.condition

end Fault

end Chip8
