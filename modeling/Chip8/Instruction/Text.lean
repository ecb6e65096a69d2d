import Chip8.Instruction.Decode
import Chip8.Text.Hex

/-! The written form of an instruction: its mnemonic, filled up to five
characters, and its operands in order. A number has as many hexadecimal digits as
its field, so the text tells the word apart from every other. -/

namespace Chip8

/-- An operand as it is written, tagged with the field of the word that it comes from. -/
inductive Operand
  | x (register : Register)
  | y (register : Register)
  | n (count : Fin 16)
  | nn (byte : UInt8)
  | nnn (address : Address)
  | raw (word : Word)
deriving DecidableEq, Repr

namespace Operand

def field : Operand → String
  | x _ => "x"
  | y _ => "y"
  | n _ => "n"
  | nn _ => "nn"
  | nnn _ => "nnn"
  | raw _ => "raw"

def text : Operand → String
  | x r | y r => "V" ++ Text.Hex.upper r.val
  | n k => "0x" ++ Text.Hex.upper k.val
  | nn b => "0x" ++ Text.Hex.upperPadded 2 b.toNat
  | nnn a => "0x" ++ Text.Hex.upperPadded 3 a.val
  | raw w => "0x" ++ Text.Hex.upperPadded 4 w.toNat

end Operand

def Operation.mnemonic : Operation → String
  | copy => "LD"
  | or => "OR"
  | and => "AND"
  | xor => "XOR"
  | add => "ADD"
  | subtract => "SUB"
  | shiftRight => "SHR"
  | subtractFrom => "SUBR"
  | shiftLeft => "SHL"

namespace Instruction

def mnemonic : Instruction → String
  | host _ => "SYS"
  | clearScreen => "CLS"
  | ret => "RET"
  | jump _ => "JMP"
  | call _ => "CALL"
  | skipIfByte .. => "SKEB"
  | skipUnlessByte .. => "SKNEB"
  | skipIfEqual .. => "SKE"
  | setByte .. => "LDB"
  | addByte .. => "ADDB"
  | combine operation .. => operation.mnemonic
  | skipUnlessEqual .. => "SKNE"
  | setIndex _ => "LDI"
  | jumpOffset _ => "JMPZ"
  | random .. => "RND"
  | draw .. => "DRAW"
  | skipIfPressed _ => "SKP"
  | skipUnlessPressed _ => "SKNP"
  | readDelay _ => "LDFT"
  | awaitRelease _ => "LDK"
  | setDelay _ => "LDDT"
  | setSound _ => "LDST"
  | addIndex _ => "ADDI"
  | glyph _ => "FONT"
  | decimal _ => "BCD"
  | store _ => "SREG"
  | load _ => "LREG"
  | unknown _ => "ERR"

def operands : Instruction → List Operand
  | clearScreen | ret => []
  | host a | jump a | call a | setIndex a | jumpOffset a => [.nnn a]
  | skipIfByte r b | skipUnlessByte r b | setByte r b | addByte r b | random r b => [.x r, .nn b]
  | skipIfEqual r s | skipUnlessEqual r s | combine _ r s => [.x r, .y s]
  | draw r s k => [.x r, .y s, .n k]
  | skipIfPressed r | skipUnlessPressed r | readDelay r | awaitRelease r | setDelay r | setSound r
  | addIndex r | glyph r | decimal r | store r | load r => [.x r]
  | unknown w => [.raw w]

/-- A mnemonic without operands keeps the blanks that fill it up. -/
def text (i : Instruction) : String :=
  let head := String.ofList (i.mnemonic.toList.rightpad 5 ' ')
  match i.operands with
  | [] => head
  | operands => head ++ " " ++ ", ".intercalate (operands.map Operand.text)

end Instruction

end Chip8
