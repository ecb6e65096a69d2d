import Chip8.Instruction.Text

/-! The word behind an instruction. `code` writes an instruction as a number, and gives back the
word that was decoded (`code_decode`), whether it has a meaning or not. Of that number a
mnemonic stands for the bits that all words of its form share, and every operand for the bits of
its field; so mnemonic and operands make up the word (`layout_operands`). -/

namespace Chip8

namespace Word

variable (w : Word)

theorem val_group : (group w).val = w.toNat / 0x1000 := by
  have bound := w.toNat_lt
  simp [group, digit]
  omega

theorem val_x : (x w).val = w.toNat / 0x100 % 16 := rfl

theorem val_y : (y w).val = w.toNat / 0x10 % 16 := rfl

theorem val_n : (n w).val = w.toNat % 16 := by
  simp [n, digit]

theorem toNat_nn : (nn w).toNat = w.toNat % 0x100 := by
  simp [nn]

theorem val_nnn : (nnn w).val = w.toNat % 0x1000 := rfl

end Word

namespace Operation

/-- The last digit of the words with an operation. -/
def digit : Operation → Nat
  | copy => 0x0
  | or => 0x1
  | and => 0x2
  | xor => 0x3
  | add => 0x4
  | subtract => 0x5
  | shiftRight => 0x6
  | subtractFrom => 0x7
  | shiftLeft => 0xE

theorem digit_of_ofDigit? {n : Fin 16} {operation : Operation} (h : ofDigit? n = some operation) :
    operation.digit = n.val := by
  revert n operation
  decide

end Operation

namespace Operand

/-- What an operand adds to the word, in the bits of its field. -/
def weight : Operand → Nat
  | x r => 0x100 * r.val
  | y r => 0x10 * r.val
  | n k => k.val
  | nn b => b.toNat
  | nnn a => a.val
  | raw w => w.toNat

end Operand

namespace Instruction

def code : Instruction → Nat
  | host a => a.val
  | clearScreen => 0x00E0
  | ret => 0x00EE
  | jump a => 0x1000 + a.val
  | call a => 0x2000 + a.val
  | skipIfByte x b => 0x3000 + (0x100 * x.val + b.toNat)
  | skipUnlessByte x b => 0x4000 + (0x100 * x.val + b.toNat)
  | skipIfEqual x y => 0x5000 + (0x100 * x.val + 0x10 * y.val)
  | setByte x b => 0x6000 + (0x100 * x.val + b.toNat)
  | addByte x b => 0x7000 + (0x100 * x.val + b.toNat)
  | combine operation x y => 0x8000 + operation.digit + (0x100 * x.val + 0x10 * y.val)
  | skipUnlessEqual x y => 0x9000 + (0x100 * x.val + 0x10 * y.val)
  | setIndex a => 0xA000 + a.val
  | jumpOffset a => 0xB000 + a.val
  | random x b => 0xC000 + (0x100 * x.val + b.toNat)
  | draw x y n => 0xD000 + (0x100 * x.val + (0x10 * y.val + n.val))
  | skipIfPressed x => 0xE09E + 0x100 * x.val
  | skipUnlessPressed x => 0xE0A1 + 0x100 * x.val
  | readDelay x => 0xF007 + 0x100 * x.val
  | awaitRelease x => 0xF00A + 0x100 * x.val
  | setDelay x => 0xF015 + 0x100 * x.val
  | setSound x => 0xF018 + 0x100 * x.val
  | addIndex x => 0xF01E + 0x100 * x.val
  | glyph x => 0xF029 + 0x100 * x.val
  | decimal x => 0xF033 + 0x100 * x.val
  | store x => 0xF055 + 0x100 * x.val
  | load x => 0xF065 + 0x100 * x.val
  | unknown w => w.toNat

theorem code_decode (w : Word) : (decode w).code = w.toNat := by
  have group := w.val_group
  have x := w.val_x
  have y := w.val_y
  have n := w.val_n
  have nn := w.toNat_nn
  have nnn := w.val_nnn
  have bound := w.toNat_lt
  unfold decode
  dsimp only
  split
  case h_1 =>
    split
    case isTrue clears =>
      have low : (Word.nnn w).val = 0x0E0 := congrArg Fin.val clears
      simp only [code]
      omega
    case isFalse =>
      split
      case isTrue returns =>
        have low : (Word.nnn w).val = 0x0EE := congrArg Fin.val returns
        simp only [code]
        omega
      case isFalse =>
        simp only [code]
        omega
  case h_6 | h_10 =>
    split
    case isTrue zero =>
      have last : (Word.n w).val = 0 := congrArg Fin.val zero
      simp only [code]
      omega
    case isFalse => rfl
  case h_9 =>
    split
    case h_1 operation found =>
      have last := Operation.digit_of_ofDigit? found
      simp only [code]
      omega
    case h_2 => rfl
  case h_15 =>
    split
    case h_3 => rfl
    all_goals simp only [code]; omega
  case h_16 =>
    have top : (Word.group w).val = 0xF := by
      simp only [imp_false] at *
      omega
    split
    case h_10 => rfl
    all_goals simp only [code]; omega
  all_goals simp only [code]; omega

/-! ## What is written of a word -/

/-- The bits that a mnemonic stands for, and the fields of the operands that follow it. -/
def layout : String → Nat × List String
  | "SYS" => (0x0000, ["nnn"])
  | "CLS" => (0x00E0, [])
  | "RET" => (0x00EE, [])
  | "JMP" => (0x1000, ["nnn"])
  | "CALL" => (0x2000, ["nnn"])
  | "SKEB" => (0x3000, ["x", "nn"])
  | "SKNEB" => (0x4000, ["x", "nn"])
  | "SKE" => (0x5000, ["x", "y"])
  | "LDB" => (0x6000, ["x", "nn"])
  | "ADDB" => (0x7000, ["x", "nn"])
  | "LD" => (0x8000, ["x", "y"])
  | "OR" => (0x8001, ["x", "y"])
  | "AND" => (0x8002, ["x", "y"])
  | "XOR" => (0x8003, ["x", "y"])
  | "ADD" => (0x8004, ["x", "y"])
  | "SUB" => (0x8005, ["x", "y"])
  | "SHR" => (0x8006, ["x", "y"])
  | "SUBR" => (0x8007, ["x", "y"])
  | "SHL" => (0x800E, ["x", "y"])
  | "SKNE" => (0x9000, ["x", "y"])
  | "LDI" => (0xA000, ["nnn"])
  | "JMPZ" => (0xB000, ["nnn"])
  | "RND" => (0xC000, ["x", "nn"])
  | "DRAW" => (0xD000, ["x", "y", "n"])
  | "SKP" => (0xE09E, ["x"])
  | "SKNP" => (0xE0A1, ["x"])
  | "LDFT" => (0xF007, ["x"])
  | "LDK" => (0xF00A, ["x"])
  | "LDDT" => (0xF015, ["x"])
  | "LDST" => (0xF018, ["x"])
  | "ADDI" => (0xF01E, ["x"])
  | "FONT" => (0xF029, ["x"])
  | "BCD" => (0xF033, ["x"])
  | "SREG" => (0xF055, ["x"])
  | "LREG" => (0xF065, ["x"])
  | _ => (0x0000, ["raw"])

theorem fields_operands (i : Instruction) :
    i.operands.map Operand.field = (layout i.mnemonic).2 := by
  cases i with
  | combine operation => cases operation <;> rfl
  | _ => rfl

theorem layout_operands (i : Instruction) :
    (layout i.mnemonic).1 + (i.operands.map Operand.weight).foldr (· + ·) 0 = i.code := by
  cases i with
  | host | unknown => exact Nat.zero_add _
  | combine operation => cases operation <;> rfl
  | _ => rfl

end Instruction

end Chip8
