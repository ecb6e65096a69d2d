import Chip8.Instruction.Basic
import Chip8.Text.Hex

/-! Decoding. The four hexadecimal digits of a word hold the group, `x`, `y` and
`n`; the low two also form `nn`, and the low three `nnn`. Every word decodes, if
need be to the instruction that has no meaning. -/

namespace Chip8

namespace Word

/-- The hexadecimal digit with the given number of digits to its right. -/
def digit (w : Word) (place : Nat) : Fin 16 := Fin.ofNat 16 (w.toNat / Nat.pow 16 place)

def group (w : Word) : Fin 16 := digit w 3

def x (w : Word) : Register := digit w 2

def y (w : Word) : Register := digit w 1

def n (w : Word) : Fin 16 := digit w 0

def nn (w : Word) : UInt8 := UInt8.ofNat w.toNat

def nnn (w : Word) : Address := Fin.ofNat 4096 w.toNat

def ofBytes (high low : UInt8) : Word := UInt16.ofNat (high.toNat * 256 + low.toNat)

def ofInt? (value : Int) : Option Word :=
  if 0 ≤ value ∧ value < 65536 then some (UInt16.ofNat value.toNat) else none

end Word

def Operation.ofDigit? (n : Fin 16) : Option Operation :=
  match n.val with
  | 0x0 => some copy
  | 0x1 => some or
  | 0x2 => some and
  | 0x3 => some xor
  | 0x4 => some add
  | 0x5 => some subtract
  | 0x6 => some shiftRight
  | 0x7 => some subtractFrom
  | 0xE => some shiftLeft
  | _ => none

namespace Instruction

def decode (w : Word) : Instruction :=
  let x := Word.x w
  let y := Word.y w
  let nn := Word.nn w
  let nnn := Word.nnn w
  match (Word.group w).val with
  | 0x0 =>
    if nnn = 0x0E0 then clearScreen
    else if nnn = 0x0EE then ret
    else host nnn
  | 0x1 => jump nnn
  | 0x2 => call nnn
  | 0x3 => skipIfByte x nn
  | 0x4 => skipUnlessByte x nn
  | 0x5 => if Word.n w = 0 then skipIfEqual x y else unknown w
  | 0x6 => setByte x nn
  | 0x7 => addByte x nn
  | 0x8 =>
    match Operation.ofDigit? (Word.n w) with
    | some operation => combine operation x y
    | none => unknown w
  | 0x9 => if Word.n w = 0 then skipUnlessEqual x y else unknown w
  | 0xA => setIndex nnn
  | 0xB => jumpOffset nnn
  | 0xC => random x nn
  | 0xD => draw x y (Word.n w)
  | 0xE =>
    match nn.toNat with
    | 0x9E => skipIfPressed x
    | 0xA1 => skipUnlessPressed x
    | _ => unknown w
  | _ =>
    match nn.toNat with
    | 0x07 => readDelay x
    | 0x0A => awaitRelease x
    | 0x15 => setDelay x
    | 0x18 => setSound x
    | 0x1E => addIndex x
    | 0x29 => glyph x
    | 0x33 => decimal x
    | 0x55 => store x
    | 0x65 => load x
    | _ => unknown w

/-- A number that is no word of sixteen bits. -/
structure OutOfRange where
  value : Int

def OutOfRange.message (e : OutOfRange) : String :=
  "opcode out of range: " ++ Text.Hex.signedMarked e.value

def decodeNumber (value : Int) : Except OutOfRange (Word × Instruction) :=
  match Word.ofInt? value with
  | some w => .ok (w, decode w)
  | none => .error ⟨value⟩

end Instruction

end Chip8
