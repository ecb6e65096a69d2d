import Chip8.Text.Hex
import Chip8.Text.Numeral

/-! Colours of thirty-two bits: red, green, blue and alpha, eight bits each, red
first. A colour is read from text as a hexadecimal numeral; only if that has more
than thirty-two bits, the same text is read as a decimal one. Alpha is never
shown. -/

namespace Chip8

abbrev Colour := UInt32

structure Rgb where
  red : UInt8
  green : UInt8
  blue : UInt8
deriving DecidableEq, Repr

namespace Rgb

def bytes (c : Rgb) : List UInt8 := [c.red, c.green, c.blue]

end Rgb

namespace Colour

def white : Colour := 0xFFFFFFFF

def transparent : Colour := 0

def ofInt? (value : Int) : Option Colour :=
  if 0 ≤ value ∧ value < 4294967296 then some (UInt32.ofNat value.toNat) else none

/-- The colour in the low thirty-two bits of a number in two's complement. -/
def ofBits (value : Int) : Colour := UInt32.ofNat (value % 4294967296).toNat

def rgb (c : Colour) : Rgb :=
  ⟨UInt8.ofNat (c.toNat / 0x1000000), UInt8.ofNat (c.toNat / 0x10000),
    UInt8.ofNat (c.toNat / 0x100)⟩

def hex (c : Colour) : String :=
  "#" ++ String.join ((rgb c).bytes.map fun b => Text.Hex.upperPadded 2 b.toNat)

/-- Drops one mark of a hexadecimal spelling. -/
def dropMark : List Char → List Char
  | '#' :: rest => rest
  | '0' :: 'x' :: rest => rest
  | '0' :: 'X' :: rest => rest
  | text => text

def readAs? (radix : Text.Numeral.Radix) (text : List Char) : Option Colour :=
  Text.Numeral.read? radix text >>= ofInt?

def read? (text : String) : Option Colour :=
  let body := dropMark (Text.trim Text.isBlank text.toList)
  readAs? Text.Numeral.hexadecimal body <|> readAs? Text.Numeral.decimal body

/-- A text that spells no colour. -/
structure Unreadable where
  text : String

def Unreadable.message (e : Unreadable) : String :=
  e.text ++ " is not a valid color in RGBA8888 format"

def read (text : String) : Except Unreadable Colour :=
  match read? text with
  | some c => .ok c
  | none => .error ⟨text⟩

end Colour

end Chip8
