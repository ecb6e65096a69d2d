import Chip8.Dialect
import Chip8.Grid.Basic
import Chip8.Instruction.Decode
import Chip8.Keypad
import Chip8.Memory
import Chip8.Random

/-! The machine: its parts and its state at power-on. The program, the dialect and
the source of random bytes belong to the machine but are not cleared with it. The
stack holds the addresses of the calls that are still open, the innermost first. It
stands for sixteen slots and a pointer to the first free one: its length is the
pointer, and what a return has left in the slots from there on, which nothing reads
before a call has written there again, is not kept. -/

namespace Chip8

/-- A program that leaves the last cell of memory free. -/
structure Rom where
  bytes : List UInt8
  fits : bytes.length ≤ Memory.longestProgram
deriving DecidableEq

namespace Rom

structure TooLarge where
  size : Nat
deriving DecidableEq, Repr

def TooLarge.limit (_ : TooLarge) : Nat := Memory.longestProgram

def TooLarge.message (e : TooLarge) : String :=
  "ROM too large: " ++ toString e.size ++ " bytes (max " ++ toString e.limit ++ ")"

def ofBytes (bytes : List UInt8) : Except TooLarge Rom :=
  if fits : bytes.length ≤ Memory.longestProgram then .ok { bytes, fits }
  else .error ⟨bytes.length⟩

end Rom

abbrev Registers := Vector UInt8 16

namespace Registers

def read (v : Registers) (x : Register) : UInt8 := v[x]

def write (v : Registers) (x : Register) (byte : UInt8) : Registers := v.set x byte

end Registers

abbrev Screen := Grid 64 32

structure Machine where
  rom : Rom
  dialect : Dialect
  random : ByteSource
  memory : Memory
  registers : Registers
  index : UInt16
  pc : Nat
  stack : List Nat
  delay : UInt8
  sound : UInt8
  screen : Screen
  keypad : Keypad
  isHalted : Bool
  /-- The instruction that was fetched last. -/
  last : Option Instruction

namespace Machine

def stackDepth : Nat := 16

def powerOn (rom : Rom) (dialect : Dialect) (random : ByteSource) : Machine where
  rom
  dialect
  random
  memory := Memory.initial rom.bytes rom.fits
  registers := Vector.replicate 16 0
  index := 0
  pc := Memory.programStart
  stack := []
  delay := 0
  sound := 0
  screen := Grid.blank 64 32
  keypad := Keypad.atRest
  isHalted := false
  last := none

def reset (m : Machine) : Machine := powerOn m.rom m.dialect m.random

/-- Counts both timers down, not below zero. -/
def tick (m : Machine) : Machine :=
  { m with
    delay := if m.delay = 0 then 0 else m.delay - 1
    sound := if m.sound = 0 then 0 else m.sound - 1 }

end Machine

end Chip8
