import Chip8.Fault
import Chip8.Grid.Sprite
import Chip8.Machine.Arithmetic

/-! Actions on the machine. An action changes the machine bit by bit and may break
off half way; what it has changed by then stays changed. It breaks off with a fault,
which is a mistake of the program that runs, or with a breach, which would be one of
the machine itself: it reaches for something that is not there. Instructions look
before they reach, so that no step ends in a breach (`cycle_ne_breach`). -/

namespace Chip8

namespace Machine

inductive Breach
  | noCell (address : Nat)
  | noSlot (depth : Nat)
  | resized (length : Nat)
  | misdrawn (misuse : Grid.Misuse)
deriving DecidableEq, Repr

/-- Why an action breaks off. -/
inductive Stop
  | fault (fault : Fault)
  | breach (breach : Breach)
deriving DecidableEq, Repr

abbrev Action := EStateM Stop Machine

/-- The machine with its counter past one more instruction. -/
def advance (m : Machine) : Machine := { m with pc := m.pc + 2 }

/-- The address of the instruction under way; the counter has moved past it. -/
def here : Action Nat := return (← get).pc - 2

/-- Breaks off with a fault of the instruction under way. -/
def fail (fault : Nat → Fault) : Action Unit := do throw (.fault (fault (← here)))

def failIf (condition : Bool) (fault : Nat → Fault) : Action Unit :=
  if condition then fail fault else return

/-- Sees to it that the given number of cells from the index on exist. -/
def checkRange (length : Nat) : Action Unit := do
  let address := (← get).index.toNat
  failIf (4096 < address + length) (.rangeOutside length address)

def readCell (address : Nat) : Action UInt8 := do
  match (← get).memory[address]? with
  | some byte => return byte
  | none => throw (.breach (.noCell address))

def writeCell (address : Nat) (byte : UInt8) : Action Unit := do
  let m ← get
  if h : address < 4096 then set { m with memory := m.memory.set address byte }
  else throw (.breach (.noCell address))

/-- The cells from an address on, fewer than asked for where memory ends before. -/
def readCells (address length : Nat) : Action (List UInt8) :=
  return ((← get).memory.toList.drop address).take length

def writeCells (address length : Nat) (bytes : List UInt8) : Action Unit := do
  let m ← get
  match splice? m.memory address length bytes with
  | some memory => set { m with memory }
  | none => throw (.breach (.resized bytes.length))

/-- Replaces the given number of registers, from `V0` on. -/
def writeRegisters (length : Nat) (bytes : List UInt8) : Action Unit := do
  let m ← get
  match splice? m.registers 0 length bytes with
  | some registers => set { m with registers }
  | none => throw (.breach (.resized bytes.length))

def readRegister (x : Register) : Action UInt8 := return (← get).registers.read x

def setRegister (x : Register) (byte : UInt8) : Action Unit :=
  modify fun m => { m with registers := m.registers.write x byte }

def jump (target : Nat) : Action Unit := modify fun m => { m with pc := target }

def pushCaller (caller : Nat) : Action Unit := do
  let m ← get
  if m.stack.length < stackDepth then set { m with stack := caller :: m.stack }
  else throw (.breach (.noSlot m.stack.length))

def popCaller : Action Nat := do
  match (← get).stack with
  | [] => throw (.breach (.noSlot 0))
  | caller :: callers =>
    modify fun m => { m with stack := callers }
    return caller

def skipIf (condition : Bool) : Action Unit :=
  if condition then modify advance else return

def drawByte : Action UInt8 := do
  let (byte, random) := (← get).random.draw
  modify fun m => { m with random }
  return byte

def pollRelease : Action (Option Key) := do
  let (keypad, released) := (← get).keypad.poll
  modify fun m => { m with keypad }
  return released

/-- Composes a sprite onto the screen; the answer is whether there was a collision. -/
def compose (x y : Int) (rows : Nat) (sprite : List UInt8) : Action Bool := do
  let m ← get
  match m.screen.compose x y rows (sprite.map fun b => (b.toNat : Int)) m.dialect.wrapSprites with
  | .ok (screen, collision) => do
    set { m with screen }
    return collision
  | .error misuse => throw (.breach (.misdrawn misuse))

end Machine

end Chip8
