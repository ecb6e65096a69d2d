import Chip8.Machine.Action

/-! Fetching an instruction and carrying it out. The program counter moves past the
instruction before anything else happens; jumps overwrite the counter, skips move it
on by one more word, and an instruction that waits takes it back. -/

namespace Chip8.Machine

/-- The word at the program counter. Its second byte must exist too. -/
def fetch : Action Word := do
  let pc := (← get).pc
  if 4095 ≤ pc then throw (.fault (.counterOutside pc))
  return Word.ofBytes (← readCell pc) (← readCell (pc + 1))

/-- Whether the key that a register names is down. -/
def isKeyDown (x : Register) : Action Bool := do
  let m ← get
  let index : Int := (m.registers.read x).toNat
  match Key.ofInt? index with
  | some key => return m.keypad.isPressed key
  | none => throw (.fault (.noKey index))

/-- Zeroes the flag register after a bitwise operation, if the dialect has it so. -/
def resetFlag : Action Unit := do
  if (← get).dialect.resetFlag then setRegister flagRegister 0

/-- Puts the operand of a shift in its place, if the dialect takes it from `Vy`. -/
def placeOperand (x y : Register) : Action Unit := do
  if (← get).dialect.shiftSource then setRegister x (← readRegister y)

/-- Combines two registers in place. Every read finds what has been written by then, and the
flag is written last. -/
def combineRegisters (operation : Operation) (x y : Register) : Action Unit := do
  match operation with
  | .copy => setRegister x (← readRegister y)
  | .or =>
    setRegister x ((← readRegister x) ||| (← readRegister y))
    resetFlag
  | .and =>
    setRegister x ((← readRegister x) &&& (← readRegister y))
    resetFlag
  | .xor =>
    setRegister x ((← readRegister x) ^^^ (← readRegister y))
    resetFlag
  | .add =>
    let sum := (← readRegister x).toNat + (← readRegister y).toNat
    setRegister x (UInt8.ofNat sum)
    setRegister flagRegister (if 0xFF < sum then 1 else 0)
  | .subtract =>
    let noBorrow := if (← readRegister y) ≤ (← readRegister x) then 1 else 0
    setRegister x ((← readRegister x) - (← readRegister y))
    setRegister flagRegister noBorrow
  | .subtractFrom =>
    let noBorrow := if (← readRegister x) ≤ (← readRegister y) then 1 else 0
    setRegister x ((← readRegister y) - (← readRegister x))
    setRegister flagRegister noBorrow
  | .shiftRight =>
    placeOperand x y
    let lowest := (← readRegister x) &&& 1
    setRegister x ((← readRegister x) >>> 1)
    setRegister flagRegister lowest
  | .shiftLeft =>
    placeOperand x y
    let highest := ((← readRegister x) >>> 7) &&& 1
    setRegister x ((← readRegister x) <<< 1)
    setRegister flagRegister highest

def advancePast (x : Register) : Action Unit :=
  modify fun m =>
    if m.dialect.advanceIndex then { m with index := m.index + UInt16.ofNat (x.val + 1) } else m

/-- Draws the sprite at the index at the place that two registers give. -/
def drawSprite (x y : Register) (rows : Nat) : Action Unit := do
  checkRange rows
  let m ← get
  let sprite ← readCells m.index.toNat rows
  let collision ← compose (m.registers.read x).toNat (m.registers.read y).toNat rows sprite
  setRegister flagRegister (if collision then 1 else 0)

/-- Writes the three decimal digits of a register from the index on. -/
def writeDigits (x : Register) : Action Unit := do
  checkRange 3
  let m ← get
  let value := m.registers.read x
  writeCell m.index.toNat (value / 100)
  writeCell (m.index.toNat + 1) (value / 10 % 10)
  writeCell (m.index.toNat + 2) (value % 10)

/-- Copies the registers up to `Vx` to memory, from the index on. -/
def storeRegisters (x : Register) : Action Unit := do
  checkRange (x.val + 1)
  let m ← get
  writeCells m.index.toNat (x.val + 1) (m.registers.upTo x)
  advancePast x

/-- Copies memory from the index on to the registers up to `Vx`. -/
def loadRegisters (x : Register) : Action Unit := do
  checkRange (x.val + 1)
  let bytes ← readCells (← get).index.toNat (x.val + 1)
  writeRegisters (x.val + 1) bytes
  advancePast x

def execute (instruction : Instruction) : Action Unit := do
  modify advance
  match instruction with
  | .host _ | .unknown _ => return
  | .clearScreen => modify fun m => { m with screen := m.screen.clear }
  | .ret =>
    failIf (← get).stack.isEmpty .stackEmpty
    jump ((← popCaller) + 2)
  | .jump target => jump target
  | .call target =>
    failIf (stackDepth ≤ (← get).stack.length) .stackFull
    pushCaller (← here)
    jump target
  | .jumpOffset target =>
    let m ← get
    let x := if m.dialect.jumpRegister then Instruction.leadRegister target else 0
    jump (target + (m.registers.read x).toNat)
  | .skipIfByte x byte => skipIf ((← get).registers.read x == byte)
  | .skipUnlessByte x byte => skipIf ((← get).registers.read x != byte)
  | .skipIfEqual x y =>
    let m ← get
    skipIf (m.registers.read x == m.registers.read y)
  | .skipUnlessEqual x y =>
    let m ← get
    skipIf (m.registers.read x != m.registers.read y)
  | .skipIfPressed x => skipIf (← isKeyDown x)
  | .skipUnlessPressed x => skipIf !(← isKeyDown x)
  | .setByte x byte => setRegister x byte
  | .addByte x byte => setRegister x ((← get).registers.read x + byte)
  | .combine operation x y => combineRegisters operation x y
  | .random x mask => setRegister x ((← drawByte) &&& mask)
  | .draw x y rows => drawSprite x y rows
  | .setIndex target => modify fun m => { m with index := UInt16.ofNat target }
  | .addIndex x => modify fun m => { m with index := m.index + (m.registers.read x).toUInt16 }
  | .glyph x =>
    let digit := (← get).registers.read x
    failIf (0xF < digit.toNat) (.noGlyph digit)
    modify fun m => { m with index := UInt16.ofNat (digit.toNat * Memory.glyphHeight) }
  | .decimal x => writeDigits x
  | .store x => storeRegisters x
  | .load x => loadRegisters x
  | .readDelay x => setRegister x (← get).delay
  | .setDelay x => modify fun m => { m with delay := m.registers.read x }
  | .setSound x => modify fun m => { m with sound := m.registers.read x }
  | .awaitRelease x =>
    match ← pollRelease with
    | some key => setRegister x (UInt8.ofNat key)
    | none => modify fun m => { m with pc := m.pc - 2 }

/-- The machine with an instruction remembered as the one fetched last. -/
def remember (m : Machine) (instruction : Instruction) : Machine :=
  { m with last := some instruction }

/-- Fetches an instruction, remembers it and carries it out. -/
def cycle : Action Unit := do
  let instruction := Instruction.decode (← fetch)
  modify (·.remember instruction)
  execute instruction

end Chip8.Machine
