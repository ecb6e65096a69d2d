import Chip8.Machine.Execute

/-! What comes of an action, as a function of the machine. `hindrance` says which fault
an instruction runs into, `effect` what it makes of a machine if it runs into none. The
main statements are that carrying an instruction out comes to just these two
(`run_execute`), so that a fault leaves the machine as it was but for the counter, and
that no cycle ends in a breach (`cycle_ne_breach`). -/

namespace Chip8

theorem Memory.slice_eq (m : Memory) {address length : Nat} (fits : address + length ≤ 4096) :
    (m.toList.drop address).take length = m.slice address length := by
  apply List.ext_getElem
  · simp [slice]; omega
  · intro k h _
    have inside : k < length := by simp at h; omega
    simp [slice, byte, Vector.getElem?_eq_getElem (show address + k < 4096 by omega)]

@[simp] theorem Registers.length_upTo (v : Registers) (x : Register) :
    (v.upTo x).length = x.val + 1 := by
  rw [upTo, List.length_take, Vector.length_toList]
  omega

@[simp] theorem Registers.read_write_self (v : Registers) (x : Register) (byte : UInt8) :
    (v.write x byte).read x = byte := by
  simp [read, write]

@[simp] theorem Registers.write_write_self (v : Registers) (x : Register) (first second : UInt8) :
    (v.write x first).write x second = v.write x second := by
  simp [write]

theorem Registers.getElem_replaceUpTo (v : Registers) (x : Register) (byte : Nat → UInt8) (i : Nat)
    (h : i < 16) : (v.replaceUpTo x byte)[i] = if i ≤ x.val then byte i else v[i] := by
  rw [replaceUpTo, Vector.getElem_ofFn]
  rfl

theorem Registers.splice?_replaceUpTo (v : Registers) (x : Register) (m : Memory) (address : Nat) :
    splice? v 0 (x.val + 1) (m.slice address (x.val + 1)) =
      some (v.replaceUpTo x fun k => m.byte (address + k)) := by
  apply splice?_eq_some (by simp) (by omega)
  intro i h
  rw [getElem_replaceUpTo, if_pos (Nat.zero_le i), Nat.sub_zero, Memory.slice, List.getElem?_map]
  by_cases inside : i ≤ x.val
  · rw [if_pos inside, List.getElem?_range (Nat.lt_succ_of_le inside)]
    rfl
  · rw [if_neg inside, List.getElem?_eq_none (by simp; omega)]
    rfl

namespace Machine

/-! ## Accesses to what is there -/

variable (m : Machine)

@[simp] theorem advance_pc : m.advance.pc = m.pc + 2 := rfl

@[simp] theorem advance_stack : m.advance.stack = m.stack := rfl

@[simp] theorem advance_memory : m.advance.memory = m.memory := rfl

@[simp] theorem advance_registers : m.advance.registers = m.registers := rfl

@[simp] theorem advance_index : m.advance.index = m.index := rfl

@[simp] theorem advance_random : m.advance.random = m.random := rfl

@[simp] theorem advance_screen : m.advance.screen = m.screen := rfl

@[simp] theorem advance_keypad : m.advance.keypad = m.keypad := rfl

@[simp] theorem advance_dialect : m.advance.dialect = m.dialect := rfl

@[simp] theorem advance_delay : m.advance.delay = m.delay := rfl

@[simp] theorem advance_isHalted : m.advance.isHalted = m.isHalted := rfl

@[simp] theorem run_map {α β : Type} (f : α → β) (action : Action α) :
    (f <$> action).run m =
      match action.run m with
      | .ok a m => .ok (f a) m
      | .error stop m => .error stop m := by
  rw [← bind_pure_comp, EStateM.run_bind]
  rcases action.run m <;> rfl

@[simp] theorem run_here : here.run m = .ok (m.pc - 2) m := rfl

@[simp] theorem run_fail (fault : Nat → Fault) :
    (fail fault).run m = .error (.fault (fault (m.pc - 2))) m := rfl

@[simp] theorem run_failIf (condition : Bool) (fault : Nat → Fault) :
    (failIf condition fault).run m =
      if condition then .error (.fault (fault (m.pc - 2))) m else .ok () m := by
  cases condition <;> rfl

@[simp] theorem run_checkRange (length : Nat) :
    (checkRange length).run m =
      if 4096 < m.index.toNat + length then
        .error (.fault (.rangeOutside length m.index.toNat (m.pc - 2))) m
      else .ok () m := by
  simp [checkRange]

@[simp] theorem run_jump (target : Nat) :
    (jump target).run m = .ok () { m with pc := target } := rfl

theorem run_pushCaller (caller : Nat) (room : m.stack.length < stackDepth) :
    (pushCaller caller).run m = .ok () { m with stack := caller :: m.stack } := by
  simp [pushCaller, room]

theorem run_popCaller {caller : Nat} {callers : List Nat} (calls : m.stack = caller :: callers) :
    popCaller.run m = .ok caller { m with stack := callers } := by
  simp [popCaller, calls]

@[simp] theorem run_skipIf (condition : Bool) :
    (skipIf condition).run m = .ok () (if condition then m.advance else m) := by
  cases condition <;> rfl

@[simp] theorem run_readRegister (x : Register) :
    (readRegister x).run m = .ok (m.registers.read x) m := rfl

@[simp] theorem run_setRegister (x : Register) (byte : UInt8) :
    (setRegister x byte).run m = .ok () { m with registers := m.registers.write x byte } := rfl

theorem run_readCell {address : Nat} (there : address < 4096) :
    (readCell address).run m = .ok (m.memory.byte address) m := by
  simp [readCell, Memory.byte, Vector.getElem?_eq_getElem there]

theorem run_writeCell {address : Nat} (byte : UInt8) (there : address < 4096) :
    (writeCell address byte).run m =
      .ok () { m with memory := m.memory.write address [byte] } := by
  have same : m.memory.set address byte = m.memory.setIfInBounds address byte := by
    ext i h
    rw [Vector.getElem_set, Vector.getElem_setIfInBounds]
  simp [writeCell, there, Memory.write, same]

theorem run_readCells (address length : Nat) (fits : address + length ≤ 4096) :
    (readCells address length).run m = .ok (m.memory.slice address length) m := by
  simp [readCells, Memory.slice_eq m.memory fits]

theorem run_writeCells (address : Nat) {length : Nat} {bytes : List UInt8}
    (size : bytes.length = length) (fits : address + length ≤ 4096) :
    (writeCells address length bytes).run m =
      .ok () { m with memory := m.memory.write address bytes } := by
  simp [writeCells, Memory.splice?_write m.memory size fits]

/-- The sprite that a drawing instruction finds at the index. -/
def sprite (rows : Nat) : List Int :=
  (m.memory.slice m.index.toNat rows).map fun b => (b.toNat : Int)

/-- What keeps an instruction from being carried out. -/
def hindrance : Instruction → Option Fault
  | .ret => if m.stack = [] then some (.stackEmpty m.pc) else none
  | .call _ => if stackDepth ≤ m.stack.length then some (.stackFull m.pc) else none
  | .skipIfPressed x | .skipUnlessPressed x =>
    if 0xF < (m.registers.read x).toNat then some (.noKey (m.registers.read x).toNat) else none
  | .glyph x =>
    if 0xF < (m.registers.read x).toNat then some (.noGlyph (m.registers.read x) m.pc) else none
  | .draw _ _ rows => outside rows
  | .decimal _ => outside 3
  | .store x | .load x => outside (x.val + 1)
  | _ => none
where
  outside (length : Nat) : Option Fault :=
    if 4096 < m.index.toNat + length then some (.rangeOutside length m.index.toNat m.pc) else none

/-- The machine past the instruction, and past the next one if a condition holds. -/
def skip (condition : Bool) : Machine := if condition then m.advance.advance else m.advance

def keyNamed (x : Register) : Bool :=
  (Key.ofInt? (m.registers.read x).toNat).any m.keypad.isPressed

/-- The index after a transfer of the registers up to `Vx`. -/
def indexPast (x : Register) : UInt16 :=
  if m.dialect.advanceIndex then m.index + UInt16.ofNat (x.val + 1) else m.index

/-- What an instruction that nothing hinders makes of the machine. -/
def effect (instruction : Instruction) : Machine :=
  let next := m.advance
  match instruction with
  | .host _ | .unknown _ => next
  | .clearScreen => { next with screen := m.screen.clear }
  | .ret => { next with stack := m.stack.tail, pc := m.stack.headD 0 + 2 }
  | .jump target => { next with pc := target }
  | .call target => { next with stack := m.pc :: m.stack, pc := target }
  | .jumpOffset target =>
    let x := if m.dialect.jumpRegister then Instruction.leadRegister target else 0
    { next with pc := target + (m.registers.read x).toNat }
  | .skipIfByte x byte => m.skip (m.registers.read x == byte)
  | .skipUnlessByte x byte => m.skip (m.registers.read x != byte)
  | .skipIfEqual x y => m.skip (m.registers.read x == m.registers.read y)
  | .skipUnlessEqual x y => m.skip (m.registers.read x != m.registers.read y)
  | .skipIfPressed x => m.skip (m.keyNamed x)
  | .skipUnlessPressed x => m.skip (!m.keyNamed x)
  | .setByte x byte => { next with registers := m.registers.write x byte }
  | .addByte x byte => { next with registers := m.registers.write x (m.registers.read x + byte) }
  | .combine operation x y =>
    { next with registers := m.registers.combine m.dialect operation x y }
  | .random x mask =>
    { next with
      registers := m.registers.write x (m.random.draw.1 &&& mask), random := m.random.draw.2 }
  | .draw x y rows =>
    let drawn := m.screen.draw (m.registers.read x).toNat (m.registers.read y).toNat (m.sprite rows)
      m.dialect.wrapSprites
    { next with
      screen := drawn.1, registers := m.registers.write flagRegister (if drawn.2 then 1 else 0) }
  | .setIndex target => { next with index := UInt16.ofNat target }
  | .addIndex x => { next with index := m.index + (m.registers.read x).toUInt16 }
  | .glyph x =>
    { next with index := UInt16.ofNat ((m.registers.read x).toNat * Memory.glyphHeight) }
  | .decimal x =>
    let value := m.registers.read x
    { next with
      memory := m.memory.write m.index.toNat [value / 100, value / 10 % 10, value % 10] }
  | .store x =>
    { next with
      memory := m.memory.write m.index.toNat (m.registers.upTo x), index := m.indexPast x }
  | .load x =>
    { next with
      registers := m.registers.replaceUpTo x fun k => m.memory.byte (m.index.toNat + k)
      index := m.indexPast x }
  | .readDelay x => { next with registers := m.registers.write x m.delay }
  | .setDelay x => { next with delay := m.registers.read x }
  | .setSound x => { next with sound := m.registers.read x }
  | .awaitRelease x =>
    match m.keypad.poll with
    | (keypad, some key) =>
      { next with keypad, registers := m.registers.write x (UInt8.ofNat key) }
    | (keypad, none) => { m with keypad }

/-! ## Carrying an instruction out -/

theorem run_drawByte :
    drawByte.run m = .ok m.random.draw.1 { m with random := m.random.draw.2 } := rfl

theorem run_pollRelease :
    pollRelease.run m = .ok m.keypad.poll.2 { m with keypad := m.keypad.poll.1 } := rfl

theorem run_resetFlag :
    resetFlag.run m = .ok () { m with
      registers :=
        if m.dialect.resetFlag then m.registers.write flagRegister 0 else m.registers } := by
  simp only [resetFlag, EStateM.run_bind, EStateM.run_get]
  split <;> rfl

theorem run_placeOperand (x y : Register) :
    (placeOperand x y).run m = .ok () { m with
      registers :=
        if m.dialect.shiftSource then m.registers.write x (m.registers.read y)
        else m.registers } := by
  simp only [placeOperand, EStateM.run_bind, EStateM.run_get]
  split <;> rfl

theorem toNat_shiftRight_seven (byte : UInt8) : (byte >>> 7).toNat = byte.toNat / 128 := by
  rw [UInt8.toNat_shiftRight, Nat.shiftRight_eq_div_pow]
  rfl

theorem shiftRight_seven_and_one (byte : UInt8) : (byte >>> 7) &&& (1 : UInt8) = byte >>> 7 := by
  have bound := byte.toNat_lt
  apply UInt8.toNat_inj.mp
  rw [UInt8.toNat_and, UInt8.toNat_one, Nat.and_one_is_mod, toNat_shiftRight_seven]
  omega

/-- The writes in between do not spoil what is read: the registers come out as if both had been
read before anything was written. -/
theorem run_combineRegisters (operation : Operation) (x y : Register) :
    (combineRegisters operation x y).run m =
      .ok () { m with registers := m.registers.combine m.dialect operation x y } := by
  cases operation with
  | copy => rfl
  | or | and | xor =>
    simp only [combineRegisters, EStateM.run_bind, run_readRegister, run_setRegister,
      run_resetFlag, Registers.combine, Operation.evaluate]
    cases m.dialect.resetFlag <;> rfl
  | add =>
    simp only [combineRegisters, EStateM.run_bind, run_readRegister, run_setRegister,
      UInt8.ofNat_add, UInt8.ofNat_toNat]
    rfl
  | subtract | subtractFrom => rfl
  | shiftRight =>
    simp only [combineRegisters, EStateM.run_bind, run_readRegister, run_setRegister,
      run_placeOperand, Registers.combine, Operation.evaluate]
    cases m.dialect.shiftSource <;> simp
  | shiftLeft =>
    simp only [combineRegisters, EStateM.run_bind, run_readRegister, run_setRegister,
      run_placeOperand, Registers.combine, Operation.evaluate, shiftRight_seven_and_one]
    cases m.dialect.shiftSource <;> simp

theorem run_advancePast (x : Register) :
    (advancePast x).run m = .ok () { m with index := m.indexPast x } := by
  rw [advancePast, EStateM.run_modify, indexPast]
  split <;> rfl

theorem run_isKeyDown (x : Register) :
    (isKeyDown x).run m =
      if 0xF < (m.registers.read x).toNat then .error (.fault (.noKey (m.registers.read x).toNat)) m
      else .ok (m.keyNamed x) m := by
  by_cases outside : 0xF < (m.registers.read x).toNat
  · have none : Key.ofInt? (m.registers.read x).toNat = none := by
      rw [Key.ofInt?, dif_neg (by omega)]
    rw [if_pos outside]
    simp only [isKeyDown, EStateM.run_bind, EStateM.run_get, none]
    rfl
  · have some : Key.ofInt? (m.registers.read x).toNat =
        some ⟨(m.registers.read x).toNat, by omega⟩ := by
      rw [Key.ofInt?, dif_pos (by omega)]
      rfl
    rw [if_neg outside]
    simp only [isKeyDown, keyNamed, EStateM.run_bind, EStateM.run_get, some]
    rfl

theorem run_compose (x y : Int) {rows : Nat} {sprite : List UInt8} (count : sprite.length = rows) :
    (compose x y rows sprite).run m =
      let drawn := m.screen.draw x y (sprite.map fun b => (b.toNat : Int)) m.dialect.wrapSprites
      .ok drawn.2 { m with screen := drawn.1 } := by
  simp [compose, Grid.compose, count]

theorem run_checkRange_bind (length : Nat) (rest : Unit → Action Unit) :
    (checkRange length >>= rest).run m =
      if 4096 < m.index.toNat + length then
        .error (.fault (.rangeOutside length m.index.toNat (m.pc - 2))) m
      else (rest ()).run m := by
  rw [EStateM.run_bind, run_checkRange]
  by_cases beyond : 4096 < m.index.toNat + length <;> simp only [beyond] <;> rfl

theorem run_drawSprite (x y : Register) (rows : Nat) :
    (drawSprite x y rows).run m =
      if 4096 < m.index.toNat + rows then
        .error (.fault (.rangeOutside rows m.index.toNat (m.pc - 2))) m
      else
        let drawn := m.screen.draw (m.registers.read x).toNat (m.registers.read y).toNat
          (m.sprite rows) m.dialect.wrapSprites
        .ok () { m with
          screen := drawn.1
          registers := m.registers.write flagRegister (if drawn.2 then 1 else 0) } := by
  rw [drawSprite, run_checkRange_bind]
  split
  · rfl
  · have cells := m.run_readCells m.index.toNat rows (by omega)
    have composed := m.run_compose (m.registers.read x).toNat (m.registers.read y).toNat
      (m.memory.length_slice m.index.toNat rows)
    simp only [EStateM.run_bind, EStateM.run_get, cells, composed, run_setRegister]
    rfl

theorem run_writeDigits (x : Register) :
    (writeDigits x).run m =
      if 4096 < m.index.toNat + 3 then
        .error (.fault (.rangeOutside 3 m.index.toNat (m.pc - 2))) m
      else
        let value := m.registers.read x
        let digits := [value / 100, value / 10 % 10, value % 10]
        .ok () { m with memory := m.memory.write m.index.toNat digits } := by
  rw [writeDigits, run_checkRange_bind]
  split
  · rfl
  · rw [EStateM.run_bind, EStateM.run_get]
    simp only
    rw [EStateM.run_bind, run_writeCell _ _ (by omega)]
    simp only
    rw [EStateM.run_bind, run_writeCell _ _ (by omega)]
    simp only
    rw [run_writeCell _ _ (by omega)]
    rfl

theorem run_storeRegisters (x : Register) :
    (storeRegisters x).run m =
      if 4096 < m.index.toNat + (x.val + 1) then
        .error (.fault (.rangeOutside (x.val + 1) m.index.toNat (m.pc - 2))) m
      else .ok () { m with
        memory := m.memory.write m.index.toNat (m.registers.upTo x), index := m.indexPast x } := by
  rw [storeRegisters, run_checkRange_bind]
  split
  · rfl
  · have written := m.run_writeCells m.index.toNat (m.registers.length_upTo x) (by omega)
    simp only [EStateM.run_bind, EStateM.run_get, written, run_advancePast]
    rfl

theorem run_loadRegisters (x : Register) :
    (loadRegisters x).run m =
      if 4096 < m.index.toNat + (x.val + 1) then
        .error (.fault (.rangeOutside (x.val + 1) m.index.toNat (m.pc - 2))) m
      else .ok () { m with
        registers := m.registers.replaceUpTo x fun k => m.memory.byte (m.index.toNat + k)
        index := m.indexPast x } := by
  rw [loadRegisters, run_checkRange_bind]
  split
  · rfl
  · have cells := m.run_readCells m.index.toNat (x.val + 1) (by omega)
    simp only [EStateM.run_bind, EStateM.run_get, cells, writeRegisters,
      Registers.splice?_replaceUpTo, EStateM.run_set, run_advancePast]
    rfl

theorem run_execute (instruction : Instruction) :
    (execute instruction).run m =
      match m.hindrance instruction with
      | some fault => .error (.fault fault) m.advance
      | none => .ok () (m.effect instruction) := by
  rw [execute.eq_def, EStateM.run_bind, EStateM.run_modify]
  cases instruction with
  | ret =>
    cases calls : m.stack with
    | nil => simp [hindrance, calls]
    | cons caller callers =>
      have popped := m.advance.run_popCaller calls
      simp [hindrance, effect, calls, popped]
  | call target =>
    by_cases full : stackDepth ≤ m.stack.length
    · simp [hindrance, full]
    · have pushed := m.advance.run_pushCaller m.pc (Nat.lt_of_not_le full)
      simp [hindrance, effect, full, pushed]
  | glyph x =>
    by_cases high : 0xF < (m.registers.read x).toNat <;>
      simp [hindrance, effect, high]
  | skipIfByte | skipUnlessByte | skipIfEqual | skipUnlessEqual => simp [hindrance, effect, skip]
  | skipIfPressed x | skipUnlessPressed x =>
    have named : m.advance.keyNamed x = m.keyNamed x := rfl
    by_cases high : 0xF < (m.registers.read x).toNat <;>
      simp [hindrance, effect, skip, run_isKeyDown, named, high]
  | combine => simp [hindrance, effect, run_combineRegisters]
  | random => simp [hindrance, effect, run_drawByte]
  | awaitRelease x =>
    rcases poll : m.keypad.poll with ⟨keypad, _ | key⟩ <;>
      simp [hindrance, effect, run_pollRelease, poll, advance]
  | draw x y rows =>
    by_cases beyond : 4096 < m.index.toNat + rows.val <;>
      simp only [hindrance, hindrance.outside, run_drawSprite, advance_index, beyond] <;> rfl
  | decimal x =>
    by_cases beyond : 4096 < m.index.toNat + 3 <;>
      simp only [hindrance, hindrance.outside, run_writeDigits, advance_index, beyond] <;> rfl
  | store x =>
    by_cases beyond : 4096 < m.index.toNat + (x.val + 1) <;>
      simp only [hindrance, hindrance.outside, run_storeRegisters, advance_index, beyond] <;> rfl
  | load x =>
    by_cases beyond : 4096 < m.index.toNat + (x.val + 1) <;>
      simp only [hindrance, hindrance.outside, run_loadRegisters, advance_index, beyond] <;> rfl
  | jumpOffset => rfl
  | _ => simp [hindrance, effect]

/-! ## A whole cycle -/

/-- The word at the program counter. -/
def word : Word := Word.ofBytes (m.memory.byte m.pc) (m.memory.byte (m.pc + 1))

/-- Where a program begins, its first two bytes are the word. -/
theorem word_of_loaded {m : Machine} {high low : UInt8} {rest : List UInt8}
    (fits : (high :: low :: rest).length ≤ Memory.longestProgram)
    (loaded : m.memory = Memory.initial (high :: low :: rest) fits)
    (start : m.pc = Memory.programStart) : m.word = Word.ofBytes high low := by
  simp [word, loaded, start, Memory.byte, Memory.initial_eq_write, Memory.programStart,
    Memory.getElem_write]

/-- The instruction at the program counter. -/
def current : Instruction := Instruction.decode m.word

@[simp] theorem hindrance_remember (last instruction : Instruction) :
    (m.remember last).hindrance instruction = m.hindrance instruction := by
  cases instruction <;> rfl

theorem run_fetch :
    fetch.run m =
      if 4095 ≤ m.pc then .error (.fault (.counterOutside m.pc)) m else .ok m.word m := by
  by_cases beyond : 4095 ≤ m.pc
  · simp [fetch, beyond]
  · have high := m.run_readCell (show m.pc < 4096 by omega)
    have low := m.run_readCell (show m.pc + 1 < 4096 by omega)
    simp [fetch, beyond, high, low, word]

theorem run_cycle :
    cycle.run m =
      if 4095 ≤ m.pc then .error (.fault (.counterOutside m.pc)) m
      else match m.hindrance m.current with
        | some fault => .error (.fault fault) (m.remember m.current).advance
        | none => .ok () ((m.remember m.current).effect m.current) := by
  rw [cycle, EStateM.run_bind, run_fetch]
  by_cases beyond : 4095 ≤ m.pc
  · simp only [beyond, if_true]
  · simp only [beyond, if_false, EStateM.run_bind, EStateM.run_modify]
    rw [run_execute, hindrance_remember]
    rfl

/-- Every access of a cycle is to something that is there. -/
theorem cycle_ne_breach (breach : Breach) (left : Machine) :
    cycle.run m ≠ .error (.breach breach) left := by
  rw [run_cycle]
  split
  · simp
  · split <;> simp

end Machine

end Chip8
