import Chip8.Proofs.Machine.Faults

/-! Footprints. An instruction touches few parts of a machine, and which they are can be told
from the instruction and from a little of the state before it (`Touches`). A step that does
not fault leaves all other parts as they are, moves the source of random bytes on by one draw
or not at all, and goes on behind the instruction but for jumps, skips and waits
(`step_footprint`). The parts are all that there is but the counter and the instruction
fetched last (`eq_of_same`), so an instruction that touches none of them does nothing. What an
instruction does not use, on the other hand, can change before the step as well as after it
(`Unseen.step`). -/

namespace Chip8

theorem Registers.read_write_of_ne (v : Registers) {x k : Register} (byte : UInt8) (apart : k ≠ x) :
    (v.write x byte).read k = v.read k := by
  have apart : x.val ≠ k.val := fun same => apart (Fin.ext same.symm)
  simp only [read, write, Fin.getElem_fin, Vector.getElem_set, if_neg apart]

theorem Registers.read_combine_of_ne (v : Registers) (dialect : Dialect) (operation : Operation)
    (x y : Register) {k : Register} (apart : k ≠ x)
    (unflagged : k = flagRegister →
      (operation.evaluate dialect (v.read x) (v.read y)).2 = none) :
    (v.combine dialect operation x y).read k = v.read k := by
  rw [combine]
  rcases evaluated : operation.evaluate dialect (v.read x) (v.read y) with ⟨value, _ | flag⟩
  · exact v.read_write_of_ne value apart
  · have distinct : k ≠ flagRegister := by
      intro same
      simp [evaluated] at unflagged
      exact unflagged same
    exact ((v.write x value).read_write_of_ne flag distinct).trans (v.read_write_of_ne value apart)

theorem Registers.read_replaceUpTo_of_lt (v : Registers) {x k : Register} (byte : Nat → UInt8)
    (above : x < k) : (v.replaceUpTo x byte).read k = v.read k := by
  have beyond : ¬ k.val ≤ x.val := Nat.not_le_of_lt above
  rw [read, Fin.getElem_fin, getElem_replaceUpTo, if_neg beyond]
  rfl

/-- The jumps, the call and the return. -/
def Instruction.leaps : Instruction → Bool
  | jump _ | call _ | ret | jumpOffset _ => true
  | _ => false

namespace Machine

/-- What a machine consists of, but for its counter and what it fetched last. -/
inductive Part
  | cell (address : Address)
  | register (k : Register)
  | index
  | stack
  | delay
  | sound
  | screen
  | wait
  | key (k : Key)
  | random
  | rom
  | dialect
  | halted
deriving DecidableEq

/-- Two machines agree on a part. -/
def Part.Same (m w : Machine) : Part → Prop
  | cell address => w.memory[address] = m.memory[address]
  | register k => w.registers.read k = m.registers.read k
  | index => w.index = m.index
  | stack => w.stack = m.stack
  | delay => w.delay = m.delay
  | sound => w.sound = m.sound
  | screen => w.screen = m.screen
  | wait => w.keypad.wait = m.keypad.wait
  | key k => w.keypad.isPressed k = m.keypad.isPressed k
  | random => w.random = m.random
  | rom => w.rom = m.rom
  | dialect => w.dialect = m.dialect
  | halted => w.isHalted = m.isHalted

/-- The parts that an instruction may change. -/
inductive Touches (m : Machine) : Instruction → Part → Prop
  | clearScreen : Touches m .clearScreen .screen
  | ret : Touches m .ret .stack
  | call {target : Address} : Touches m (.call target) .stack
  | setByte {x : Register} {byte : UInt8} : Touches m (.setByte x byte) (.register x)
  | addByte {x : Register} {byte : UInt8} : Touches m (.addByte x byte) (.register x)
  | combine {operation : Operation} {x y : Register} :
    Touches m (.combine operation x y) (.register x)
  | carry {operation : Operation} {x y : Register}
      (arithmetic : operation = .add ∨ operation = .subtract ∨ operation = .subtractFrom ∨
        operation = .shiftRight ∨ operation = .shiftLeft) :
    Touches m (.combine operation x y) (.register flagRegister)
  | resetFlag {operation : Operation} {x y : Register}
      (bitwise : operation = .or ∨ operation = .and ∨ operation = .xor)
      (toggle : m.dialect.resetFlag = true) :
    Touches m (.combine operation x y) (.register flagRegister)
  | random {x : Register} {mask : UInt8} : Touches m (.random x mask) (.register x)
  | source {x : Register} {mask : UInt8} : Touches m (.random x mask) .random
  | draw {x y : Register} {rows : Fin 16} : Touches m (.draw x y rows) .screen
  | collision {x y : Register} {rows : Fin 16} :
    Touches m (.draw x y rows) (.register flagRegister)
  | setIndex {target : Address} : Touches m (.setIndex target) .index
  | addIndex {x : Register} : Touches m (.addIndex x) .index
  | glyph {x : Register} : Touches m (.glyph x) .index
  | decimal {x : Register} {address : Address} (low : m.index.toNat ≤ address.val)
      (high : address.val ≤ m.index.toNat + 2) : Touches m (.decimal x) (.cell address)
  | store {x : Register} {address : Address} (low : m.index.toNat ≤ address.val)
      (high : address.val ≤ m.index.toNat + x.val) : Touches m (.store x) (.cell address)
  | load {x k : Register} (upTo : k ≤ x) : Touches m (.load x) (.register k)
  | indexPastStore {x : Register} (toggle : m.dialect.advanceIndex = true) :
    Touches m (.store x) .index
  | indexPastLoad {x : Register} (toggle : m.dialect.advanceIndex = true) :
    Touches m (.load x) .index
  | readDelay {x : Register} : Touches m (.readDelay x) (.register x)
  | setDelay {x : Register} : Touches m (.setDelay x) .delay
  | setSound {x : Register} : Touches m (.setSound x) .sound
  | poll {x : Register} : Touches m (.awaitRelease x) .wait
  | caught {x : Register} {key : Key} (caught : m.keypad.caught? = some key) :
    Touches m (.awaitRelease x) (.register x)

/-- The instruction is a skip, and its condition holds. -/
def Skips (m : Machine) : Instruction → Prop
  | .skipIfByte x byte => m.registers.read x = byte
  | .skipUnlessByte x byte => m.registers.read x ≠ byte
  | .skipIfEqual x y => m.registers.read x = m.registers.read y
  | .skipUnlessEqual x y => m.registers.read x ≠ m.registers.read y
  | .skipIfPressed x =>
    ∃ key : Key, (m.registers.read x).toNat = key.val ∧ m.keypad.isPressed key = true
  | .skipUnlessPressed x =>
    ∃ key : Key, (m.registers.read x).toNat = key.val ∧ m.keypad.isPressed key = false
  | _ => False

/-- The instruction waits for a release, and none has been caught. -/
def Lingers (m : Machine) : Instruction → Prop
  | .awaitRelease _ => m.keypad.caught? = none
  | _ => False

/-- Where the program goes on from an instruction. -/
inductive Onward (m : Machine) (instruction : Instruction) : Nat → Prop
  | leap (target : Nat) (leaps : instruction.leaps = true) : Onward m instruction target
  | skip (skips : m.Skips instruction) : Onward m instruction (m.pc + 4)
  | linger (lingers : m.Lingers instruction) : Onward m instruction m.pc
  | next (lands : instruction.leaps = false) (plain : ¬ m.Skips instruction)
      (done : ¬ m.Lingers instruction) : Onward m instruction (m.pc + 2)

variable {m w : Machine} {part touched : Part} {instruction : Instruction} {x : Register}

/-! ## The effect of an instruction -/

theorem skip_eq (condition : Bool) :
    m.skip condition = { m with pc := if condition then m.pc + 4 else m.pc + 2 } := by
  cases condition <;> rfl

theorem effect_awaitRelease (x : Register) :
    m.effect (.awaitRelease x) =
      { m with
        keypad := m.keypad.poll.1
        pc := if m.keypad.caught? = none then m.pc else m.pc + 2
        registers :=
          match m.keypad.caught? with
          | some key => m.registers.write x (UInt8.ofNat key)
          | none => m.registers } := by
  rw [← Keypad.poll_released]
  rcases poll : m.keypad.poll with ⟨keypad, _ | key⟩ <;> simp [effect, poll, advance]

theorem effect_remember (last instruction : Instruction) :
    (m.remember last).effect instruction = (m.effect instruction).remember last := by
  cases instruction with
  | skipIfByte | skipUnlessByte | skipIfEqual | skipUnlessEqual | skipIfPressed
  | skipUnlessPressed =>
    simp only [effect, skip_eq]
    rfl
  | awaitRelease =>
    simp only [effect_awaitRelease]
    rfl
  | _ => rfl

/-! ## Parts -/

theorem Part.Same.remember (same : part.Same m w) (last : Instruction) :
    part.Same m (w.remember last) := by
  cases part <;> exact same

/-- The parts are all there is. -/
theorem eq_of_same (same : ∀ part : Part, part.Same m w) :
    w = { m with pc := w.pc, last := w.last } := by
  have memory : w.memory = m.memory := Vector.ext fun i h => same (.cell ⟨i, h⟩)
  have registers : w.registers = m.registers := Vector.ext fun i h => same (.register ⟨i, h⟩)
  have pressed : w.keypad.pressed = m.keypad.pressed := Vector.ext fun i h => same (.key ⟨i, h⟩)
  have wait : w.keypad.wait = m.keypad.wait := same .wait
  have keypad : w.keypad = m.keypad := by
    cases keypad : w.keypad
    simp_all
  have index : w.index = m.index := same .index
  have stack : w.stack = m.stack := same .stack
  have timers : w.delay = m.delay ∧ w.sound = m.sound := ⟨same .delay, same .sound⟩
  have screen : w.screen = m.screen := same .screen
  have random : w.random = m.random := same .random
  have settled : w.rom = m.rom ∧ w.dialect = m.dialect ∧ w.isHalted = m.isHalted :=
    ⟨same .rom, same .dialect, same .halted⟩
  cases w
  simp_all

/-- A part that may change is not one that may not. -/
theorem Touches.ne (touches : m.Touches instruction touched)
    (untouched : ¬ m.Touches instruction part) : part ≠ touched := by
  rintro rfl
  exact untouched touches

theorem same_of_ne_register (byte : UInt8) (apart : part ≠ .register x) :
    part.Same m { m.advance with registers := m.registers.write x byte } := by
  cases part with
  | register k =>
    apply Registers.read_write_of_ne
    rintro rfl
    exact apart rfl
  | _ => rfl

theorem same_of_ne_index (index : UInt16) (apart : part ≠ .index) :
    part.Same m { m.advance with index } := by
  cases part with
  | index => exact absurd rfl apart
  | _ => rfl

theorem same_of_ne_stack (stack : List Nat) (pc : Nat) (apart : part ≠ .stack) :
    part.Same m { m with stack, pc } := by
  cases part with
  | stack => exact absurd rfl apart
  | _ => rfl

/-- Beyond the bytes that are written memory is as it was. -/
theorem same_of_outside (index : UInt16) (bytes : List UInt8)
    (outside : ∀ address : Address, part = .cell address →
      m.index.toNat ≤ address → m.index.toNat + bytes.length ≤ address)
    (kept : part = .index → index = m.index) :
    part.Same m { m.advance with memory := m.memory.write m.index.toNat bytes, index } := by
  cases part with
  | cell address =>
    have outside := outside address rfl
    simp only [Part.Same, Fin.getElem_fin, Memory.getElem_write]
    split
    · rw [List.getElem?_eq_none (by omega), Option.getD_none]
    · rfl
  | index => exact kept rfl
  | _ => rfl

theorem combine_frame {operation : Operation} {y k : Register}
    (untouched : ¬ m.Touches (.combine operation x y) (.register k)) :
    (m.registers.combine m.dialect operation x y).read k = m.registers.read k := by
  apply Registers.read_combine_of_ne
  · rintro rfl
    exact untouched .combine
  · rintro rfl
    cases operation with
    | copy => rfl
    | or | and | xor =>
      cases toggle : m.dialect.resetFlag with
      | true => exact absurd (.resetFlag (by simp) toggle) untouched
      | false => simp [Operation.evaluate, toggle]
    | add | subtract | subtractFrom | shiftRight | shiftLeft =>
      exact absurd (.carry (by simp)) untouched

theorem load_frame {k : Register} (untouched : ¬ m.Touches (.load x) (.register k)) :
    (m.registers.replaceUpTo x fun k => m.memory.byte (m.index.toNat + k)).read k =
      m.registers.read k := by
  apply Registers.read_replaceUpTo_of_lt
  apply Fin.not_le.mp
  intro upTo
  exact untouched (.load upTo)

theorem indexPast_of_plain (plain : ¬ m.dialect.advanceIndex = true) : m.indexPast x = m.index := by
  rw [indexPast, if_neg plain]

/-- An instruction changes nothing but what it touches. -/
theorem effect_frame (part : Part) (untouched : ¬ m.Touches instruction part) :
    part.Same m (m.effect instruction) := by
  cases instruction with
  | host | unknown | jump | jumpOffset => cases part <;> rfl
  | skipIfByte | skipUnlessByte | skipIfEqual | skipUnlessEqual | skipIfPressed
  | skipUnlessPressed =>
    simp only [effect, skip_eq]
    cases part <;> rfl
  | clearScreen =>
    have apart := Touches.clearScreen.ne untouched
    cases part with
    | screen => exact absurd rfl apart
    | _ => rfl
  | ret => exact same_of_ne_stack _ _ (Touches.ret.ne untouched)
  | call => exact same_of_ne_stack _ _ (Touches.call.ne untouched)
  | setByte => exact same_of_ne_register _ (Touches.setByte.ne untouched)
  | addByte => exact same_of_ne_register _ (Touches.addByte.ne untouched)
  | readDelay => exact same_of_ne_register _ (Touches.readDelay.ne untouched)
  | setIndex => exact same_of_ne_index _ (Touches.setIndex.ne untouched)
  | addIndex => exact same_of_ne_index _ (Touches.addIndex.ne untouched)
  | glyph => exact same_of_ne_index _ (Touches.glyph.ne untouched)
  | combine operation x y =>
    cases part with
    | register => exact combine_frame untouched
    | _ => rfl
  | random x mask =>
    have source := Touches.source.ne untouched
    cases part with
    | random => exact absurd rfl source
    | register => exact same_of_ne_register (m.random.draw.1 &&& mask) (Touches.random.ne untouched)
    | _ => rfl
  | draw x y rows =>
    have screen := Touches.draw.ne untouched
    cases part with
    | screen => exact absurd rfl screen
    | register => exact same_of_ne_register _ (Touches.collision.ne untouched)
    | _ => rfl
  | decimal x =>
    apply same_of_outside
    · rintro address rfl low
      apply Nat.not_lt.mp
      intro inside
      exact untouched (.decimal low (Nat.le_of_lt_succ inside))
    · intro
      rfl
  | store x =>
    apply same_of_outside
    · rintro address rfl low
      rw [Registers.length_upTo]
      apply Nat.not_lt.mp
      intro inside
      exact untouched (.store low (Nat.le_of_lt_succ inside))
    · rintro rfl
      exact indexPast_of_plain (untouched ∘ .indexPastStore)
  | load x =>
    rw [effect]
    cases part with
    | register => exact load_frame untouched
    | index => exact indexPast_of_plain (untouched ∘ .indexPastLoad)
    | _ => rfl
  | setDelay =>
    have apart := Touches.setDelay.ne untouched
    cases part with
    | delay => exact absurd rfl apart
    | _ => rfl
  | setSound =>
    have apart := Touches.setSound.ne untouched
    cases part with
    | sound => exact absurd rfl apart
    | _ => rfl
  | awaitRelease x =>
    have wait := Touches.poll.ne untouched
    rw [effect_awaitRelease]
    cases part with
    | wait => exact absurd rfl wait
    | key k => simp only [Part.Same, Keypad.isPressed, Keypad.poll_pressed]
    | register =>
      cases caught : m.keypad.caught? with
      | none => rfl
      | some key => exact same_of_ne_register _ ((Touches.caught caught).ne untouched)
    | _ => rfl

/-- A step, whether it faults or not, changes nothing but what its instruction touches; a
fault halts the machine. -/
theorem step_frame (part : Part) (untouched : ¬ m.Touches m.current part)
    (apart : part ≠ .halted) : part.Same m m.step.state := by
  have stepped := m.stepped
  generalize m.step = outcome at stepped
  cases stepped with
  | refused => cases part <;> rfl
  | lost | hindered =>
    cases part with
    | halted => exact absurd rfl apart
    | _ => rfl
  | done =>
    rw [effect_remember]
    exact (effect_frame part untouched).remember _

/-! ## Changes that a step does not see -/

/-- A change to a machine that neither what a step fetches nor how it faults depends on. -/
structure Unseen (f : Machine → Machine) : Prop where
  isHalted : ∀ m, (f m).isHalted = m.isHalted
  pc : ∀ m, (f m).pc = m.pc
  word : ∀ m, (f m).word = m.word
  remarks : ∀ m, (f m).remarks = m.remarks
  hindrance : ∀ m instruction, (f m).hindrance instruction = m.hindrance instruction
  halt : ∀ m, { f m with isHalted := true } = f { m with isHalted := true }
  remember : ∀ m instruction, (f m).remember instruction = f (m.remember instruction)
  advance : ∀ m, (f m).advance = f m.advance

theorem Unseen.aboutTo_iff {f : Machine → Machine} (unseen : Unseen f) :
    (f m).AboutTo instruction ↔ m.AboutTo instruction := by
  have current : (f m).current = m.current := congrArg Instruction.decode (unseen.word m)
  constructor
  · rintro ⟨running, inside, fetched⟩
    exact ⟨unseen.isHalted m ▸ running, unseen.pc m ▸ inside, current ▸ fetched⟩
  · rintro ⟨running, inside, fetched⟩
    exact ⟨(unseen.isHalted m).trans running, unseen.pc m ▸ inside, current.trans fetched⟩

theorem Unseen.halt_mapState {f : Machine → Machine} (unseen : Unseen f) (fault : Fault)
    (notes : Array Note) : (f m).halt fault notes = (m.halt fault notes).mapState f := by
  rw [Machine.halt, unseen.halt]
  rfl

/-- If the instruction that is carried out does not see a change either, the step passes it on. -/
theorem Unseen.step {f : Machine → Machine} (unseen : Unseen f)
    (moved : m.AboutTo m.current → (f m).effect m.current = f (m.effect m.current)) :
    (f m).step = m.step.mapState f := by
  have current : (f m).current = m.current := congrArg Instruction.decode (unseen.word m)
  have hindrance : (f m).hindrance (f m).current = m.hindrance m.current := by
    rw [current, unseen.hindrance]
  have isHalted := unseen.isHalted m
  have pc := unseen.pc m
  have stepped := m.stepped
  generalize m.step = outcome at stepped
  cases stepped with
  | refused halted =>
    rw [step_of_halted (isHalted.trans halted), pc]
    rfl
  | lost running outside =>
    rw [step_of_outside (isHalted.trans running) (pc ▸ outside), pc]
    exact unseen.halt_mapState _ _
  | hindered running inside hindered =>
    rw [step_of_hindered (isHalted.trans running) (pc ▸ inside) (hindrance.trans hindered),
      current, unseen.remember, unseen.advance, unseen.remarks]
    exact unseen.halt_mapState _ _
  | done running inside free =>
    have next : m.AboutTo m.current := ⟨running, Nat.le_of_lt_succ inside, rfl⟩
    rw [step_of_free (isHalted.trans running) (pc ▸ inside) (hindrance.trans free), current,
      effect_remember, moved next, unseen.remember, unseen.remarks, ← effect_remember]
    rfl

/-! ## The counter -/

theorem keyNamed_eq {key : Key} (named : (m.registers.read x).toNat = key.val) :
    m.keyNamed x = m.keypad.isPressed key := by
  rw [keyNamed, named, Key.ofInt?_val]
  rfl

/-- A value that names no key is a fault. -/
theorem exists_key
    (free : m.hindrance (.skipIfPressed x) = none ∨ m.hindrance (.skipUnlessPressed x) = none) :
    ∃ key : Key, (m.registers.read x).toNat = key.val := by
  have low : ¬ 0xF < (m.registers.read x).toNat := by
    intro high
    simp [hindrance, high] at free
  exact ⟨⟨(m.registers.read x).toNat, by omega⟩, rfl⟩

theorem exists_isPressed_iff {key : Key} (named : (m.registers.read x).toNat = key.val)
    (down : Bool) :
    (∃ key : Key, (m.registers.read x).toNat = key.val ∧ m.keypad.isPressed key = down) ↔
      m.keyNamed x = down := by
  constructor
  · rintro ⟨key, named, pressed⟩
    rw [keyNamed_eq named, pressed]
  · intro pressed
    exact ⟨key, named, keyNamed_eq named ▸ pressed⟩

theorem onward_skip {condition : Bool} (lands : instruction.leaps = false)
    (done : ¬ m.Lingers instruction) (taken : m.Skips instruction ↔ condition = true) :
    m.Onward instruction (m.skip condition).pc := by
  cases condition with
  | true => exact .skip (taken.mpr rfl)
  | false => exact .next lands (by simp [taken]) done

theorem effect_onward (free : m.hindrance instruction = none) :
    m.Onward instruction (m.effect instruction).pc := by
  cases instruction with
  | ret | jump | call | jumpOffset => exact .leap _ rfl
  | skipIfByte | skipIfEqual => exact onward_skip rfl id beq_iff_eq.symm
  | skipUnlessByte | skipUnlessEqual => exact onward_skip rfl id bne_iff_ne.symm
  | skipIfPressed x =>
    obtain ⟨key, named⟩ := exists_key (.inl free)
    exact onward_skip rfl id (exists_isPressed_iff named true)
  | skipUnlessPressed x =>
    obtain ⟨key, named⟩ := exists_key (.inr free)
    apply onward_skip rfl id
    rw [Skips, exists_isPressed_iff named, Bool.not_eq_true']
  | awaitRelease x =>
    rw [effect_awaitRelease]
    by_cases uncaught : m.keypad.caught? = none
    · rw [if_pos uncaught]
      exact .linger uncaught
    · rw [if_neg uncaught]
      exact .next rfl id uncaught
  | _ => exact .next rfl id id

/-! ## A step -/

theorem step_footprint (done : m.step.result = .ok ()) :
    (∀ part : Part, ¬ m.Touches m.current part → part.Same m m.step.state) ∧
    (∀ x mask, m.current = .random x mask →
      m.step.state.random = { m.random with drawn := m.random.drawn + 1 }) ∧
    m.Onward m.current m.step.state.pc ∧
    m.step.state.last = some m.current ∧
    ((∃ target, m.current = .host target) ∨ (∃ word, m.current = .unknown word) →
      m.step.state = { m with pc := m.pc + 2, last := some m.current }) := by
  have stepped := m.stepped
  generalize m.step = outcome at stepped done
  cases stepped with
  | refused | lost | hindered => cases done
  | done running inside free =>
    rw [effect_remember]
    have frame : ∀ part : Part, ¬ m.Touches m.current part →
        part.Same m ((m.effect m.current).remember m.current) :=
      fun part untouched => (effect_frame part untouched).remember _
    have onward : m.Onward m.current ((m.effect m.current).remember m.current).pc :=
      effect_onward free
    refine ⟨frame, ?_, onward, ?_, ?_⟩
    · intro x mask fetched
      rw [fetched]
      rfl
    · rfl
    · intro idle
      have untouched : ∀ part : Part, ¬ m.Touches m.current part := by
        intro part touches
        rcases idle with ⟨_, fetched⟩ | ⟨_, fetched⟩ <;> rw [fetched] at touches <;> cases touches
      rw [eq_of_same fun part => frame part (untouched part)]
      rcases idle with ⟨_, fetched⟩ | ⟨_, fetched⟩ <;> rw [fetched] <;> rfl

/-- Three registers fill three cells and not the next one. -/
theorem store_leaves_next_cell :
    let dialect : Dialect := { advanceIndex := true }
    let m := { powerOn ⟨[0xF2, 0x55], by decide⟩ dialect (.cycle #[]) with index := 0x300 }
    m.step.state.memory[0x303] = m.memory[0x303] ∧ m.step.state.registers.read 2 = 0 ∧
      m.step.state.pc = 0x202 ∧ m.step.state.last = some (.store 2) := by
  intro dialect m
  have fetched : m.current = .store 2 := by
    rw [current, word_of_loaded (by decide) rfl rfl]
    rfl
  have done : m.step.result = .ok () := by
    rw [step_of_free rfl (by decide) (by rw [fetched]; decide)]
  obtain ⟨frame, -, onward, last, -⟩ := step_footprint done
  rw [fetched] at frame onward last
  refine ⟨frame (.cell 0x303) ?_, frame (.register 2) ?_, ?_, last⟩
  · intro touches
    cases touches with
    | store low high => exact absurd high (by decide)
  · intro touches
    cases touches
  · generalize m.step.state.pc = pc at onward
    cases onward with
    | leap _ leaps => cases leaps
    | skip skips => exact skips.elim
    | linger lingers => exact lingers.elim
    | next => rfl

end Machine

end Chip8
