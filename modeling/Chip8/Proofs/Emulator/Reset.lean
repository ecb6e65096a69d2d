import Chip8.Proofs.Emulator.Dialect
import Chip8.Proofs.Emulator.Frame
import Chip8.Proofs.Machine.Memory

/-! Resets. The program, the dialect and the bytes of the random source belong to a machine for
good (`kept_settled`), and a reset makes the rest of it anew from these. So after any run a
reset leaves what was there at power-on (`PoweredOn`), and the run goes on as that of an
emulator which has just been started, at the same speed and with the source where it stood
(`reset_after`). -/

namespace Chip8

theorem toList_of_splice? {α : Type} {n : Nat} {entries after : Vector α n} {start length : Nat}
    {new : List α} (spliced : splice? entries start length new = some after) :
    after.toList = entries.toList.take start ++ new ++ entries.toList.drop (start + length) := by
  rw [splice?] at spliced
  split at spliced
  · cases spliced
    rfl
  · cases spliced

namespace Memory

theorem toList_write (m : Memory) {address : Nat} {bytes : List UInt8}
    (fits : address + bytes.length ≤ 4096) :
    (m.write address bytes).toList =
      m.toList.take address ++ bytes ++ m.toList.drop (address + bytes.length) :=
  toList_of_splice? (m.splice?_write rfl fits)

/-- Memory at power-on, stretch by stretch. -/
theorem toList_initial {program : List UInt8} (fits : program.length ≤ longestProgram) :
    (initial program fits).toList =
      font ++ List.replicate (0x200 - 80) 0 ++ program ++
        List.replicate (4096 - 0x200 - program.length) 0 := by
  have start : programStart = 0x200 := rfl
  have longest : longestProgram = 3583 := rfl
  have size : font.length = 80 := rfl
  have withFont : (zeros.write 0 font).toList = font ++ List.replicate (4096 - 80) 0 := by
    rw [toList_write _ (by omega), zeros, Vector.toList_replicate, List.take_zero, List.nil_append,
      List.drop_replicate, Nat.zero_add, size]
  have before : (font ++ List.replicate (4096 - 80) 0).take 0x200 =
      font ++ List.replicate (0x200 - 80) (0 : UInt8) := by
    rw [List.take_append, List.take_of_length_le (by omega), List.take_replicate, size,
      Nat.min_eq_left (by omega)]
  have behind : (font ++ List.replicate (4096 - 80) (0 : UInt8)).drop (0x200 + program.length) =
      List.replicate (4096 - 0x200 - program.length) 0 := by
    have left : 4096 - 80 - (0x200 + program.length - 80) = 4096 - 0x200 - program.length := by
      omega
    rw [List.drop_append, List.drop_of_length_le (by omega), List.drop_replicate, size,
      List.nil_append, left]
  rw [initial_eq_write, start, toList_write _ (by omega), withFont, before, behind]

end Memory

namespace Machine

variable {m : Machine} {rom : Rom} {dialect : Dialect} {bytes : Nat → UInt8}

/-- What belongs to a machine for good. -/
structure Settled (program : Rom) (spoken : Dialect) (source : Nat → UInt8) (m : Machine) :
    Prop where
  rom : m.rom = program
  dialect : m.dialect = spoken
  bytes : m.random.bytes = source

/-- All that a machine is at power-on, but for its dialect and its source. -/
structure PoweredOn (program : Rom) (m : Machine) : Prop where
  rom : m.rom = program
  memory : m.memory.toList =
    Memory.font ++ List.replicate (0x200 - 80) 0 ++ program.bytes ++
      List.replicate (4096 - 0x200 - program.bytes.length) 0
  registers : m.registers.toList = List.replicate 16 0
  index : m.index = 0
  pc : m.pc = 0x200
  stack : m.stack = []
  timers : m.delay = 0 ∧ m.sound = 0
  pixels : m.screen.pixels.toList = List.replicate (64 * 32) false
  mark : m.screen.dirty = false
  keys : ∀ key, m.keypad.isPressed key = false
  wait : m.keypad.isWaiting = false ∧ m.keypad.caught? = none
  running : m.isHalted = false
  last : m.last = none

/-- A draw moves the source on but leaves its bytes. -/
theorem effect_bytes (m : Machine) (instruction : Instruction) :
    (m.effect instruction).random.bytes = m.random.bytes := by
  cases instruction with
  | random => rfl
  | _ => exact congrArg ByteSource.bytes (effect_frame .random nofun)

theorem step_bytes (m : Machine) : m.step.state.random.bytes = m.random.bytes := by
  have stepped := m.stepped
  generalize m.step = outcome at stepped
  cases stepped with
  | refused | lost | hindered => rfl
  | done => exact effect_bytes _ _

theorem kept_settled (rom : Rom) (dialect : Dialect) (bytes : Nat → UInt8) :
    Kept (Settled rom dialect bytes) where
  step m h := by
    have untouched (instruction : Instruction) : ¬ m.Touches instruction .rom := nofun
    have rom : m.step.state.rom = m.rom := step_frame .rom (untouched m.current) nofun
    exact ⟨rom.trans h.rom, (kept_dialect dialect).step m h.dialect, m.step_bytes.trans h.bytes⟩
  press _ _ h := ⟨h.rom, h.dialect, h.bytes⟩
  release _ _ h := ⟨h.rom, h.dialect, h.bytes⟩
  halt _ h := ⟨h.rom, h.dialect, h.bytes⟩
  tick _ h := ⟨h.rom, h.dialect, h.bytes⟩
  reset _ h := ⟨h.rom, h.dialect, h.bytes⟩

theorem Settled.reset_eq (settled : m.Settled rom dialect bytes) :
    m.reset = powerOn rom dialect { bytes, drawn := m.random.drawn } := by
  obtain ⟨rfl, rfl, rfl⟩ := settled
  rfl

theorem poweredOn (rom : Rom) (dialect : Dialect) (random : ByteSource) :
    (powerOn rom dialect random).PoweredOn rom where
  rom := rfl
  memory := Memory.toList_initial rom.fits
  registers := Vector.toList_replicate
  index := rfl
  pc := rfl
  stack := rfl
  timers := ⟨rfl, rfl⟩
  pixels := Vector.toList_replicate
  mark := rfl
  keys key := Vector.getElem_replicate key.isLt
  wait := ⟨rfl, rfl⟩
  running := rfl
  last := rfl

end Machine

namespace Emulator

/-- After a reset nothing is left of the run but the speed and the place in the source. -/
theorem reset_after (rom : Rom) (config : Config) (random : ByteSource)
    (commands more : List Command) :
    let first := start rom config random
    let e := first.after commands
    let fresh := (start rom config { random with drawn := e.machine.random.drawn }).setSpeed e.speed
    e.reset = fresh ∧
    e.reset.machine.PoweredOn rom ∧ e.reset.frames = 0 ∧
    first.outcomes (commands ++ .reset :: more) =
      first.outcomes commands ++ .ok fresh none :: fresh.outcomes more ∧
    first.after (commands ++ .reset :: more) = fresh.after more := by
  intro first e fresh
  have begun : first.machine.Settled rom config.dialect random.bytes := ⟨rfl, rfl, rfl⟩
  have settled : e.machine.Settled rom config.dialect random.bytes :=
    (Machine.kept_settled ..).after begun commands
  have machine : e.machine.reset = fresh.machine := settled.reset_eq
  have config : e.config = first.config := first.after_config commands
  have same : e.reset = fresh := by
    rw [reset, machine, config]
    rfl
  have performed : e.perform .reset = .ok fresh none := congrArg (Outcome.ok · none) same
  refine ⟨same, ?_, rfl, ?_, ?_⟩
  · rw [same]
    exact Machine.poweredOn rom _ _
  · rw [outcomes_append, outcomes, performed]
    rfl
  · rw [after_append, after_cons, performed]
    rfl

end Emulator

end Chip8
