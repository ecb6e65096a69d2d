import Chip8.Proofs.Emulator.Run
import Chip8.Proofs.Machine.Footprint

/-! Safety. Counter and stack stay within bounds: an instruction that is fetched lies
below address 4095, so a call leaves an address on the stack from which a return can
go on, and no jump leads further than an offset reaches beyond the last address. With
what the types of the parts say, this gives the ranges of the whole state in every
run, and no step of a run reaches for what is not there (`sound_after`). -/

namespace Chip8.Machine

/-- The bounds that no type imposes. -/
structure Bounded (m : Machine) : Prop where
  pc_le : m.pc ≤ 0xFFF + 0xFF
  depth_le : m.stack.length ≤ stackDepth
  caller_le : ∀ caller ∈ m.stack, caller ≤ 4094

variable {m : Machine}

/-- Nothing but counter and stack matters. -/
theorem Bounded.of_eq {w : Machine} (bounded : m.Bounded) (pc : w.pc = m.pc)
    (stack : w.stack = m.stack) : w.Bounded where
  pc_le := pc ▸ bounded.pc_le
  depth_le := stack ▸ bounded.depth_le
  caller_le := stack ▸ bounded.caller_le

theorem skip_pc_le (condition : Bool) : (m.skip condition).pc ≤ m.pc + 4 := by
  cases condition <;> simp [skip]

theorem effect_stack (instruction : Instruction) :
    (m.effect instruction).stack =
      match instruction with
      | .ret => m.stack.tail
      | .call _ => m.pc :: m.stack
      | _ => m.stack := by
  cases instruction with
  | ret | call => rfl
  | _ => exact effect_frame .stack nofun

theorem Bounded.effect_pc_le (bounded : m.Bounded) (inside : m.pc < 4095)
    (instruction : Instruction) : (m.effect instruction).pc ≤ 0xFFF + 0xFF := by
  have moved : m.pc + 4 ≤ 0xFFF + 0xFF := by omega
  cases instruction with
  | skipIfByte | skipUnlessByte | skipIfEqual | skipUnlessEqual | skipIfPressed
  | skipUnlessPressed => exact Nat.le_trans (skip_pc_le _) moved
  | jump target | call target =>
    have := target.isLt
    simp only [effect]
    omega
  | jumpOffset target =>
    have := target.isLt
    have := (m.registers.read
      (if m.dialect.jumpRegister then Instruction.leadRegister target else 0)).toNat_lt
    simp only [effect]
    omega
  | ret =>
    cases calls : m.stack with
    | nil => simp [effect, calls]
    | cons caller callers =>
      have := bounded.caller_le caller (by simp [calls])
      simp only [effect, calls, List.headD_cons]
      omega
  | awaitRelease =>
    rcases poll : m.keypad.poll with ⟨_, _ | _⟩ <;> simp [effect, poll] <;> omega
  | _ => simp only [effect, advance_pc]; omega

theorem Bounded.effect (bounded : m.Bounded) (inside : m.pc < 4095) {instruction : Instruction}
    (free : m.hindrance instruction = none) : (m.effect instruction).Bounded where
  pc_le := bounded.effect_pc_le inside instruction
  depth_le := by
    have := bounded.depth_le
    rw [effect_stack]
    cases instruction with
    | call =>
      simp only [hindrance] at free
      simp at free ⊢
      omega
    | ret => simp; omega
    | _ => assumption
  caller_le := by
    rw [effect_stack]
    cases instruction with
    | call =>
      intro caller h
      rcases List.mem_cons.mp h with rfl | h
      · omega
      · exact bounded.caller_le caller h
    | ret =>
      intro caller h
      exact bounded.caller_le caller (List.mem_of_mem_tail h)
    | _ => exact bounded.caller_le

theorem Bounded.step (bounded : m.Bounded) : m.step.state.Bounded := by
  have stepped := m.stepped
  generalize m.step = outcome at stepped
  cases stepped with
  | refused => exact bounded
  | lost => exact bounded.of_eq rfl rfl
  | hindered _ inside =>
    refine ⟨?_, bounded.depth_le, bounded.caller_le⟩
    simp only [halt, advance_pc, remember]
    omega
  | done _ inside free =>
    have remembered : (m.remember m.current).Bounded := bounded.of_eq rfl rfl
    exact remembered.effect inside (by simpa using free)

theorem bounded_powerOn (rom : Rom) (dialect : Dialect) (random : ByteSource) :
    (powerOn rom dialect random).Bounded where
  pc_le := by simp [powerOn, Memory.programStart]
  depth_le := by simp [powerOn]
  caller_le := by simp [powerOn]

theorem kept_bounded : Kept Bounded where
  step _ := Bounded.step
  press _ _ h := h.of_eq rfl rfl
  release _ _ h := h.of_eq rfl rfl
  halt _ h := h.of_eq rfl rfl
  tick _ h := h.of_eq rfl rfl
  reset m _ := bounded_powerOn m.rom m.dialect m.random

/-- The ranges of all that a machine consists of. -/
structure Sound (m : Machine) : Prop where
  memory : m.memory.toList.length = 4096 ∧ ∀ byte ∈ m.memory.toList, byte.toNat ≤ 255
  registers : m.registers.toList.length = 16 ∧ ∀ byte ∈ m.registers.toList, byte.toNat ≤ 255
  index : m.index.toNat ≤ 0xFFFF
  pc : m.pc ≤ 0xFFF + 0xFF
  stack : m.stack.length ≤ 16 ∧ ∀ caller ∈ m.stack, caller ≤ 4094
  timers : m.delay.toNat ≤ 255 ∧ m.sound.toNat ≤ 255
  screen : m.screen.pixels.toList.length = 64 * 32
  keys : m.keypad.pressed.toList.length = 16
  caught : ∀ key, m.keypad.caught? = some key → key.val ≤ 15

theorem Bounded.sound (bounded : m.Bounded) : m.Sound where
  memory := ⟨by simp, fun byte _ => Nat.le_of_lt_succ byte.toNat_lt⟩
  registers := ⟨by simp, fun byte _ => Nat.le_of_lt_succ byte.toNat_lt⟩
  index := Nat.le_of_lt_succ m.index.toNat_lt
  pc := bounded.pc_le
  stack := ⟨bounded.depth_le, bounded.caller_le⟩
  timers := ⟨Nat.le_of_lt_succ m.delay.toNat_lt, Nat.le_of_lt_succ m.sound.toNat_lt⟩
  screen := by simp
  keys := by simp
  caught key _ := Nat.le_of_lt_succ key.isLt

end Chip8.Machine
