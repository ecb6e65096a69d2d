import Chip8.Proofs.Instruction.Encoding
import Chip8.Proofs.Machine.Footprint
import Chip8.Proofs.Machine.KeyWait

/-! Pending waits. A wait that is under way belongs to the instruction at the counter, which is
the one that was fetched last. Only the waiting instruction opens a wait, and as long as the
wait lasts a step can do nothing but fetch this instruction again: it stands still and stores
nothing, and nothing hinders it. So no wait is left over from an instruction that the program
has gone past, whatever the run (`wait_belongs`). -/

namespace Chip8.KeyWait

/-- The instruction that was fetched last waits for a release, and it is still there. -/
structure Anchored (m : Machine) : Prop where
  inside : m.pc ≤ 4094
  waits : ∃ x : Register, m.word.toNat = 0xF00A + 0x100 * x.val
  fetched : m.last = some (Instruction.decode m.word)

/-- A wait that is under way has its instruction. -/
def Belongs (m : Machine) : Prop := m.keypad.isWaiting = true → Anchored m

variable {m w : Machine} {x : Register}

theorem current_eq_awaitRelease_iff :
    m.current = .awaitRelease x ↔ m.word.toNat = 0xF00A + 0x100 * x.val := by
  constructor
  · intro current
    have code : m.current.code = m.word.toNat := Instruction.code_decode m.word
    rw [current] at code
    exact code.symm
  · exact decode_awaitRelease x

theorem Anchored.exists_current (anchored : Anchored m) : ∃ x, m.current = .awaitRelease x := by
  obtain ⟨x, word⟩ := anchored.waits
  exact ⟨x, current_eq_awaitRelease_iff.mpr word⟩

/-- Nothing but the counter, memory and what was fetched last matters. -/
theorem Anchored.of_eq (anchored : Anchored m) (pc : w.pc = m.pc) (memory : w.memory = m.memory)
    (last : w.last = m.last) : Anchored w := by
  obtain ⟨inside, waits, fetched⟩ := anchored
  have word : w.word = m.word := by
    rw [Machine.word, Machine.word, pc, memory]
  rw [← pc] at inside
  rw [← word] at waits fetched
  exact ⟨inside, waits, last.trans fetched⟩

theorem isWaiting_release (pad : Keypad) (key : Key) :
    (pad.release key).isWaiting = pad.isWaiting := by
  unfold Keypad.release Keypad.isWaiting
  rcases pad.wait with _ | _ | _ <;> rfl

theorem isWaiting_of_caught {pad : Keypad} {key : Key} (caught : pad.caught? = some key) :
    pad.isWaiting = true := by
  unfold Keypad.caught? at caught
  unfold Keypad.isWaiting
  split at caught
  · cases caught
  · simp_all

/-- A poll that hands a release out ends the wait. -/
theorem isWaiting_poll {pad : Keypad} (waiting : pad.poll.1.isWaiting = true) :
    pad.caught? = none := by
  unfold Keypad.poll at waiting
  unfold Keypad.caught?
  rcases wait : pad.wait with _ | _ | _ <;> simp_all [Keypad.isWaiting]

/-- A poll leaves the wait open only if the machine goes on waiting where it is. -/
theorem effect_anchored (inside : m.pc ≤ 4094) (current : m.current = .awaitRelease x)
    (waiting : (m.effect (.awaitRelease x)).keypad.isWaiting = true) :
    Anchored ((m.effect (.awaitRelease x)).remember m.current) := by
  rw [Machine.effect_awaitRelease] at waiting ⊢
  have uncaught := isWaiting_poll waiting
  have anchored : Anchored (m.remember m.current) :=
    ⟨inside, ⟨x, current_eq_awaitRelease_iff.mp current⟩, rfl⟩
  exact anchored.of_eq (if_pos uncaught) rfl rfl

theorem Belongs.step (belongs : Belongs m) : Belongs m.step.state := by
  have stepped := m.stepped
  generalize m.step = outcome at stepped
  cases stepped with
  | refused => exact belongs
  | lost =>
    intro waiting
    exact (belongs waiting).of_eq rfl rfl rfl
  | hindered _ _ hindered =>
    intro waiting
    obtain ⟨x, current⟩ := (belongs waiting).exists_current
    rw [current] at hindered
    cases hindered
  | done running inside free =>
    intro waiting
    rw [Machine.effect_remember] at waiting ⊢
    by_cases awaits : ∃ x, m.current = .awaitRelease x
    · obtain ⟨x, current⟩ := awaits
      have anchored := effect_anchored (Nat.le_of_lt_succ inside) current
      rw [← current] at anchored
      exact anchored waiting
    · have untouched : ¬ m.Touches m.current .wait := by
        generalize m.current = instruction at awaits
        intro touches
        cases touches
        exact awaits ⟨_, rfl⟩
      have wait : (m.effect m.current).keypad.wait = m.keypad.wait :=
        Machine.effect_frame .wait untouched
      have before : m.keypad.isWaiting = true := by
        rw [Keypad.isWaiting, ← wait]
        exact waiting
      exact absurd (belongs before).exists_current awaits

theorem kept_belongs : Machine.Kept Belongs where
  step _ := Belongs.step
  press _ _ belongs waiting := (belongs waiting).of_eq rfl rfl rfl
  release m key belongs waiting :=
    (belongs ((isWaiting_release m.keypad key).symm.trans waiting)).of_eq rfl rfl rfl
  halt _ belongs waiting := (belongs waiting).of_eq rfl rfl rfl
  tick _ belongs waiting := (belongs waiting).of_eq rfl rfl rfl
  reset _ _ waiting := by cases waiting

theorem wait_belongs (rom : Rom) (config : Config) (random : ByteSource)
    (commands : List Emulator.Command) :
    let m := ((Emulator.start rom config random).after commands).machine
    (m.keypad.isWaiting = true →
      m.pc ≤ 4094 ∧ (∃ x : Register, m.word.toNat = 0xF00A + 0x100 * x.val) ∧
        m.last = some (Instruction.decode m.word)) ∧
    ∀ key, m.keypad.caught? = some key → m.keypad.isWaiting = true := by
  intro m
  have idle : Belongs (Emulator.start rom config random).machine := nofun
  refine ⟨?_, fun key => isWaiting_of_caught⟩
  intro waiting
  obtain ⟨inside, waits, fetched⟩ := kept_belongs.after idle commands waiting
  exact ⟨inside, waits, fetched⟩

/-- A release is caught for the instruction that waits, which has not gone by. -/
theorem wait_belongs_caught :
    let e := Emulator.start ⟨[0xF3, 0x0A], by decide⟩ .standard (.cycle #[])
    let m := (e.after [.step, .keyUp 7, .tick]).machine
    m.keypad.caught? = some 7 ∧ m.pc ≤ 4094 ∧ m.last = some (Instruction.decode m.word) := by
  intro e m
  have caught : m.keypad.caught? = some 7 := by decide +kernel
  obtain ⟨belongs, armed⟩ :=
    wait_belongs e.machine.rom .standard (.cycle #[]) [.step, .keyUp 7, .tick]
  obtain ⟨inside, -, fetched⟩ := belongs (armed 7 caught)
  exact ⟨caught, inside, fetched⟩

end Chip8.KeyWait
