import Chip8.Listing
import Chip8.Proofs.Machine.Memory

/-! The listing and the machine. The listing takes words from the program and pads the last
one, the machine takes them from memory, where the program is followed by zeros and ends
before the last cell. So a step that finds its two cells as they were loaded carries out what
the listing has at that address, also in the last word of the longest program
(`step_of_listed`). -/

namespace Chip8

namespace Listing

variable {program : List UInt8} {k : Nat}

theorem getElem?_words (inside : 2 * k < program.length) :
    (words program)[k]? = some (Word.ofBytes program[2 * k] (program[2 * k + 1]?.getD 0)) := by
  fun_induction words program generalizing k with
  | case1 => cases inside
  | case2 high =>
    obtain rfl : k = 0 := by
      simp only [List.length_singleton] at inside
      omega
    rfl
  | case3 high low rest ih =>
    cases k with
    | zero => rfl
    | succ k =>
      simp only [List.length_cons] at inside
      exact ih (by omega)

theorem getElem?_entries (origin : Int) (inside : 2 * k < program.length) :
    (entries program origin)[k]? =
      some (origin + 2 * k,
        Instruction.decode (Word.ofBytes program[2 * k] (program[2 * k + 1]?.getD 0))) := by
  rw [entries, List.getElem?_mapIdx, getElem?_words inside]
  rfl

end Listing

namespace Machine

variable {m : Machine}

theorem effect_last (m : Machine) (instruction : Instruction) :
    (m.effect instruction).last = m.last := by
  cases instruction with
  | skipIfByte | skipUnlessByte | skipIfEqual | skipUnlessEqual | skipIfPressed
  | skipUnlessPressed => simp only [effect, skip_eq]
  | awaitRelease => rw [effect_awaitRelease]
  | load =>
    rw [effect]
    rfl
  | _ => rfl

/-- What hinders an instruction that was fetched is never the fetching. -/
theorem hindrance_ne_counterOutside (m : Machine) (instruction : Instruction) (pc : Nat) :
    m.hindrance instruction ≠ some (.counterOutside pc) := by
  cases instruction <;> simp [hindrance, hindrance.outside]

theorem step_fetches (running : m.isHalted = false) (inside : m.pc < 4095) :
    m.step.state.last = some m.current ∧ ∀ pc, m.step.result ≠ .error (.counterOutside pc) := by
  have stepped := m.stepped
  generalize m.step = outcome at stepped
  cases stepped with
  | refused halted => rw [running] at halted; cases halted
  | lost _ outside => omega
  | hindered _ _ hindered =>
    refine ⟨rfl, ?_⟩
    rintro pc same
    cases same
    exact m.hindrance_ne_counterOutside m.current pc hindered
  | done => exact ⟨effect_last _ _, fun _ => nofun⟩

/-- A machine that comes to a word of a program and finds it as it was loaded fetches it and
takes it for the instruction that the listing has there, whatever the rest of its state. -/
theorem step_of_listed (rom : Rom) (m : Machine) {k : Nat}
    (inside : k < (rom.bytes.length + 1) / 2) (running : m.isHalted = false)
    (place : m.pc = Memory.programStart + 2 * k)
    (high : m.memory.byte m.pc = (Memory.initial rom.bytes rom.fits).byte m.pc)
    (low : m.memory.byte (m.pc + 1) = (Memory.initial rom.bytes rom.fits).byte (m.pc + 1)) :
    (∀ pc, m.step.result ≠ .error (.counterOutside pc)) ∧
    (Listing.words rom.bytes)[k]? = some m.word ∧
    ∃ instruction, m.step.state.last = some instruction ∧
      (Listing.entries rom.bytes Memory.programStart)[k]? = some ((m.pc : Int), instruction) ∧
      (Listing.lines rom.bytes Memory.programStart)[k]? =
        some ("0x" ++ Text.Hex.signedPadded 4 m.pc ++ ": " ++ instruction.text) := by
  have listed : 2 * k < rom.bytes.length := by omega
  have fits : rom.bytes.length ≤ 4096 - 0x200 - 1 := rom.fits
  have start : Memory.programStart = 0x200 := rfl
  have word : m.word = Word.ofBytes rom.bytes[2 * k] (rom.bytes[2 * k + 1]?.getD 0) := by
    rw [word, high, low, place, Memory.byte_initial_program rom.fits (by omega), Nat.add_assoc,
      Memory.byte_initial_program rom.fits (by omega), List.getElem?_eq_getElem listed, Option.getD_some]
  obtain ⟨last, fetched⟩ := step_fetches running (by omega)
  have entry : (Listing.entries rom.bytes Memory.programStart)[k]? =
      some ((m.pc : Int), m.current) := by
    rw [Listing.getElem?_entries _ listed, current, word, place]
    simp
  refine ⟨fetched, word ▸ Listing.getElem?_words listed, m.current, last, entry, ?_⟩
  rw [Listing.lines, List.getElem?_map, entry]
  rfl

theorem memory_powerOn (rom : Rom) (dialect : Dialect) (random : ByteSource) :
    (powerOn rom dialect random).memory = Memory.initial rom.bytes rom.fits := rfl

theorem step_jump (running : m.isHalted = false) (inside : m.pc < 4095) {target : Address}
    (jumps : m.current = .jump target) :
    m.step.state.isHalted = false ∧ m.step.state.pc = target ∧ m.step.state.memory = m.memory := by
  rw [step_of_free running inside (by rw [jumps]; rfl), jumps]
  exact ⟨running, rfl, rfl⟩

/-- The longest program has an odd last byte, in the last cell but one. -/
theorem step_of_listed_last_word :
    let bytes : List UInt8 := 0x1F :: 0xFE :: (List.replicate 3580 0 ++ [0x12])
    ∃ fits, ∃ instruction,
      let m := ((Emulator.start ⟨bytes, fits⟩ .standard (.cycle #[])).after [.step]).machine
      m.step.state.last = some instruction ∧
        (Listing.entries bytes Memory.programStart)[1791]? = some (0xFFE, instruction) := by
  intro bytes
  have size : bytes.length = 3583 := by
    simp only [bytes, List.length_cons, List.length_append, List.length_replicate, List.length_nil]
  have fits : bytes.length ≤ Memory.longestProgram := by rw [size]; decide
  generalize first_eq : powerOn ⟨bytes, fits⟩ Config.standard.dialect (.cycle #[]) = first
  have loaded : first.memory = Memory.initial bytes fits := by
    rw [← first_eq]
    exact memory_powerOn ⟨bytes, fits⟩ _ _
  have start : first.isHalted = false ∧ first.pc = 0x200 := first_eq ▸ ⟨rfl, rfl⟩
  have jumps : first.current = .jump 0xFFE := by
    rw [current, word_of_loaded fits loaded start.2]
    rfl
  obtain ⟨running, place, memory⟩ := step_jump start.1 (by rw [start.2]; decide) jumps
  rw [loaded] at memory
  have listed : 1791 < (bytes.length + 1) / 2 := by rw [size]; decide
  obtain ⟨-, -, instruction, last, entry, -⟩ := step_of_listed ⟨bytes, fits⟩ first.step.state
    listed running place (by rw [memory]) (by rw [memory])
  have reached (e : Emulator) : (e.after [.step]).machine = e.machine.step.state := rfl
  refine ⟨fits, instruction, ?_, ?_⟩
  · rw [reached]
    subst first_eq
    exact last
  · rw [place] at entry
    exact entry

end Machine

end Chip8
