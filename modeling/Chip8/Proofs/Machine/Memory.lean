import Chip8.Proofs.Emulator.Run
import Chip8.Proofs.Machine.Footprint

/-! What memory holds. Only two instructions write to it, one that copies registers and one
that takes a register apart into digits (`stored`). A cell holds what a step of the run wrote
to it last, or else what it held at power-on (`followed_lastWritten`); in the cells of the
font this is the font, unless the program itself has written there (`font_of_run`). -/

namespace Chip8

namespace Memory

theorem byte_write (m : Memory) (address : Nat) (bytes : List UInt8) {i : Nat} (inside : i < 4096) :
    (m.write address bytes).byte i =
      if address ≤ i then bytes[i - address]?.getD (m.byte i) else m.byte i := by
  simp [byte, Vector.getElem?_eq_getElem inside, getElem_write]

theorem byte_zeros (i : Nat) : zeros.byte i = 0 := by
  rw [byte, zeros]
  by_cases inside : i < 4096
  · simp [Vector.getElem?_eq_getElem inside]
  · simp [Vector.getElem?_eq_none (Nat.le_of_not_lt inside)]

/-- The program begins behind the font. -/
theorem byte_initial_font {program : List UInt8} (fits : program.length ≤ longestProgram) {i : Nat}
    (inFont : i < font.length) : (initial program fits).byte i = font[i] := by
  have below : i < 80 := inFont
  have before : ¬ programStart ≤ i := by
    rw [programStart]
    omega
  rw [initial_eq_write, byte_write _ _ _ (by omega), if_neg before, byte_write _ _ _ (by omega),
    if_pos (Nat.zero_le i), Nat.sub_zero, List.getElem?_eq_getElem inFont, Option.getD_some]

theorem byte_initial_program {program : List UInt8} (fits : program.length ≤ longestProgram)
    {k : Nat} (inside : programStart + k < 4096) :
    (initial program fits).byte (programStart + k) = program[k]?.getD 0 := by
  have behind : font.length ≤ programStart + k := by
    rw [length_font, glyphHeight, programStart]
    omega
  rw [initial_eq_write, byte_write _ _ _ inside, if_pos (Nat.le_add_right ..), Nat.add_sub_cancel_left,
    byte_write _ _ _ inside, if_pos (Nat.zero_le _), Nat.sub_zero, List.getElem?_eq_none behind,
    Option.getD_none, byte_zeros]

end Memory

namespace Machine

variable {m : Machine} {address : Nat}

/-- The bytes that an instruction stores, from the index on. -/
def stored (m : Machine) : Instruction → List UInt8
  | .decimal x =>
    let value := m.registers.read x
    [value / 100, value / 10 % 10, value % 10]
  | .store x => m.registers.upTo x
  | _ => []

theorem effect_memory (instruction : Instruction) :
    (m.effect instruction).memory = m.memory.write m.index.toNat (m.stored instruction) := by
  cases instruction with
  | decimal | store => rfl
  | _ => exact Vector.ext fun i h => effect_frame (.cell ⟨i, h⟩) nofun

/-- The byte that the next step writes to a cell, if it gets so far as to write one there. -/
def written? (m : Machine) (address : Nat) : Option UInt8 :=
  match m.step.result with
  | .ok () =>
    if m.index.toNat ≤ address then (m.stored m.current)[address - m.index.toNat]? else none
  | .error _ => none

theorem step_byte (m : Machine) (inside : address < 4096) :
    m.step.state.memory.byte address = (m.written? address).getD (m.memory.byte address) := by
  have stepped := m.stepped
  rw [written?]
  generalize m.step = outcome at stepped
  cases stepped with
  | refused | lost | hindered => rfl
  | done =>
    simp only [effect_memory, Memory.byte_write _ _ _ inside, remember]
    split <;> rfl

/-- The byte that the steps of a history have written to a cell last. -/
def lastWritten (history : List Machine) (address : Nat) : Option UInt8 :=
  (history.filterMap (·.written? address)).getLast?

theorem lastWritten_concat (history : List Machine) (m : Machine) (address : Nat) :
    lastWritten (history ++ [m]) address =
      (m.written? address).or (lastWritten history address) := by
  rw [lastWritten, List.filterMap_append, List.getLast?_append]
  cases written : m.written? address <;> simp [written, lastWritten]

/-- A cell holds what was last written to it, and at first what it was given. -/
theorem followed_lastWritten (first : UInt8) (inside : address < 4096) :
    Followed fun past m => m.memory.byte address = (lastWritten past address).getD first where
  step past m h := by
    rw [m.step_byte inside, h, lastWritten_concat]
    cases m.written? address <;> rfl
  press _ _ _ h := h
  release _ _ _ h := h
  halt _ _ h := h
  tick _ _ h := h

/-- In a run since a reset, or since the start, which a reset of a new emulator is, a cell of
the font holds its byte of the font, unless a step of the run has written to it, and then what
the last such step wrote. -/
theorem font_of_run (rom : Rom) (config : Config) (random : ByteSource)
    (earlier commands : List Emulator.Command) (calm : .reset ∉ commands) :
    let e := ((Emulator.start rom config random).after earlier).reset
    ∀ (address : Nat) (inFont : address < Memory.font.length),
      (e.after commands).machine.memory.byte address =
        (lastWritten (e.steps commands) address).getD Memory.font[address] := by
  intro e address inFont
  have inside : address < 4096 := Nat.lt_trans inFont (by decide)
  have begun :
      e.machine.memory.byte address = (lastWritten [] address).getD Memory.font[address] :=
    Memory.byte_initial_font e.machine.rom.fits inFont
  have ended := (followed_lastWritten Memory.font[address] inside).after begun calm
  rwa [List.nil_append] at ended

/-- A program that writes to the first cell leaves the second one as it is. -/
theorem font_beside_store :
    let e := Emulator.start ⟨[0xA0, 0x00, 0xF0, 0x55], by decide⟩ .standard (.cycle #[])
    let commands := [.step, .tick, .step]
    (e.after commands).machine.memory.byte 0 = 0 ∧
      (e.after commands).machine.memory.byte 1 = 0x90 := by
  intro e commands
  have calm : .reset ∉ commands := by decide
  have cell := font_of_run e.machine.rom .standard (.cycle #[]) [] commands calm
  have written :
      lastWritten (e.steps commands) 0 = some 0 ∧ lastWritten (e.steps commands) 1 = none := by
    decide +kernel
  constructor
  · exact (cell 0 (by decide)).trans (congrArg (·.getD 0xF0) written.1)
  · exact (cell 1 (by decide)).trans (congrArg (·.getD 0x90) written.2)

/-- A program can write over the font. -/
theorem font_overwritten :
    let e := Emulator.start ⟨[0xA0, 0x00, 0xF0, 0x55], by decide⟩ .standard (.cycle #[])
    (e.after [.step, .step]).machine.memory.slice 0 Memory.font.length ≠ Memory.font := by
  decide +kernel

end Machine

end Chip8
