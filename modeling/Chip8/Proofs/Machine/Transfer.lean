import Chip8.Proofs.Machine.Memory

/-! Transfers between registers and memory. What a store copies to memory a load gives back,
whatever becomes of the registers in between, and to store what was loaded changes nothing: the
stretch of memory that a store writes and the one that a load reads are the same, cell for cell,
up to the very last one (`transfer_round_trip`). -/

namespace Chip8

namespace Registers

variable (v : Registers) {x k : Register}

theorem getElem?_upTo (listed : k ≤ x) : (v.upTo x)[k.val]? = some (v.read k) := by
  have inside : k.val < x.val + 1 := Nat.lt_succ_of_le listed
  rw [upTo, List.getElem?_take_of_lt inside, Vector.getElem?_toList,
    Vector.getElem?_eq_getElem k.isLt]
  rfl

theorem read_replaceUpTo_of_le (byte : Nat → UInt8) (listed : k ≤ x) :
    (v.replaceUpTo x byte).read k = byte k := by
  rw [read, Fin.getElem_fin, getElem_replaceUpTo, if_pos (Fin.le_def.mp listed)]

theorem upTo_replaceUpTo (byte : Nat → UInt8) :
    (v.replaceUpTo x byte).upTo x = (List.range (x.val + 1)).map byte := by
  apply List.ext_getElem
  · simp
  · intro i inside _
    rw [length_upTo] at inside
    have listed : i ≤ x.val := Nat.le_of_lt_succ inside
    simp [upTo, getElem_replaceUpTo, listed]

end Registers

namespace Memory

variable (memory : Memory)

theorem byte_write_upTo (v : Registers) {x k : Register} (listed : k ≤ x) {address : Nat}
    (fits : address + x.val + 1 ≤ 4096) :
    (memory.write address (v.upTo x)).byte (address + k) = v.read k := by
  have listed' : k.val ≤ x.val := listed
  rw [byte_write _ _ _ (by omega), if_pos (Nat.le_add_right ..), Nat.add_sub_cancel_left,
    v.getElem?_upTo listed, Option.getD_some]

/-- To write what stands there already changes nothing. -/
theorem write_slice (address length : Nat) :
    memory.write address (memory.slice address length) = memory := by
  apply Vector.ext
  intro i inside
  rw [getElem_write]
  split
  · next behind =>
    by_cases within : i - address < length
    · simp [slice, within, byte, Nat.add_sub_cancel' behind, inside]
    · rw [List.getElem?_eq_none (by rw [length_slice]; omega), Option.getD_none]
  · rfl

end Memory

namespace Machine

variable {m : Machine} {x y : Register}

theorem toNat_indexPast (fits : m.index.toNat + x.val + 1 ≤ 4096) :
    (m.indexPast x).toNat =
      if m.dialect.advanceIndex then m.index.toNat + x.val + 1 else m.index.toNat := by
  rw [indexPast]
  split
  · rw [UInt16.toNat_add, UInt16.toNat_ofNat']
    omega
  · rfl

theorem execute_store (fits : m.index.toNat + x.val + 1 ≤ 4096) :
    (execute (.store x)).run m = .ok () (m.effect (.store x)) := by
  have free : m.hindrance (.store x) = none := if_neg (by omega)
  rw [run_execute, free]

theorem execute_load (fits : m.index.toNat + x.val + 1 ≤ 4096) :
    (execute (.load x)).run m = .ok () (m.effect (.load x)) := by
  have free : m.hindrance (.load x) = none := if_neg (by omega)
  rw [run_execute, free]

theorem effect_store_memory (x : Register) :
    (m.effect (.store x)).memory = m.memory.write m.index.toNat (m.registers.upTo x) := rfl

theorem effect_load_registers (x : Register) :
    (m.effect (.load x)).registers =
      m.registers.replaceUpTo x fun k => m.memory.byte (m.index.toNat + k) := rfl

theorem effect_load_memory (x : Register) : (m.effect (.load x)).memory = m.memory := rfl

/-! ## There and back -/

theorem byte_effect_store (fits : m.index.toNat + x.val + 1 ≤ 4096) {k : Register}
    (listed : k ≤ x) :
    (m.effect (.store x)).memory.byte (m.index.toNat + k) = m.registers.read k :=
  Memory.byte_write_upTo _ _ listed fits

theorem effect_store_of_outside {address : Address}
    (outside : address < m.index.toNat ∨ m.index.toNat + x < address) :
    (Part.cell address).Same m (m.effect (.store x)) := by
  apply effect_frame
  intro touches
  cases touches with
  | store low high => omega

variable {later : Machine}

/-- Of what a store has saved, a load gives back as much as it is asked for. -/
theorem read_effect_load_of_saved (fits : m.index.toNat + x.val + 1 ≤ 4096) (shorter : y ≤ x)
    (memory : later.memory = (m.effect (.store x)).memory) (index : later.index = m.index)
    {k : Register} (listed : k ≤ y) :
    (later.effect (.load y)).registers.read k = m.registers.read k := by
  rw [effect_load_registers, Registers.read_replaceUpTo_of_le _ _ listed, memory, index]
  exact byte_effect_store fits (Fin.le_trans listed shorter)

/-- To store what has been loaded from there changes nothing. -/
theorem effect_store_of_loaded (registers : later.registers = (m.effect (.load x)).registers)
    (memory : later.memory = (m.effect (.load x)).memory) (index : later.index = m.index) :
    (later.effect (.store x)).memory = m.memory := by
  rw [effect_store_memory, registers, memory, index, effect_load_registers, effect_load_memory,
    Registers.upTo_replaceUpTo]
  exact Memory.write_slice ..

/-- What a store that fits has saved, a load of no more registers restores, and what a load has
loaded, a store leaves in memory as it is. -/
theorem transfer_round_trip (shorter : y ≤ x) (fits : m.index.toNat + x.val + 1 ≤ 4096) :
    let i := m.index.toNat
    (∃ saved, (execute (.store x)).run m = .ok () saved ∧
      (∀ k ≤ x, saved.memory.byte (i + k) = m.registers.read k) ∧
      (∀ address : Address, address < i ∨ i + x < address →
        saved.memory[address] = m.memory[address]) ∧
      saved.registers = m.registers ∧
      saved.index.toNat = (if m.dialect.advanceIndex then i + x + 1 else i) ∧
      ∀ later : Machine, later.memory = saved.memory → later.index = m.index →
        ∃ restored, (execute (.load y)).run later = .ok () restored ∧
          (∀ k ≤ y, restored.registers.read k = m.registers.read k) ∧
          (∀ k, y < k → restored.registers.read k = later.registers.read k) ∧
          restored.memory = later.memory ∧
          restored.index.toNat = if later.dialect.advanceIndex then i + y + 1 else i) ∧
    ∃ loaded, (execute (.load x)).run m = .ok () loaded ∧
      ∀ later : Machine, later.registers = loaded.registers → later.memory = loaded.memory →
        later.index = m.index →
        ∃ stored, (execute (.store x)).run later = .ok () stored ∧ stored.memory = m.memory := by
  intro i
  have shorter' : y.val ≤ x.val := shorter
  constructor
  · refine ⟨m.effect (.store x), execute_store fits, fun k => byte_effect_store fits,
      fun address => effect_store_of_outside, rfl, toNat_indexPast fits, ?_⟩
    intro later memory index
    have loadFits : later.index.toNat + y.val + 1 ≤ 4096 := by
      rw [index]
      omega
    refine ⟨later.effect (.load y), execute_load loadFits, ?_, ?_, effect_load_memory y, ?_⟩
    · intro k
      exact read_effect_load_of_saved fits shorter memory index
    · intro k above
      rw [effect_load_registers]
      exact Registers.read_replaceUpTo_of_lt _ _ above
    · show (later.indexPast y).toNat = _
      rw [toNat_indexPast loadFits, index]
  · refine ⟨m.effect (.load x), execute_load fits, ?_⟩
    intro later registers memory index
    have storeFits : later.index.toNat + x.val + 1 ≤ 4096 := by
      rw [index]
      exact fits
    exact ⟨later.effect (.store x), execute_store storeFits,
      effect_store_of_loaded registers memory index⟩

/-- A store that fills memory up to its end, and a load of all that it stored but the last. -/
theorem transfer_round_trip_last_cell :
    let m := { powerOn ⟨[], by decide⟩ { advanceIndex := true } (.cycle #[]) with
      index := 4093
      registers := Registers.write (Registers.write (Vector.replicate 16 0) 1 8) 2 9 }
    (1 : Register) ≤ 2 ∧ m.index.toNat + (2 : Register).val + 1 ≤ 4096 ∧
      ∃ saved, (execute (.store 2)).run m = .ok () saved ∧
        saved.memory.byte 4095 = 9 ∧ saved.index = 4096 ∧
        ∃ restored,
          (execute (.load 1)).run
            { saved with index := m.index, registers := Vector.replicate 16 5 } =
              .ok () restored ∧
          restored.registers.read 1 = 8 ∧ restored.registers.read 2 = 5 ∧
            restored.index = 4095 := by
  intro m
  have shorter : (1 : Register) ≤ 2 := by decide
  have fits : m.index.toNat + (2 : Register).val + 1 ≤ 4096 := by decide
  obtain ⟨⟨saved, run, written, -, -, past, later⟩, -⟩ := transfer_round_trip shorter fits
  obtain ⟨restored, again, loaded, kept, -, onward⟩ :=
    later { saved with index := m.index, registers := Vector.replicate 16 5 } rfl rfl
  have dialect : saved.dialect = m.dialect := by
    obtain ⟨-, rfl⟩ := EStateM.Result.ok.inj (run.symm.trans (execute_store fits))
    rfl
  refine ⟨shorter, fits, saved, run, written 2 (by decide), UInt16.toNat_inj.mp past,
    restored, again, loaded 1 (by decide), kept 2 (by decide), UInt16.toNat_inj.mp ?_⟩
  rw [onward]
  simp only [dialect]
  rfl

end Machine

end Chip8
