import Chip8.Machine.Step

/-! The faults of a step. `Due` says of each fault when a step runs into it, in terms of
the state before the step alone; a step faults just as it is due to
(`step_error_iff_due`). What a fault leaves behind is the machine as it was, halted, and
with its counter past the instruction if one was fetched (`fault_leaves`). -/

namespace Chip8.Machine

/-- The machine runs and can fetch, and what it fetches is the instruction. -/
structure AboutTo (m : Machine) (instruction : Instruction) : Prop where
  running : m.isHalted = false
  inside : m.pc ≤ 4094
  fetched : m.current = instruction

/-- The faults that the next step runs into. -/
inductive Due (m : Machine) : Fault → Prop
  | halted (halted : m.isHalted = true) : Due m (.halted m.pc)
  | counterOutside (running : m.isHalted = false) (outside : 4094 < m.pc) :
    Due m (.counterOutside m.pc)
  | stackEmpty (next : m.AboutTo .ret) (depth : m.stack.length = 0) : Due m (.stackEmpty m.pc)
  | stackFull {target : Address} (next : m.AboutTo (.call target)) (depth : m.stack.length = 16) :
    Due m (.stackFull m.pc)
  | noKey {x : Register} (next : m.AboutTo (.skipIfPressed x) ∨ m.AboutTo (.skipUnlessPressed x))
      (high : 15 < (m.registers.read x).toNat) : Due m (.noKey (m.registers.read x).toNat)
  | noGlyph {x : Register} (next : m.AboutTo (.glyph x)) (high : 15 < (m.registers.read x).toNat) :
    Due m (.noGlyph (m.registers.read x) m.pc)
  | decimal {x : Register} (next : m.AboutTo (.decimal x)) (beyond : 4096 < m.index.toNat + 3) :
    Due m (.rangeOutside 3 m.index.toNat m.pc)
  | transfer {x : Register} (next : m.AboutTo (.store x) ∨ m.AboutTo (.load x))
      (beyond : 4096 < m.index.toNat + x.val + 1) :
    Due m (.rangeOutside (x.val + 1) m.index.toNat m.pc)
  | sprite {x y : Register} {rows : Fin 16} (next : m.AboutTo (.draw x y rows))
      (beyond : 4096 < m.index.toNat + rows.val) :
    Due m (.rangeOutside rows.val m.index.toNat m.pc)

variable {m : Machine} {fault : Fault}

theorem due_of_hindrance (depth : m.stack.length ≤ stackDepth) {instruction : Instruction}
    (next : m.AboutTo instruction) (hindered : m.hindrance instruction = some fault) :
    m.Due fault := by
  cases instruction <;> simp [hindrance, hindrance.outside] at hindered
  all_goals obtain ⟨why, rfl⟩ := hindered
  case ret => exact .stackEmpty next (by simp [why])
  case call => exact .stackFull next (Nat.le_antisymm depth why)
  case skipIfPressed => exact .noKey (.inl next) why
  case skipUnlessPressed => exact .noKey (.inr next) why
  case glyph => exact .noGlyph next why
  case draw => exact .sprite next why
  case decimal => exact .decimal next why
  case store => exact .transfer (.inl next) why
  case load => exact .transfer (.inr next) why

theorem step_due (depth : m.stack.length ≤ stackDepth) (h : m.step.result = .error fault) :
    m.Due fault := by
  have stepped := m.stepped
  generalize m.step = outcome at stepped h
  cases stepped with
  | refused halted => cases h; exact .halted halted
  | lost running outside => cases h; exact .counterOutside running outside
  | hindered running inside hindered =>
    cases h
    exact due_of_hindrance depth ⟨running, by omega, rfl⟩ hindered
  | done => cases h

/-- An instruction that something hinders stops the step that fetches it. -/
theorem AboutTo.step_error {instruction : Instruction} (next : m.AboutTo instruction)
    (hindered : m.hindrance instruction = some fault) : m.step.result = .error fault := by
  have inside := next.inside
  rw [← next.fetched] at hindered
  rw [step_of_hindered next.running (by omega) hindered]
  rfl

theorem Due.step_error (due : m.Due fault) : m.step.result = .error fault := by
  cases due with
  | halted halted => rw [step_of_halted halted]
  | counterOutside running outside => rw [step_of_outside running outside]; rfl
  | stackEmpty next depth => exact next.step_error (by simp_all [hindrance])
  | stackFull next depth => exact next.step_error (by simp_all [hindrance, stackDepth])
  | noKey next high =>
    rcases next with next | next <;> exact next.step_error (by simp_all [hindrance])
  | noGlyph next high => exact next.step_error (by simp_all [hindrance])
  | decimal next beyond => exact next.step_error (by simp_all [hindrance, hindrance.outside])
  | transfer next beyond =>
    rcases next with next | next <;>
      exact next.step_error (by simp_all [hindrance, hindrance.outside, Nat.add_assoc])
  | sprite next beyond => exact next.step_error (by simp_all [hindrance, hindrance.outside])

/-- A fault has the address of the instruction, unless it is a key that does not exist. -/
theorem Due.pc? (due : m.Due fault) :
    (∃ index, fault = .noKey index ∧ fault.pc? = none) ∨
      ((∀ index, fault ≠ .noKey index) ∧ fault.pc? = some m.pc) := by
  cases due with
  | noKey => exact .inl ⟨_, rfl, rfl⟩
  | _ => exact .inr ⟨fun _ => nofun, rfl⟩

theorem step_error_iff_due (depth : m.stack.length ≤ 16) :
    (m.step.result = .error fault ↔ m.Due fault) ∧
      (m.step.result = .error fault →
        (∃ index, fault = .noKey index ∧ fault.pc? = none) ∨
          ((∀ index, fault ≠ .noKey index) ∧ fault.pc? = some m.pc)) :=
  ⟨⟨step_due depth, Due.step_error⟩, fun h => (step_due depth h).pc?⟩

/-- A sprite without rows reads no cell, and still its index may not lie past memory. -/
theorem draw_no_rows_past_memory :
    let m := { powerOn ⟨[0xD1, 0x20], by decide⟩ {} (.cycle #[]) with index := 0x1001 }
    m.step.result = .error (.rangeOutside 0 0x1001 0x200) ∧
      (Fault.rangeOutside 0 0x1001 0x200).pc? = some 0x200 := by
  intro m
  have fetched : m.current = .draw 1 2 0 := by
    rw [current, word_of_loaded (by decide) rfl rfl]
    rfl
  have due : m.Due (.rangeOutside 0 0x1001 0x200) := .sprite ⟨rfl, by decide, fetched⟩ (by decide)
  obtain ⟨faults, address⟩ := step_error_iff_due (m := m) (Nat.zero_le _)
  rcases address (faults.2 due) with ⟨_, other, _⟩ | ⟨_, address⟩
  · cases other
  · exact ⟨faults.2 due, address⟩

/-! ## What a fault leaves behind -/

theorem step_fault_state (h : m.step.result = .error fault) :
    m.step.state =
      if m.isHalted = true ∨ 4094 < m.pc then { m with isHalted := true }
      else { m with isHalted := true, last := some m.current, pc := m.pc + 2 } := by
  have stepped := m.stepped
  generalize m.step = outcome at stepped h
  cases stepped with
  | refused halted => rw [if_pos (.inl halted), ← halted]
  | lost running outside => rw [if_pos (.inr outside)]; rfl
  | hindered running inside =>
    rw [if_neg (by simp only [running, Bool.false_eq_true, false_or]; omega)]
    rfl
  | done => cases h

theorem keyDown_fault_state {index : Int} (h : (m.keyDown index).result = .error fault) :
    (m.keyDown index).state = { m with isHalted := true } := by
  unfold keyDown at h ⊢
  split at h
  · cases h
  · simp_all [halt]

theorem keyUp_fault_state {index : Int} (h : (m.keyUp index).result = .error fault) :
    (m.keyUp index).state = { m with isHalted := true } := by
  unfold keyUp at h ⊢
  split at h
  · cases h
  · simp_all [halt]

theorem fault_leaves (m : Machine) :
    (∀ fault, m.step.result = .error fault →
      m.step.state =
        if m.isHalted = true ∨ 4094 < m.pc then { m with isHalted := true }
        else { m with isHalted := true, last := some m.current, pc := m.pc + 2 }) ∧
    (∀ index fault, (m.keyDown index).result = .error fault →
      (m.keyDown index).state = { m with isHalted := true }) ∧
    (∀ index fault, (m.keyUp index).result = .error fault →
      (m.keyUp index).state = { m with isHalted := true }) :=
  ⟨fun _ => step_fault_state, fun _ _ => keyDown_fault_state, fun _ _ => keyUp_fault_state⟩

/-- Where three digits do not fit, the first two are not written either. -/
theorem decimal_past_memory_leaves :
    let m := { powerOn ⟨[0xF1, 0x33], by decide⟩ {} (.cycle #[]) with index := 4094 }
    m.step.state = { m with isHalted := true, last := some (.decimal 1), pc := 0x202 } ∧
      (m.keyDown 16).state = { m with isHalted := true } ∧
      (m.keyUp (-1)).state = { m with isHalted := true } := by
  intro m
  have fetched : m.current = .decimal 1 := by
    rw [current, word_of_loaded (by decide) rfl rfl]
    rfl
  have due : m.Due (.rangeOutside 3 4094 0x200) := .decimal ⟨rfl, by decide, fetched⟩ (by decide)
  obtain ⟨step, down, up⟩ := fault_leaves m
  refine ⟨?_, down 16 (.noKey 16) rfl, up (-1) (.noKey (-1)) rfl⟩
  rw [step _ due.step_error, if_neg (by decide), fetched]
  rfl

end Chip8.Machine
