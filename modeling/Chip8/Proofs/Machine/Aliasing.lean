import Mathlib.Logic.Function.Basic
import Chip8.Proofs.Machine.Footprint

/-! Aliasing. An operation between two registers may name one register twice, and it may name
the flag register, which it writes besides. It works in place, and yet what it writes can be
reckoned from the numbers that both registers had before (`Operation.reckon`): first the result
goes to `Vx`, then the flag to its register, over the result where that is the same register
(`execute_combine_reckoned`). -/

namespace Chip8

/-- What an operation on two numbers comes to: the result, and the flag if one is written. -/
def Operation.reckon (dialect : Dialect) (operation : Operation) (a b : Nat) : Int × Option Nat :=
  let cleared := if dialect.resetFlag then some 0 else none
  let source := if dialect.shiftSource then b else a
  match operation with
  | copy => (b, none)
  | or => ((a ||| b : Nat), cleared)
  | and => ((a &&& b : Nat), cleared)
  | xor => ((a ^^^ b : Nat), cleared)
  | add => ((a + b) % 256, some (if 256 ≤ a + b then 1 else 0))
  | subtract => (((a : Int) - b) % 256, some (if b ≤ a then 1 else 0))
  | subtractFrom => (((b : Int) - a) % 256, some (if a ≤ b then 1 else 0))
  | shiftRight => (source / 2, some (source % 2))
  | shiftLeft => (2 * source % 256, some (if 128 ≤ source then 1 else 0))

theorem toNat_sub_eq_emod (a b : UInt8) :
    ((a - b).toNat : Int) = ((a.toNat : Int) - b.toNat) % 256 := by
  have bound := b.toNat_lt
  rw [UInt8.toNat_sub]
  omega

theorem Operation.evaluate_result (dialect : Dialect) (operation : Operation) (a b : UInt8) :
    ((operation.evaluate dialect a b).1.toNat : Int) =
      (operation.reckon dialect a.toNat b.toNat).1 := by
  cases operation with
  | copy => rfl
  | or | and | xor | add => simp [evaluate, reckon]
  | subtract => exact toNat_sub_eq_emod a b
  | subtractFrom => exact toNat_sub_eq_emod b a
  | shiftRight =>
    simp only [evaluate, reckon]
    cases dialect.shiftSource <;> simp [Nat.shiftRight_eq_div_pow]
  | shiftLeft =>
    simp only [evaluate, reckon]
    cases dialect.shiftSource <;> simp [Nat.shiftLeft_eq, Nat.mul_comm]

theorem Operation.evaluate_flag (dialect : Dialect) (operation : Operation) (a b : UInt8) :
    (operation.evaluate dialect a b).2.map UInt8.toNat =
      (operation.reckon dialect a.toNat b.toNat).2 := by
  have top (byte : UInt8) : (byte >>> 7).toNat = if 128 ≤ byte.toNat then 1 else 0 := by
    have bound := byte.toNat_lt
    rw [Machine.toNat_shiftRight_seven]
    split <;> omega
  cases operation with
  | copy => rfl
  | or | and | xor =>
    simp only [evaluate, reckon]
    cases dialect.resetFlag <;> rfl
  | add | subtract | subtractFrom =>
    simp only [evaluate, reckon, UInt8.le_iff_toNat_le]
    split <;> rfl
  | shiftRight =>
    simp only [evaluate, reckon]
    cases dialect.shiftSource <;> simp
  | shiftLeft =>
    simp only [evaluate, reckon]
    cases dialect.shiftSource <;> simp [top]

namespace Registers

/-- The numbers that the registers hold. -/
def numbers (v : Registers) (k : Register) : Int := (v.read k).toNat

theorem numbers_write (v : Registers) (x : Register) (byte : UInt8) :
    (v.write x byte).numbers = Function.update v.numbers x (byte.toNat : Int) := by
  funext k
  by_cases here : k = x
  · subst here
    rw [numbers, read_write_self, Function.update_self]
  · rw [numbers, read_write_of_ne v byte here, Function.update_of_ne here]
    rfl

/-- The numbers once a result has been written to `Vx` and then the flag, if there is one, to the
flag register. -/
def writeBack (numbers : Register → Int) (x : Register) (reckoned : Int × Option Nat) :
    Register → Int :=
  let first := Function.update numbers x reckoned.1
  match reckoned.2 with
  | some flag => Function.update first flagRegister flag
  | none => first

theorem numbers_combine (v : Registers) (dialect : Dialect) (operation : Operation)
    (x y : Register) :
    (v.combine dialect operation x y).numbers =
      writeBack v.numbers x (operation.reckon dialect (v.read x).toNat (v.read y).toNat) := by
  unfold writeBack combine
  rw [← Operation.evaluate_result, ← Operation.evaluate_flag]
  rcases operation.evaluate dialect (v.read x) (v.read y) with ⟨value, _ | flag⟩
  · exact numbers_write v x value
  · show ((v.write x value).write flagRegister flag).numbers = _
    rw [numbers_write, numbers_write]
    rfl

theorem writeBack_flagRegister {numbers : Register → Int} {x : Register}
    {reckoned : Int × Option Nat} {flag : Nat} (written : reckoned.2 = some flag) :
    writeBack numbers x reckoned flagRegister = flag := by
  unfold writeBack
  rw [written]
  exact Function.update_self ..

end Registers

namespace Machine

theorem step_combine {m : Machine} {operation : Operation} {x y : Register}
    (next : m.AboutTo (.combine operation x y)) :
    m.step.result = .ok () ∧
      m.step.state.registers = m.registers.combine m.dialect operation x y := by
  have free : m.hindrance m.current = none := by
    rw [next.fetched]
    rfl
  rw [step_of_free next.running (Nat.lt_succ_of_le next.inside) free, next.fetched]
  exact ⟨rfl, rfl⟩

/-- However its registers coincide, an operation leaves what can be reckoned from their numbers
before it: the result in `Vx`, then the flag, if it writes one, in the flag register, and all
else as it was. -/
theorem execute_combine_reckoned (m : Machine) (operation : Operation) (x y : Register) :
    let reckoned :=
      operation.reckon m.dialect (m.registers.read x).toNat (m.registers.read y).toNat
    ∃ registers : Registers,
      (execute (.combine operation x y)).run m = .ok () { m.advance with registers } ∧
      (m.AboutTo (.combine operation x y) →
        m.step.result = .ok () ∧ m.step.state.registers = registers) ∧
      registers.numbers = Registers.writeBack m.registers.numbers x reckoned ∧
      (∀ flag, reckoned.2 = some flag → registers.numbers flagRegister = flag) ∧
      ∀ k, k ≠ x → k ≠ flagRegister → registers.read k = m.registers.read k := by
  intro reckoned
  have numbers := m.registers.numbers_combine m.dialect operation x y
  refine ⟨m.registers.combine m.dialect operation x y, ?_, step_combine, numbers, ?_, ?_⟩
  · rw [run_execute]
    rfl
  · intro flag written
    rw [numbers]
    exact Registers.writeBack_flagRegister written
  · intro k apart unflagged
    exact m.registers.read_combine_of_ne _ _ _ _ apart fun same => absurd same unflagged

/-- The sum of the flag register and another one is lost to the flag that says that it is too
large. -/
theorem combine_flag_register_reckoned :
    let m := { powerOn ⟨[0x8F, 0x54], by decide⟩ {} (.cycle #[]) with
      registers := Registers.write (Registers.write (Vector.replicate 16 0) 5 200) 15 100 }
    m.AboutTo (.combine .add 15 5) ∧ m.step.result = .ok () ∧
      m.step.state.registers.numbers 15 = 1 ∧ m.step.state.registers.read 5 = 200 := by
  intro m
  have fetched : m.current = .combine .add 15 5 := by
    rw [current, word_of_loaded (by decide) rfl rfl]
    rfl
  have next : m.AboutTo (.combine .add 15 5) := ⟨rfl, by decide, fetched⟩
  obtain ⟨registers, -, stepped, -, flagged, others⟩ := execute_combine_reckoned m .add 15 5
  obtain ⟨done, left⟩ := stepped next
  rw [left]
  exact ⟨next, done, flagged 1 (by decide), others 5 (by decide) (by decide)⟩

end Machine

end Chip8
