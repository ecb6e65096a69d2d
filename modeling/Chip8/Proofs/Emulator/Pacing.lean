import Mathlib.Logic.Function.Iterate
import Mathlib.Order.Bounds.Defs
import Chip8.Proofs.Emulator.Run
import Chip8.Proofs.Machine.Footprint

/-! Pacing. A frame makes the same steps as a program that is told to step time and again. It
leaves off at the first moment at which it has made all the steps that it has to make, or has
drawn a sprite to wait for, or can make no further step. Then it ticks, unless the next step
faults (`runFrame_refines_steps`). -/

namespace Chip8

namespace Machine

variable {m : Machine}

/-- The machine after a number of steps, whether they fault or not. -/
def walk (m : Machine) (steps : Nat) : Machine := (fun m => m.step.state)^[steps] m

/-- A batch has made all its steps, or the last one has drawn a sprite that ends it. -/
def Full (displayWait : Bool) (budget : Nat) (m : Machine) (steps : Nat) : Prop :=
  budget ≤ steps ∨
    displayWait = true ∧ ∃ before, steps = before + 1 ∧ (m.walk before).current.isDraw = true

/-- A batch goes no further. -/
def Ends (displayWait : Bool) (budget : Nat) (m : Machine) (steps : Nat) : Prop :=
  Full displayWait budget m steps ∨ ∃ fault, (m.walk steps).step.result = .error fault

theorem step_last (done : m.step.result = .ok ()) : m.step.state.last = some m.current := by
  have stepped := m.stepped
  generalize m.step = outcome at stepped done
  cases stepped with
  | refused | lost | hindered => cases done
  | done =>
    rw [effect_remember]
    rfl

theorem isDraw_iff (instruction : Instruction) :
    instruction.isDraw = true ↔ ∃ x y rows, instruction = .draw x y rows := by
  cases instruction with
  | draw x y rows => exact iff_of_true rfl ⟨x, y, rows, rfl⟩
  | _ => simp [Instruction.isDraw]

variable {displayWait : Bool} {budget steps : Nat}

theorem not_full_zero : ¬ Full displayWait (budget + 1) m 0 := by
  rintro (full | ⟨-, before, none, -⟩)
  · omega
  · cases none

/-- Behind a step that does not end a batch, there is a batch with a step less to make. -/
theorem full_succ_iff (goesOn : ¬ (displayWait = true ∧ m.current.isDraw = true)) :
    Full displayWait (budget + 1) m (steps + 1) ↔ Full displayWait budget m.step.state steps := by
  constructor
  · rintro (full | ⟨waits, before, same, drawn⟩)
    · exact .inl (Nat.le_of_succ_le_succ full)
    · obtain rfl : steps = before := Nat.succ_inj.mp same
      cases steps with
      | zero => exact absurd ⟨waits, drawn⟩ goesOn
      | succ before => exact .inr ⟨waits, before, rfl, drawn⟩
  · rintro (full | ⟨waits, before, rfl, drawn⟩)
    · exact .inl (Nat.succ_le_succ full)
    · exact .inr ⟨waits, before + 1, rfl, drawn⟩

theorem isLeast_ends_zero (ends : Ends displayWait budget m 0) :
    IsLeast {steps | Ends displayWait budget m steps} 0 :=
  ⟨ends, fun _ _ => Nat.zero_le _⟩

/-- A batch that goes on after its first step ends one step later than the rest of it. -/
theorem isLeast_ends_succ (begun : ¬ Ends displayWait (budget + 1) m 0)
    (goesOn : ¬ (displayWait = true ∧ m.current.isDraw = true))
    (least : IsLeast {steps | Ends displayWait budget m.step.state steps} steps) :
    IsLeast {steps | Ends displayWait (budget + 1) m steps} (steps + 1) := by
  have shift (steps : Nat) : Ends displayWait (budget + 1) m (steps + 1) ↔
      Ends displayWait budget m.step.state steps := or_congr (full_succ_iff goesOn) Iff.rfl
  refine ⟨(shift steps).mpr least.1, fun other ends => ?_⟩
  cases other with
  | zero => exact absurd ends begun
  | succ other => exact Nat.succ_le_succ (least.2 ((shift other).mp ends))

end Machine

namespace Emulator

open Machine

/-- A batch comes to what its steps come to, up to the first moment at which it ends. -/
theorem runBatch_eq_walk (displayWait : Bool) (budget done : Nat) (m : Machine)
    (notes : Array Note) :
    ∃ steps, IsLeast {steps | Ends displayWait budget m steps} steps ∧
      let batch := runBatch displayWait budget done m notes
      (Full displayWait budget m steps →
        batch.result = .ok (done + steps) ∧ batch.state = m.walk steps) ∧
      (¬ Full displayWait budget m steps →
        ∃ fault, (m.walk steps).step.result = .error fault ∧ batch.result = .error fault ∧
          batch.state = (m.walk steps).step.state) := by
  induction budget generalizing done m notes with
  | zero =>
    have full : Full displayWait 0 m 0 := .inl (Nat.le_refl 0)
    exact ⟨0, isLeast_ends_zero (.inl full), fun _ => ⟨rfl, rfl⟩, absurd full⟩
  | succ budget ih =>
    cases result : m.step.result with
    | error fault =>
      have ends : Ends displayWait (budget + 1) m 0 := .inr ⟨fault, result⟩
      simp only [runBatch, result]
      refine ⟨0, isLeast_ends_zero ends, fun full => absurd full not_full_zero, fun _ => ?_⟩
      exact ⟨fault, result, rfl, rfl⟩
    | ok =>
      have begun : ¬ Ends displayWait (budget + 1) m 0 := by
        rintro (full | ⟨fault, error⟩)
        · exact not_full_zero full
        · cases result.symm.trans error
      have last := step_last result
      simp only [runBatch, result, last, Option.any_some]
      by_cases drawn : displayWait = true ∧ m.current.isDraw = true
      · have full : Full displayWait (budget + 1) m 1 := .inr ⟨drawn.1, 0, rfl, drawn.2⟩
        refine ⟨1, ⟨.inl full, fun other ends => ?_⟩, fun _ => ?_, absurd full⟩
        · exact Nat.pos_of_ne_zero fun zero => begun (zero ▸ ends)
        · rw [if_pos (by simp [drawn])]
          exact ⟨rfl, rfl⟩
      · obtain ⟨steps, least, whole, broken⟩ := ih (done + 1) m.step.state (notes ++ m.step.notes)
        rw [if_neg (by simpa using drawn)]
        refine ⟨steps + 1, isLeast_ends_succ begun drawn least, fun full => ?_, fun rest => ?_⟩
        · obtain ⟨result, state⟩ := whole ((full_succ_iff drawn).mp full)
          rw [Nat.add_assoc, Nat.add_comm 1] at result
          exact ⟨result, state⟩
        · exact broken (mt (full_succ_iff drawn).mpr rest)

/-! ## Frames -/

/-- The emulator that has been told to step a number of times. -/
def stepped (e : Emulator) (steps : Nat) : Emulator := e.after (List.replicate steps .step)

/-- A frame has made all its steps, or the last one has drawn a sprite that is waited for. -/
def FrameFull (e : Emulator) (steps : Nat) : Prop :=
  (e.config.ipf : Int) * e.speed ≤ steps ∨
    e.config.displayWait = true ∧
      ∃ before, steps = before + 1 ∧
        ∃ x y rows, (e.stepped before).machine.current = .draw x y rows

/-- A frame makes no further step, or it tries to and faults. -/
def FrameEnds (e : Emulator) (steps : Nat) : Prop :=
  e.FrameFull steps ∨ ∃ fault, (e.stepped steps).step.result = .error fault

variable (e : Emulator)

theorem stepped_eq (steps : Nat) :
    e.stepped steps = { e with machine := e.machine.walk steps } := by
  induction steps generalizing e with
  | zero => rfl
  | succ steps ih => exact ih e.step.state

theorem frameFull_iff (steps : Nat) :
    e.FrameFull steps ↔
      Full e.config.displayWait e.instructionsPerFrame.toNat e.machine steps := by
  simp only [FrameFull, Full, stepped_eq, instructionsPerFrame, Int.toNat_le, isDraw_iff]

theorem frameEnds_iff (steps : Nat) :
    e.FrameEnds steps ↔
      Ends e.config.displayWait e.instructionsPerFrame.toNat e.machine steps := by
  rw [FrameEnds, Ends, frameFull_iff, stepped_eq]
  rfl

/-- A frame ends after the fewest steps after which it can end. -/
theorem runFrame_refines_steps :
    ∃ steps : Nat, IsLeast {steps | e.FrameEnds steps} steps ∧
      (e.FrameFull steps →
        e.runFrame.result = .ok steps ∧
        e.runFrame.state = { (e.stepped steps).tick with frames := e.frames + 1 }) ∧
      (¬ e.FrameFull steps → ∃ fault,
        (e.stepped steps).step.result = .error fault ∧
        e.runFrame.result = .error fault ∧
        e.runFrame.state = (e.stepped steps).step.state ∧
        e.runFrame.state.frames = e.frames) ∧
      (e.config.displayWait = true → ∀ before < steps, ∀ x y rows,
        (e.stepped before).machine.current = .draw x y rows → before + 1 = steps) := by
  obtain ⟨steps, least, whole, broken⟩ :=
    runBatch_eq_walk e.config.displayWait e.instructionsPerFrame.toNat 0 e.machine #[]
  have ends : IsLeast {steps | e.FrameEnds steps} steps := by simpa only [frameEnds_iff] using least
  rw [← frameFull_iff] at whole broken
  refine ⟨steps, ends, fun full => ?_, fun rest => ?_, fun waits before early x y rows drawn => ?_⟩
  · obtain ⟨result, state⟩ := whole full
    rw [Nat.zero_add] at result
    rw [stepped_eq]
    simp only [runFrame, result, state]
    exact ⟨trivial, rfl⟩
  · obtain ⟨fault, error, result, state⟩ := broken rest
    rw [stepped_eq]
    simp only [runFrame, result, state]
    exact ⟨fault, error, rfl, rfl, trivial⟩
  · have full : e.FrameFull (before + 1) := .inr ⟨waits, before, rfl, x, y, rows, drawn⟩
    exact Nat.le_antisymm early (ends.2 (.inl full))

end Emulator

end Chip8
