import Chip8.Proofs.Emulator.Run
import Chip8.Proofs.Grid.Drawing
import Chip8.Proofs.Machine.Footprint

/-! The mark of the screen. Nothing that an emulator does reads the mark, it only goes up with
every change of the screen and comes down with a reset. So whoever takes it down in between does
not disturb a run: emulators that are alike but for the mark answer alike and stay alike
(`Alike.perform`). -/

namespace Chip8

namespace Machine

variable {m : Machine}

def marked (m : Machine) : Machine := { m with screen := m.screen.mark }

theorem skip_marked (condition : Bool) : m.marked.skip condition = (m.skip condition).marked := by
  cases condition <;> rfl

theorem effect_marked (instruction : Instruction) :
    m.marked.effect instruction = (m.effect instruction).marked := by
  cases instruction with
  | draw x y rows =>
    exact congrArg (fun drawn : Screen × Bool =>
      { m.advance with
        screen := drawn.1
        registers := m.registers.write flagRegister (if drawn.2 then 1 else 0) })
      (m.screen.draw_mark _ _ _ _)
  | skipIfByte | skipUnlessByte | skipIfEqual | skipUnlessEqual | skipIfPressed
  | skipUnlessPressed => exact skip_marked _
  | awaitRelease =>
    rw [effect_awaitRelease, effect_awaitRelease]
    rfl
  | _ => rfl

theorem marked_unseen : Unseen marked where
  isHalted _ := rfl
  pc _ := rfl
  word _ := rfl
  remarks _ := rfl
  hindrance _ instruction := by cases instruction <;> rfl
  halt _ := rfl
  remember _ _ := rfl
  advance _ := rfl

theorem step_marked : m.marked.step = m.step.mapState marked :=
  marked_unseen.step fun _ => effect_marked _

end Machine

namespace Emulator

variable {e w : Emulator}

def marked (e : Emulator) : Emulator := { e with machine := e.machine.marked }

/-- The emulator with the mark of its screen taken down. -/
def cleaned (e : Emulator) : Emulator :=
  { e with machine := { e.machine with screen := e.machine.screen.clean } }

theorem cleaned_eq_self (clean : e.machine.screen.dirty = false) : e.cleaned = e := by
  have same : e.machine.screen.clean = e.machine.screen := by rw [Grid.clean, ← clean]
  rw [cleaned, same]

/-- The same emulator, but for the mark of its screen. -/
def Alike (e w : Emulator) : Prop := e.marked = w.marked

theorem runFrame_marked : e.marked.runFrame = e.runFrame.mapState marked := by
  have batch : runBatch e.marked.config.displayWait e.marked.instructionsPerFrame.toNat 0
      e.marked.machine #[] = _ :=
    runBatch_map (f := Machine.marked) (fun _ => rfl) e.config.displayWait
      e.instructionsPerFrame.toNat 0 #[] fun _ _ => Machine.step_marked
  simp only [runFrame, batch, Outcome.mapState]
  split <;> rfl

theorem perform_marked {command : Command} (calm : command ≠ .reset) :
    e.marked.perform command = (e.perform command).mapState marked := by
  cases command with
  | step =>
    exact congrArg (fun o => perform.withoutAnswer (e.marked.lift o)) Machine.step_marked
  | frame =>
    simp only [perform, runFrame_marked]
    rfl
  | keyDown index =>
    simp only [perform, keyDown, Machine.keyDown]
    split <;> rfl
  | keyUp index =>
    simp only [perform, keyUp, Machine.keyUp]
    split <;> rfl
  | tick | setSpeed => rfl
  | reset => exact absurd rfl calm

namespace Alike

theorem refl (e : Emulator) : Alike e e := rfl

theorem trans {u : Emulator} (first : Alike e w) (second : Alike w u) : Alike e u :=
  Eq.trans first second

theorem marked_eq (h : Alike e w) : e.marked = w.marked := h

/-- What differs in the mark alone is the same in all else. -/
theorem cleaned_eq (h : Alike e w) : e.cleaned = w.cleaned := by
  have same := congrArg cleaned h.marked_eq
  exact same

theorem config_eq (h : Alike e w) : e.config = w.config := congrArg (·.config) h.marked_eq

theorem isHalted_eq (h : Alike e w) : e.machine.isHalted = w.machine.isHalted :=
  congrArg (·.machine.isHalted) h.marked_eq

theorem perform (h : Alike e w) (command : Command) :
    Alike (e.perform command).state (w.perform command).state ∧
      (e.perform command).result = (w.perform command).result := by
  by_cases reset : command = .reset
  · -- A reset starts from the program anew, whatever the screen was like.
    subst reset
    have same := congrArg (Emulator.marked ∘ Emulator.reset) h.marked_eq
    exact ⟨same, rfl⟩
  · have both := congrArg (Emulator.perform · command) h.marked_eq
    simp only [perform_marked reset] at both
    have states := congrArg Outcome.state both
    have results := congrArg Outcome.result both
    exact ⟨states, results⟩

theorem after (h : Alike e w) (commands : List Command) :
    Alike (e.after commands) (w.after commands) := by
  induction commands generalizing e w with
  | nil => exact h
  | cons command rest ih => exact ih (h.perform command).1

theorem faults_eq (h : Alike e w) (commands : List Command) :
    e.faults commands = w.faults commands := by
  induction commands generalizing e w with
  | nil => rfl
  | cons command rest ih =>
    have performed := h.perform command
    have rest := ih performed.1
    simp only [faults, outcomes, List.filterMap_cons, performed.2] at rest ⊢
    rw [rest]

end Alike

end Emulator

end Chip8
