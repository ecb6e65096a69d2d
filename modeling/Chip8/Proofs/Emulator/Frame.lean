import Chip8.Proofs.Emulator.Run
import Chip8.Proofs.Grid.Drawing
import Chip8.Proofs.Machine.Footprint

/-! Frames. What a frame leaves of the machine can be told from its answer and from the
mark of the screen: the machine is halted by the frame just if the frame faults
(`runFrame_isHalted`), and the screen is as it was unless it is marked
(`runFrame_screen`). No frame presses or releases a key (`runFrame_pressed`). -/

namespace Chip8

namespace Machine

variable (m : Machine)

theorem step_isHalted :
    m.step.state.isHalted =
      match m.step.result with
      | .ok () => m.isHalted
      | .error _ => true := by
  have stepped := m.stepped
  generalize m.step = outcome at stepped
  cases stepped with
  | refused halted => exact halted
  | lost | hindered => rfl
  | done =>
    rw [effect_remember]
    have untouched (instruction : Instruction) : ¬ m.Touches instruction .halted := nofun
    exact effect_frame .halted (untouched m.current)

/-- Only clearing and drawing touch the screen, and both mark it. -/
theorem effect_screen {instruction : Instruction}
    (clean : (m.effect instruction).screen.dirty = false) :
    (m.effect instruction).screen = m.screen := by
  cases instruction with
  | clearScreen => cases clean
  | draw x y rows => exact m.screen.draw_eq_of_clean _ _ _ _ clean
  | _ => exact effect_frame .screen nofun

theorem step_screen (clean : m.step.state.screen.dirty = false) :
    m.step.state.screen = m.screen := by
  have stepped := m.stepped
  generalize m.step = outcome at stepped clean
  cases stepped with
  | refused | lost | hindered => rfl
  | done => exact effect_screen _ clean

theorem step_pressed : m.step.state.keypad.pressed = m.keypad.pressed := by
  apply Vector.ext
  intro i h
  have untouched (instruction : Instruction) : ¬ m.Touches instruction (.key ⟨i, h⟩) := nofun
  exact step_frame (.key ⟨i, h⟩) (untouched m.current) nofun

/-- The screen is as it once was, unless it is marked. -/
theorem followed_screen (screen : Screen) :
    Followed fun _ m => m.screen.dirty = false → m.screen = screen where
  step _ m h clean := by
    have same := m.step_screen clean
    rw [same] at clean ⊢
    exact h clean
  press _ _ _ h := h
  release _ _ _ h := h
  halt _ _ h := h
  tick _ _ h := h

theorem followed_isHalted : Followed fun _ m => m.isHalted = true where
  step _ m h := by
    rw [step_isHalted]
    split
    · exact h
    · rfl
  press _ _ _ h := h
  release _ _ _ h := h
  halt _ _ _ := rfl
  tick _ _ h := h

end Machine

namespace Emulator

variable (e : Emulator)

theorem runBatch_isHalted (displayWait : Bool) (budget done : Nat) (m : Machine)
    (notes : Array Note) :
    (runBatch displayWait budget done m notes).state.isHalted =
      match (runBatch displayWait budget done m notes).result with
      | .ok _ => m.isHalted
      | .error _ => true := by
  induction budget generalizing done m notes with
  | zero => rfl
  | succ budget ih =>
    have stepped := m.step_isHalted
    simp only [runBatch]
    cases result : m.step.result with
    | error => simpa [result] using stepped
    | ok =>
      rw [result] at stepped
      simp only
      split
      · exact stepped
      · rw [ih, stepped]

theorem runFrame_isHalted :
    e.runFrame.state.machine.isHalted =
      match e.runFrame.result with
      | .ok _ => e.machine.isHalted
      | .error _ => true := by
  have batch := runBatch_isHalted e.config.displayWait e.instructionsPerFrame.toNat 0 e.machine #[]
  simp only [runFrame]
  split <;> simp_all [Machine.tick]

theorem runFrame_screen (clean : e.runFrame.state.machine.screen.dirty = false) :
    e.runFrame.state.machine.screen = e.machine.screen :=
  (Machine.followed_screen e.machine.screen).runFrame [] (fun _ => rfl) clean

theorem runBatch_view {View : Type} (view : Machine → View)
    (step : ∀ m : Machine, view m.step.state = view m) (displayWait : Bool) (budget done : Nat)
    (m : Machine) (notes : Array Note) :
    view (runBatch displayWait budget done m notes).state = view m := by
  induction budget generalizing done m notes with
  | zero => rfl
  | succ budget ih =>
    simp only [runBatch]
    split
    · exact step m
    · split
      · exact step m
      · rw [ih, step]

/-- What no step and no tick changes is the same after a frame. -/
theorem runFrame_view {View : Type} (view : Machine → View)
    (step : ∀ m : Machine, view m.step.state = view m)
    (tick : ∀ m : Machine, view m.tick = view m) :
    view e.runFrame.state.machine = view e.machine := by
  simp only [runFrame]
  split
  · exact runBatch_view view step ..
  · rw [tick, runBatch_view view step]

theorem runFrame_pressed :
    e.runFrame.state.machine.keypad.pressed = e.machine.keypad.pressed :=
  e.runFrame_view (·.keypad.pressed) Machine.step_pressed fun _ => rfl

@[simp] theorem runFrame_config : e.runFrame.state.config = e.config := by
  simp only [runFrame]
  split <;> rfl

@[simp] theorem runFrame_speed : e.runFrame.state.speed = e.speed := by
  simp only [runFrame]
  split <;> rfl

theorem perform_config (command : Command) : (e.perform command).state.config = e.config := by
  cases command with
  | frame => exact e.runFrame_config
  | _ => rfl

theorem after_config (commands : List Command) : (e.after commands).config = e.config := by
  induction commands generalizing e with
  | nil => rfl
  | cons command rest ih => exact (ih _).trans (e.perform_config command)

/-- A halted machine stays halted as long as there is no reset. -/
theorem after_isHalted {commands : List Command} (halted : e.machine.isHalted = true)
    (calm : .reset ∉ commands) : (e.after commands).machine.isHalted = true :=
  @Machine.Followed.after _ e Machine.followed_isHalted [] halted commands calm

end Emulator

end Chip8
