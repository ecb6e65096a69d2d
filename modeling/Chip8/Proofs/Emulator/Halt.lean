import Chip8.Proofs.Emulator.Frame

/-! Halted machines. A halted machine refuses every step, and a frame that has steps to make
breaks off at the first. So all that still comes of it comes from outside: keys, a release for
a wait that is open, and ticks (`Stirs`). Everything else is frozen, whatever the emulator is
told and however often it faults, until it is reset (`halt_absorbs`). -/

namespace Chip8

namespace Emulator

/-- The command is a frame that has no steps to make. -/
def EmptyFrame (e : Emulator) (command : Command) : Prop :=
  command = .frame ∧ e.instructionsPerFrame ≤ 0

/-- What commands make of an emulator whose machine is halted. -/
inductive Stirs (e : Emulator) : Command → Emulator → Prop
  | step : Stirs e .step e
  | frame (busy : 0 < e.instructionsPerFrame) : Stirs e .frame e
  | emptyFrame (empty : e.instructionsPerFrame ≤ 0) :
    Stirs e .frame { e.tick with frames := e.frames + 1 }
  | press {index : Int} (key : Key) : Stirs e (.keyDown index) (e.press key)
  | release {index : Int} (key : Key) : Stirs e (.keyUp index) (e.release key)
  | noKey {index : Int} {command : Command}
      (named : command = .keyDown index ∨ command = .keyUp index) : Stirs e command e
  | tick : Stirs e .tick e.tick
  | setSpeed (speed : Int) : Stirs e (.setSpeed speed) (e.setSpeed speed)

/-- The wait is as it was, or it was open and has caught a release. -/
def WaitKept (before now : Wait) : Prop :=
  now = before ∨ before = .armed none ∧ ∃ key, now = .armed (some key)

/-- The emulator is halted, and all of it is as it was but for the keys, a release that is
caught, the timers, the speed and the number of frames. -/
structure Frozen (e now : Emulator) : Prop where
  halted : now.machine.isHalted = true
  same : now =
    { e with
      machine :=
        { e.machine with
          keypad := now.machine.keypad, delay := now.machine.delay, sound := now.machine.sound }
      speed := now.speed
      frames := now.frames }
  wait : WaitKept e.machine.keypad.wait now.machine.keypad.wait

variable {e now next : Emulator} {command : Command}

theorem WaitKept.trans {first second third : Wait} (one : WaitKept first second)
    (two : WaitKept second third) : WaitKept first third := by
  rcases one with rfl | ⟨opened, key, caught⟩
  · exact two
  · rcases two with rfl | ⟨again, -⟩
    · exact .inr ⟨opened, key, caught⟩
    · rw [caught] at again
      cases again

theorem waitKept_release (pad : Keypad) (key : Key) : WaitKept pad.wait (pad.release key).wait := by
  rw [Keypad.release]
  rcases wait : pad.wait with _ | _ | _
  · exact .inl rfl
  · exact .inr ⟨rfl, key, rfl⟩
  · exact .inl rfl

theorem Frozen.refl (halted : e.machine.isHalted = true) : Frozen e e := ⟨halted, rfl, .inl rfl⟩

theorem Frozen.trans (first : Frozen e now) (second : Frozen now next) : Frozen e next := by
  refine ⟨second.halted, ?_, first.wait.trans second.wait⟩
  rw [second.same, first.same]

/-! ## One command -/

theorem perform_step_of_halted (halted : e.machine.isHalted = true) :
    e.perform .step = { state := e, result := .error (.halted e.machine.pc) } := by
  rw [perform, step, Machine.step_of_halted halted]
  rfl

theorem perform_frame_of_halted (halted : e.machine.isHalted = true)
    (busy : 0 < e.instructionsPerFrame) :
    e.perform .frame = { state := e, result := .error (.halted e.machine.pc) } := by
  obtain ⟨budget, steps⟩ : ∃ budget, e.instructionsPerFrame.toNat = budget + 1 :=
    ⟨e.instructionsPerFrame.toNat - 1, by omega⟩
  rw [perform, runFrame, steps, runBatch, Machine.step_of_halted halted]
  rfl

theorem runFrame_of_empty (empty : e.instructionsPerFrame ≤ 0) :
    e.runFrame.state = { e.tick with frames := e.frames + 1 } := by
  have steps : e.instructionsPerFrame.toNat = 0 := Int.toNat_of_nonpos empty
  rw [runFrame, steps, runBatch]
  rfl

/-- To halt a halted machine once more changes nothing. -/
theorem halt_again (halted : e.machine.isHalted = true) :
    { e with machine := { e.machine with isHalted := true } } = e := by
  rw [← halted]

theorem perform_stirs (halted : e.machine.isHalted = true) (calm : command ≠ .reset) :
    Stirs e command (e.perform command).state := by
  cases command with
  | step => exact perform_step_of_halted halted ▸ .step
  | frame =>
    by_cases busy : 0 < e.instructionsPerFrame
    · exact perform_frame_of_halted halted busy ▸ .frame busy
    · have empty : e.instructionsPerFrame ≤ 0 := Int.not_lt.mp busy
      have ended : (e.perform .frame).state = _ := runFrame_of_empty empty
      exact ended ▸ .emptyFrame empty
  | keyDown index =>
    have told : (e.perform (.keyDown index)).state = { e with machine := _ } :=
      congrArg (fun machine => { e with machine }) (e.machine.keyDown_state index)
    rw [told]
    cases Key.ofInt? index with
    | some key => exact .press key
    | none => exact (halt_again halted).symm ▸ .noKey (.inl rfl)
  | keyUp index =>
    have told : (e.perform (.keyUp index)).state = { e with machine := _ } :=
      congrArg (fun machine => { e with machine }) (e.machine.keyUp_state index)
    rw [told]
    cases Key.ofInt? index with
    | some key => exact .release key
    | none => exact (halt_again halted).symm ▸ .noKey (.inr rfl)
  | tick => exact .tick
  | setSpeed speed => exact .setSpeed speed
  | reset => exact absurd rfl calm

theorem Stirs.frozen (stirs : Stirs e command next) (halted : e.machine.isHalted = true) :
    Frozen e next := by
  cases stirs with
  | step | frame | noKey => exact .refl halted
  | release key => exact ⟨halted, rfl, waitKept_release e.machine.keypad key⟩
  | emptyFrame | press | tick | setSpeed => exact ⟨halted, rfl, .inl rfl⟩

/-- The timers run down by ticks and empty frames only. -/
theorem Stirs.timers (stirs : Stirs e command next) (full : ¬ e.EmptyFrame command)
    (outside : command ≠ .tick) :
    next.machine.delay = e.machine.delay ∧ next.machine.sound = e.machine.sound := by
  cases stirs with
  | emptyFrame empty => exact absurd ⟨rfl, empty⟩ full
  | tick => exact absurd rfl outside
  | step | frame | press | release | noKey | setSpeed => exact ⟨rfl, rfl⟩

/-- Of frames only the empty ones count. -/
theorem Stirs.frames (stirs : Stirs e command next) (full : ¬ e.EmptyFrame command) :
    next.frames = e.frames := by
  cases stirs with
  | emptyFrame empty => exact absurd ⟨rfl, empty⟩ full
  | step | frame | press | release | noKey | tick | setSpeed => rfl

/-! ## Whole runs -/

theorem after_frozen (halted : e.machine.isHalted = true) {commands : List Command}
    (calm : .reset ∉ commands) : Frozen e (e.after commands) := by
  induction commands generalizing e with
  | nil => exact .refl halted
  | cons command rest ih =>
    rw [List.mem_cons, not_or] at calm
    have first := (perform_stirs halted (Ne.symm calm.1)).frozen halted
    exact first.trans (ih first.halted calm.2)

/-- From a halted machine on, whatever comes but a reset. -/
theorem halt_absorbs (e : Emulator) (halted : e.machine.isHalted = true) (commands : List Command)
    (calm : .reset ∉ commands) :
    let now := e.after commands
    Frozen e now ∧
    now.perform .step = { state := now, result := .error (.halted now.machine.pc) } ∧
    (0 < now.instructionsPerFrame →
      now.perform .frame = { state := now, result := .error (.halted now.machine.pc) }) ∧
    (∀ command, command ≠ .reset → ¬ now.EmptyFrame command →
      let next := (now.perform command).state
      (command ≠ .tick →
        next.machine.delay = now.machine.delay ∧ next.machine.sound = now.machine.sound) ∧
      next.frames = now.frames) ∧
    (now.perform .reset).state.machine.isHalted = false := by
  intro now
  have frozen : Frozen e now := after_frozen halted calm
  have stuck := frozen.halted
  refine ⟨frozen, perform_step_of_halted stuck, perform_frame_of_halted stuck, ?_, rfl⟩
  intro command unreset full
  have stirs := perform_stirs stuck unreset
  exact ⟨stirs.timers full, stirs.frames full⟩

/-- A key that does not exist halts the machine in the middle of a wait. The wait still catches
a release, and empty frames are counted, but the next step is refused where the machine stands. -/
theorem halt_absorbs_during_wait :
    let e := (start ⟨[0xF1, 0x0A], by decide⟩ .standard (.cycle #[])).after [.step, .keyDown 16]
    let commands := [.keyUp 3, .keyUp (-1), .keyUp 5, .tick, .setSpeed 0, .frame, .setSpeed 2]
    let now := e.after commands
    Frozen e now ∧ now.machine.keypad.caught? = some 3 ∧ now.frames = 1 ∧
      now.perform .frame = { state := now, result := .error (.halted 0x200) } ∧
        (now.perform .reset).state.machine.isHalted = false := by
  intro e commands now
  have halted : e.machine.isHalted = true := by decide +kernel
  obtain ⟨frozen, -, refused, -, running⟩ := halt_absorbs e halted commands (by decide)
  have place : now.machine.pc = 0x200 := by decide +kernel
  have broken := refused (by decide +kernel)
  rw [place] at broken
  exact ⟨frozen, by decide +kernel, by decide +kernel, broken, running⟩

end Emulator

end Chip8
