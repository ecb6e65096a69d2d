import Mathlib.Data.List.DropRight
import Chip8.Proofs.Emulator.Run
import Chip8.Proofs.Machine.Footprint

/-! Timers. A timer counts the ticks off the value that was written to it last. So where it
stands can be told from the history of the run alone, which is now not only its steps but also
its ticks and resets, in order (`Emulator.moments`). A frame adds a tick to it after its steps,
unless it faults. The history tells where the timers stand after the run and in each state in
which it takes a step, in the middle of a frame too (`timers_of_history`). -/

namespace Chip8

inductive Timer
  | delay
  | sound
deriving DecidableEq, Repr

/-- What concerns the timers in a run. A step is given by the state in which it is taken. -/
inductive Moment
  | step (m : Machine)
  | tick
  | reset

namespace Timer

def value : Timer → Machine → UInt8
  | delay, m => m.delay
  | sound, m => m.sound

/-- The register that an instruction copies to the timer. -/
def source? : Timer → Instruction → Option Register
  | delay, .setDelay x | sound, .setSound x => some x
  | _, _ => none

/-- What the step of a machine writes to the timer. -/
def written? (timer : Timer) (m : Machine) : Option UInt8 :=
  match m.step.result with
  | .ok () => (timer.source? m.current).map m.registers.read
  | .error _ => none

end Timer

namespace Moment

def written? (timer : Timer) : Moment → Option UInt8
  | step m => timer.written? m
  | tick | reset => none

def isTick : Moment → Bool
  | tick => true
  | step _ | reset => false

def isReset : Moment → Bool
  | reset => true
  | step _ | tick => false

end Moment

namespace Timer

/-- What happened since the last reset. -/
def sinceReset (history : List Moment) : List Moment :=
  history.rtakeWhile fun moment => !moment.isReset

/-- What was written to the timer last since the last reset. -/
def lastWritten (timer : Timer) (history : List Moment) : UInt8 :=
  ((sinceReset history).filterMap (Moment.written? timer)).getLast?.getD 0

/-- The number of ticks since that. -/
def ticksSince (timer : Timer) (history : List Moment) : Nat :=
  ((sinceReset history).rtakeWhile fun moment => (moment.written? timer).isNone).countP
    Moment.isTick

/-- Where the timer stands according to a history. -/
def countdown (timer : Timer) (history : List Moment) : Nat :=
  (timer.lastWritten history).toNat - timer.ticksSince history

end Timer

namespace Emulator

/-- A frame ticks when its steps are done, unless it has faulted. -/
def momentsOf (e : Emulator) : Command → List Moment
  | .step => [.step e.machine]
  | .frame =>
    (e.stepsOf .frame).map .step ++
      match e.runFrame.result with
      | .ok _ => [.tick]
      | .error _ => []
  | .tick => [.tick]
  | .reset => [.reset]
  | .keyDown _ | .keyUp _ | .setSpeed _ => []

/-- The history of a list of commands, as far as timers are concerned. -/
def moments (e : Emulator) : List Command → List Moment
  | [] => []
  | command :: rest => e.momentsOf command ++ (e.perform command).state.moments rest

theorem moments_append (e : Emulator) (commands more : List Command) :
    e.moments (commands ++ more) = e.moments commands ++ (e.after commands).moments more := by
  induction commands generalizing e with
  | nil => rfl
  | cons command rest ih => simp [moments, ih]

end Emulator

namespace Timer

variable (timer : Timer) {past : List Moment} {m : Machine}

/-! ## One moment more -/

theorem countdown_step (past : List Moment) (m : Machine) :
    timer.countdown (past ++ [.step m]) =
      match timer.written? m with
      | some byte => byte.toNat
      | none => timer.countdown past := by
  cases written : timer.written? m <;>
    simp [countdown, lastWritten, ticksSince, sinceReset, List.filterMap_append, Moment.isReset,
      Moment.isTick, Moment.written?, written]

theorem countdown_tick (past : List Moment) :
    timer.countdown (past ++ [.tick]) = timer.countdown past - 1 := by
  simp [countdown, lastWritten, ticksSince, sinceReset, List.filterMap_append, Moment.isReset,
    Moment.isTick, Moment.written?, Nat.sub_sub]

theorem countdown_reset (past : List Moment) : timer.countdown (past ++ [.reset]) = 0 := by
  simp [countdown, lastWritten, ticksSince, sinceReset, Moment.isReset]

/-! ## Machines -/

theorem value_effect (m : Machine) (instruction : Instruction) :
    timer.value (m.effect instruction) =
      ((timer.source? instruction).map m.registers.read).getD (timer.value m) := by
  cases timer with
  | delay =>
    cases instruction with
    | setDelay => rfl
    | _ => exact Machine.effect_frame .delay nofun
  | sound =>
    cases instruction with
    | setSound => rfl
    | _ => exact Machine.effect_frame .sound nofun

theorem value_step (m : Machine) :
    timer.value m.step.state = (timer.written? m).getD (timer.value m) := by
  have stepped := m.stepped
  rw [written?]
  generalize m.step = outcome at stepped
  cases stepped with
  | refused | lost | hindered => cases timer <;> rfl
  | done =>
    rw [Machine.effect_remember, ← value_effect]
    cases timer <;> rfl

theorem value_tick (m : Machine) : (timer.value m.tick).toNat = (timer.value m).toNat - 1 := by
  have counted (byte : UInt8) : (if byte = 0 then 0 else byte - 1).toNat = byte.toNat - 1 := by
    split
    · next zero => rw [zero]; rfl
    · next left =>
      have positive : 0 < byte.toNat :=
        Nat.pos_of_ne_zero fun zero => left (UInt8.toNat_inj.mp zero)
      exact UInt8.toNat_sub_of_le byte 1 (UInt8.le_iff_toNat_le.mpr positive)
  cases timer <;> exact counted _

/-- Both timers of a machine stand where a history says. -/
def Agree (past : List Moment) (m : Machine) : Prop :=
  ∀ timer : Timer, (timer.value m).toNat = timer.countdown past

/-- The timers agree with the history, and they did so in each of its steps. -/
structure Counted (past : List Moment) (m : Machine) : Prop where
  now : Agree past m
  earlier : ∀ before s later, past = before ++ .step s :: later → Agree before s

namespace Counted

theorem aside {next : Machine} (h : Counted past m)
    (same : ∀ timer : Timer, timer.value next = timer.value m) : Counted past next :=
  ⟨fun timer => same timer ▸ h.now timer, h.earlier⟩

theorem step (h : Counted past m) : Counted (past ++ [.step m]) m.step.state where
  now timer := by
    rw [value_step, countdown_step]
    cases timer.written? m with
    | some => rfl
    | none => exact h.now timer
  earlier before s later split := by
    rcases split_of_concat split with ⟨rfl, same⟩ | ⟨rest, found⟩
    · cases same
      exact h.now
    · exact h.earlier before s rest found

/-- What is no step leaves the steps of a history as they were. -/
theorem earlier_concat (h : Counted past m) (moment : Moment) (idle : ∀ s, moment ≠ .step s)
    (before : List Moment) (s : Machine) (later : List Moment)
    (split : past ++ [moment] = before ++ .step s :: later) : Agree before s := by
  rcases split_of_concat split with ⟨-, same⟩ | ⟨rest, found⟩
  · exact absurd same.symm (idle s)
  · exact h.earlier before s rest found

theorem tick (h : Counted past m) : Counted (past ++ [.tick]) m.tick where
  now timer := by rw [value_tick, countdown_tick, h.now]
  earlier := h.earlier_concat .tick (fun _ => nofun)

theorem reset (h : Counted past m) : Counted (past ++ [.reset]) m.reset where
  now timer := by
    rw [countdown_reset]
    cases timer <;> rfl
  earlier := h.earlier_concat .reset (fun _ => nofun)

theorem keyDown (h : Counted past m) (index : Int) : Counted past (m.keyDown index).state := by
  rw [Machine.keyDown_state]
  split <;> exact h.aside fun timer => by cases timer <;> rfl

theorem keyUp (h : Counted past m) (index : Int) : Counted past (m.keyUp index).state := by
  rw [Machine.keyUp_state]
  split <;> exact h.aside fun timer => by cases timer <;> rfl

/-! ## Runs -/

variable {e : Emulator}

theorem runBatch (h : Counted past m) (displayWait : Bool) (budget done : Nat)
    (notes : Array Note) :
    Counted (past ++ (Emulator.batchSteps displayWait budget m).map .step)
      (Emulator.runBatch displayWait budget done m notes).state := by
  let Prolonged (steps : List Machine) (m : Machine) : Prop := Counted (past ++ steps.map .step) m
  have begun : Prolonged [] m := by simpa [Prolonged] using h
  have step (steps : List Machine) (m : Machine) (h : Prolonged steps m) :
      Prolonged (steps ++ [m]) m.step.state := by
    simpa [Prolonged] using Counted.step h
  exact Emulator.runBatch_follows step displayWait budget done notes begun

theorem runFrame (h : Counted past e.machine) :
    Counted (past ++ e.momentsOf .frame) e.runFrame.state.machine := by
  have batch := h.runBatch e.config.displayWait e.instructionsPerFrame.toNat 0 #[]
  simp only [Emulator.momentsOf, Emulator.stepsOf, Emulator.runFrame]
  generalize Emulator.runBatch .. = ended at batch ⊢
  cases ended.result with
  | error => simpa using batch
  | ok => simpa using batch.tick

theorem perform (h : Counted past e.machine) (command : Emulator.Command) :
    Counted (past ++ e.momentsOf command) (e.perform command).state.machine := by
  cases command with
  | step => exact h.step
  | frame => exact h.runFrame
  | tick => exact h.tick
  | reset => exact h.reset
  | keyDown index => exact (List.append_nil past).symm ▸ h.keyDown index
  | keyUp index => exact (List.append_nil past).symm ▸ h.keyUp index
  | setSpeed => exact (List.append_nil past).symm ▸ h

theorem after (h : Counted past e.machine) (commands : List Emulator.Command) :
    Counted (past ++ e.moments commands) (e.after commands).machine := by
  induction commands generalizing e past with
  | nil => simpa [Emulator.moments] using h
  | cons command rest ih => simpa [Emulator.moments] using ih (h.perform command)

theorem start (rom : Rom) (config : Config) (random : ByteSource) :
    Counted [] (Emulator.start rom config random).machine where
  now timer := by cases timer <;> rfl
  earlier before s later split := by simp at split

end Counted

end Timer

namespace Machine

/-- To read the delay timer never fails, and copies it to a register. -/
theorem step_readDelay {m : Machine} {x : Register} (next : m.AboutTo (.readDelay x)) :
    m.step.result = .ok () ∧ m.step.state.registers.read x = m.delay := by
  have free : m.hindrance m.current = none := by
    rw [next.fetched]
    rfl
  rw [step_of_free next.running (Nat.lt_succ_of_le next.inside) free]
  simp [next.fetched, effect, remember, Registers.read, Registers.write]

end Machine

namespace Emulator

open Timer

/-- Where the timers stand after any run and in each of its steps, and what a program reads. -/
theorem timers_of_history (rom : Rom) (config : Config) (random : ByteSource)
    (commands : List Command) :
    let first := start rom config random
    let e := first.after commands
    let history := first.moments commands
    (∀ timer : Timer, (timer.value e.machine).toNat = timer.countdown history) ∧
    (e.isSounding = true ↔ 0 < sound.countdown history) ∧
    ∀ before m later, history = before ++ .step m :: later →
      (∀ timer : Timer, (timer.value m).toNat = timer.countdown before) ∧
      ∀ x, m.AboutTo (.readDelay x) →
        m.step.result = .ok () ∧
          (m.step.state.registers.read x).toNat = delay.countdown before := by
  intro first e history
  have counted : Counted history e.machine := (Counted.start rom config random).after commands
  refine ⟨counted.now, ?_, ?_⟩
  · rw [← counted.now sound, isSounding]
    simp [value, Nat.pos_iff_ne_zero, ← UInt8.toNat_inj]
  · intro before m later split
    have agree := counted.earlier before m later split
    refine ⟨agree, fun x next => ?_⟩
    obtain ⟨done, read⟩ := Machine.step_readDelay next
    exact ⟨done, read ▸ agree delay⟩

/-- The empty frame ticks, and the frame that breaks off does not, but the sound that it has
turned on by then stays on. -/
theorem timers_of_history_across_frames :
    let program : Rom := ⟨[0x61, 5, 0xF1, 0x15, 0xF2, 0x07, 0xF1, 0x18, 0, 0xEE], by decide⟩
    let first := start program .standard (.cycle #[])
    let early := [.step, .step, .setSpeed 0, .frame, .setSpeed 1, .tick]
    let commands := early ++ [.step, .frame]
    first.faults commands = [.stackEmpty 0x208] ∧
    delay.countdown (first.moments commands) = 3 ∧
    sound.countdown (first.moments commands) = 5 ∧ (first.after commands).isSounding = true ∧
    ((first.after early).machine.step.state.registers.read 2).toNat = 3 := by
  intro program first early commands
  obtain ⟨-, sounding, earlier⟩ := timers_of_history program .standard (.cycle #[]) commands
  have history : first.moments commands = _ := first.moments_append early [.step, .frame]
  obtain ⟨running, inside, fetched, read, delayed, sounded, faults⟩ :
      (first.after early).machine.isHalted = false ∧
      (first.after early).machine.pc ≤ 4094 ∧
      (first.after early).machine.current = .readDelay 2 ∧
      delay.countdown (first.moments early) = 3 ∧
      delay.countdown (first.moments commands) = 3 ∧
      sound.countdown (first.moments commands) = 5 ∧
      first.faults commands = [.stackEmpty 0x208] := by
    decide +kernel
  obtain ⟨-, reading⟩ := (earlier _ _ _ history).2 2 ⟨running, inside, fetched⟩
  have heard : (first.after commands).isSounding = true := sounding.mpr (sounded ▸ by decide)
  exact ⟨faults, delayed, sounded, heard, reading.trans read⟩

end Emulator

end Chip8
