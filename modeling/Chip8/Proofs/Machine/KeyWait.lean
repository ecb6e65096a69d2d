import Chip8.Proofs.Emulator.Run

/-! The wait for a key. How far a wait has come is a matter of the events alone: the
first step opens it, the first release after that is the one that counts, and the step
after that ends it (`Phase`). Up to that step the machine stands still whatever
happens, and that step hands the key over and goes on (`awaitRelease_run`). -/

namespace Chip8.KeyWait

/-- What happens to a machine while it waits. -/
inductive Event
  | step
  | press (key : Key)
  | release (key : Key)
  | tick
deriving DecidableEq

def Event.command : Event → Emulator.Command
  | step => .step
  | press key => .keyDown key.val
  | release key => .keyUp key.val
  | tick => .tick

inductive Phase
  | before
  | waiting
  | caught (key : Key)
  | finished

namespace Phase

def next : Phase → Event → Phase
  | before, .step => waiting
  | waiting, .release key => caught key
  | caught _, .step => finished
  | phase, _ => phase

def after (phase : Phase) (events : List Event) : Phase := events.foldl next phase

@[simp] theorem next_press (phase : Phase) (key : Key) : phase.next (.press key) = phase := by
  cases phase <;> rfl

@[simp] theorem next_tick (phase : Phase) : phase.next .tick = phase := by
  cases phase <;> rfl

/-- What the keypad is to know of a wait that has come so far. -/
def wait : Phase → Wait
  | before | finished => .idle
  | waiting => .armed none
  | caught key => .armed (some key)

@[simp] theorem after_nil (phase : Phase) : phase.after [] = phase := rfl

@[simp] theorem after_cons (phase : Phase) (event : Event) (events : List Event) :
    phase.after (event :: events) = (phase.next event).after events := rfl

theorem after_append (phase : Phase) (first second : List Event) :
    phase.after (first ++ second) = (phase.after first).after second := by
  simp [after, List.foldl_append]

theorem after_eq_self {phase : Phase} {events : List Event}
    (idle : ∀ event ∈ events, phase.next event = phase) : phase.after events = phase := by
  induction events with
  | nil => rfl
  | cons event rest ih =>
    rw [after_cons, idle event (by simp)]
    apply ih
    intro later h
    exact idle later (by simp [h])

/-! ### Waits that are over -/

theorem step_of_caught_finished {key : Key} {events : List Event}
    (ended : (caught key).after events = finished) : [.step].Sublist events := by
  induction events with
  | nil => simp at ended
  | cons event rest ih =>
    cases event with
    | step => simp
    | _ => exact (ih ended).cons _

theorem release_of_waiting_finished {events : List Event}
    (ended : waiting.after events = finished) : ∃ key, [.release key, .step].Sublist events := by
  induction events with
  | nil => simp at ended
  | cons event rest ih =>
    cases event with
    | release key => exact ⟨key, (step_of_caught_finished ended).cons_cons _⟩
    | _ =>
      obtain ⟨key, found⟩ := ih ended
      exact ⟨key, found.cons _⟩

theorem pattern_of_finished {events : List Event} (ended : before.after events = finished) :
    ∃ key, [.step, .release key, .step].Sublist events := by
  induction events with
  | nil => simp at ended
  | cons event rest ih =>
    cases event with
    | step =>
      obtain ⟨key, found⟩ := release_of_waiting_finished ended
      exact ⟨key, found.cons_cons _⟩
    | _ =>
      obtain ⟨key, found⟩ := ih ended
      exact ⟨key, found.cons _⟩

/-! ### Waits that have caught a key -/

theorem after_eq_caught {first between last : List Event} (key : Key) (unopened : .step ∉ first)
    (uncaught : ∀ key, .release key ∉ between) (unended : .step ∉ last) :
    before.after (first ++ .step :: between ++ .release key :: last) = caught key := by
  have unopened : before.after first = before := by
    apply after_eq_self
    intro event h
    cases event with
    | step => exact absurd h unopened
    | _ => rfl
  have uncaught : waiting.after between = waiting := by
    apply after_eq_self
    intro event h
    cases event with
    | release key => exact absurd h (uncaught key)
    | _ => rfl
  have unended : (caught key).after last = caught key := by
    apply after_eq_self
    intro event h
    cases event with
    | step => exact absurd h unended
    | _ => rfl
  simp only [List.append_assoc, List.cons_append, after_append, after_cons, unopened, next,
    uncaught, unended]

end Phase

/-! ## The machine -/

variable {m w : Machine} {x : Register}

/-- What a machine that waits leaves as it is. -/
structure StandsStill (m w : Machine) : Prop where
  pc : w.pc = m.pc
  registers : w.registers = m.registers
  index : w.index = m.index
  memory : w.memory = m.memory
  stack : w.stack = m.stack
  screen : w.screen = m.screen
  random : w.random = m.random

/-- The state of a wait that began at a machine and has come to a phase. -/
structure Waits (m : Machine) (phase : Phase) (w : Machine) : Prop where
  still : StandsStill m w
  running : w.isHalted = false
  wait : w.keypad.wait = phase.wait

theorem decode_awaitRelease {word : Word} (x : Register) (h : word.toNat = 0xF00A + 0x100 * x.val) :
    Instruction.decode word = .awaitRelease x := by
  have group : (Word.group word).val = 15 := by
    simp [Word.group, Word.digit, h]
    omega
  have nn : (Word.nn word).toNat = 0x0A := by
    simp [Word.nn, h]
  have operand : Word.x word = x := by
    simp [Word.x, Word.digit, h, Fin.ext_iff]
    omega
  simp [Instruction.decode, group, nn, operand]

theorem StandsStill.current (still : StandsStill m w) : w.current = m.current := by
  rw [Machine.current, Machine.word, still.pc, still.memory]
  rfl

/-- A machine about to execute the waiting instruction takes a step without a fault. -/
theorem step_of_current (running : w.isHalted = false) (inside : w.pc + 1 < 4096)
    (current : w.current = .awaitRelease x) :
    w.step =
      { state := (w.remember (.awaitRelease x)).effect (.awaitRelease x), result := .ok ()
        notes := w.remarks } := by
  rw [Machine.step_of_free running (by omega) (by rw [current]; rfl), current]

theorem effect_of_idle (idle : w.keypad.wait = .idle) :
    w.effect (.awaitRelease x) = { w with keypad := { w.keypad with wait := .armed none } } := by
  simp [Machine.effect, Keypad.poll, idle]

theorem effect_of_armed (armed : w.keypad.wait = .armed none) :
    w.effect (.awaitRelease x) = w := by
  simp [Machine.effect, Keypad.poll, armed]

theorem effect_of_caught {key : Key} (caught : w.keypad.wait = .armed (some key)) :
    w.effect (.awaitRelease x) =
      { w with
        registers := w.registers.write x (UInt8.ofNat key), pc := w.pc + 2
        keypad := { w.keypad with wait := .idle } } := by
  simp [Machine.effect, Keypad.poll, caught, Machine.advance]

/-! ## Events -/

/-- The keypad, the timers and what was fetched last are free to change. -/
theorem StandsStill.touched (still : StandsStill m w) (keypad : Keypad) (delay sound : UInt8)
    (last : Option Instruction) : StandsStill m { w with keypad, delay, sound, last } :=
  ⟨still.pc, still.registers, still.index, still.memory, still.stack, still.screen, still.random⟩

theorem Waits.press {phase : Phase} (waits : Waits m phase w) (key : Key) :
    Waits m phase (w.press key) where
  still := waits.still.touched _ _ _ _
  running := waits.running
  wait := waits.wait

theorem Waits.tick {phase : Phase} (waits : Waits m phase w) : Waits m phase w.tick where
  still := waits.still.touched _ _ _ _
  running := waits.running
  wait := waits.wait

theorem Waits.release {phase : Phase} (waits : Waits m phase w) (key : Key) :
    Waits m (phase.next (.release key)) (w.release key) where
  still := waits.still.touched _ _ _ _
  running := waits.running
  wait := by
    have wait := waits.wait
    cases phase <;> simp_all [Machine.release, Keypad.release, Phase.next, Phase.wait]

/-- A step that does not end the wait opens it, or changes nothing at all. -/
theorem Waits.step {phase : Phase} (waits : Waits m phase w) (inside : m.pc + 1 < 4096)
    (current : m.current = .awaitRelease x) (on : phase.next .step ≠ .finished) :
    w.step.result = .ok () ∧ Waits m (phase.next .step) w.step.state := by
  have fetched : w.current = .awaitRelease x := waits.still.current.trans current
  rw [step_of_current waits.running (waits.still.pc ▸ inside) fetched]
  refine ⟨rfl, ?_⟩
  have wait : (w.remember (.awaitRelease x)).keypad.wait = phase.wait := waits.wait
  cases phase with
  | before =>
    simp only [effect_of_idle wait]
    exact ⟨waits.still.touched _ _ _ _, waits.running, rfl⟩
  | waiting =>
    simp only [effect_of_armed wait]
    exact ⟨waits.still.touched _ _ _ _, waits.running, wait⟩
  | caught => exact absurd rfl on
  | finished => exact absurd rfl on

/-- The step that ends the wait hands the key over and goes on. -/
theorem Waits.step_caught {key : Key} (waits : Waits m (.caught key) w)
    (inside : m.pc + 1 < 4096) (current : m.current = .awaitRelease x) :
    w.step.result = .ok () ∧
      w.step.state =
        { w with
          registers := w.registers.write x (UInt8.ofNat key.val), pc := m.pc + 2
          keypad := { w.keypad with wait := .idle }, last := some (.awaitRelease x) } := by
  have fetched : w.current = .awaitRelease x := waits.still.current.trans current
  have caught : (w.remember (.awaitRelease x)).keypad.wait = .armed (some key) := waits.wait
  rw [step_of_current waits.running (waits.still.pc ▸ inside) fetched, effect_of_caught caught,
    ← waits.still.pc]
  exact ⟨rfl, rfl⟩

theorem perform_step (e : Emulator) (done : e.machine.step.result = .ok ()) :
    (e.perform .step).result = .ok none := by
  simp only [Emulator.perform, Emulator.perform.withoutAnswer, Emulator.step, Emulator.lift, done,
    Except.map]

theorem Waits.event {phase : Phase} {e : Emulator} (waits : Waits m phase e.machine)
    (inside : m.pc + 1 < 4096) (current : m.current = .awaitRelease x) (event : Event)
    (on : phase.next event ≠ .finished) :
    (e.perform event.command).result = .ok none ∧
      Waits m (phase.next event) (e.perform event.command).state.machine := by
  cases event with
  | step =>
    obtain ⟨done, waits⟩ := waits.step inside current on
    exact ⟨perform_step e done, waits⟩
  | press key =>
    rw [Event.command, Emulator.perform_keyDown, Phase.next_press]
    exact ⟨rfl, waits.press key⟩
  | release key =>
    rw [Event.command, Emulator.perform_keyUp]
    exact ⟨rfl, waits.release key⟩
  | tick =>
    rw [Phase.next_tick]
    exact ⟨rfl, waits.tick⟩

theorem Waits.events {phase : Phase} {e : Emulator} (waits : Waits m phase e.machine)
    (inside : m.pc + 1 < 4096) (current : m.current = .awaitRelease x) {events : List Event}
    (on : phase.after events ≠ .finished) :
    Waits m (phase.after events) (e.after (events.map Event.command)).machine := by
  induction events generalizing e phase with
  | nil => exact waits
  | cons event rest ih =>
    have soon : phase.next event ≠ .finished := by
      intro ended
      rw [Phase.after_cons, ended, Phase.after_eq_self fun _ _ => rfl] at on
      exact on rfl
    exact ih (waits.event inside current event soon).2 on

/-- A machine whose keypad is idle has not begun to wait. -/
theorem Waits.of_idle (running : m.isHalted = false) (idle : m.keypad.wait = .idle) :
    Waits m .before m where
  still := ⟨rfl, rfl, rfl, rfl, rfl, rfl, rfl⟩
  running := running
  wait := idle

/-- Whether no step has come yet after a release after a step. -/
def Unended (events : List Event) : Prop :=
  ∀ key : Key, ¬ [.step, .release key, .step].Sublist events

theorem awaitRelease_run (e : Emulator) (x : Register) (running : e.machine.isHalted = false)
    (idle : e.machine.keypad.wait = .idle) (inside : e.machine.pc + 1 < 4096)
    (word : e.machine.word.toNat = 0xF00A + 0x100 * x.val) :
    (∀ (past : List Event) (event : Event), Unended (past ++ [event]) →
      ((e.after (past.map Event.command)).perform event.command).result = .ok none ∧
        StandsStill e.machine (e.after ((past ++ [event]).map Event.command)).machine) ∧
    ∀ (first between last : List Event) (key : Key),
      .step ∉ first → (∀ other, .release other ∉ between) → .step ∉ last →
      let caught :=
        e.after ((first ++ .step :: between ++ .release key :: last).map Event.command)
      StandsStill e.machine caught.machine ∧
        (caught.perform .step).result = .ok none ∧
        (caught.perform .step).state.machine =
          { caught.machine with
            registers := e.machine.registers.write x (UInt8.ofNat key.val)
            pc := e.machine.pc + 2
            keypad := { caught.machine.keypad with wait := .idle }
            last := some (.awaitRelease x) } := by
  have current : e.machine.current = .awaitRelease x := decode_awaitRelease x word
  have begun := Waits.of_idle running idle
  constructor
  · intro past event unended
    have on : Phase.before.after (past ++ [event]) ≠ .finished := by
      intro ended
      obtain ⟨key, pattern⟩ := Phase.pattern_of_finished ended
      exact unended key pattern
    have waits := begun.events inside current on
    refine ⟨?_, waits.still⟩
    rw [Phase.after_append, Phase.after_cons, Phase.after_nil] at on
    have soon : Phase.before.after past ≠ .finished := by
      intro ended
      rw [ended] at on
      exact on rfl
    exact ((begun.events inside current soon).event inside current event on).1
  · intro first between last key unopened uncaught unended
    have phase := Phase.after_eq_caught key unopened uncaught unended
    have waits := begun.events inside current (by rw [phase]; nofun)
    rw [phase] at waits
    obtain ⟨done, state⟩ := waits.step_caught inside current
    rw [waits.still.registers] at state
    exact ⟨waits.still, perform_step _ done, state⟩

/-- Releases before the wait and after the one that counts do not matter. -/
theorem awaitRelease_second_release :
    let e := Emulator.start ⟨[0xF3, 0x0A], by decide⟩ .standard (.cycle #[])
    let waiting := e.after [.keyUp 1, .step, .keyDown 5, .tick]
    let caught := e.after [.keyUp 1, .step, .keyDown 5, .step, .keyUp 5, .keyUp 7]
    (waiting.perform .step).result = .ok none ∧
      StandsStill e.machine (waiting.perform .step).state.machine ∧
      (caught.perform .step).result = .ok none ∧
      (caught.perform .step).state.machine.registers = e.machine.registers.write 3 5 := by
  intro e waiting caught
  have word : e.machine.word.toNat = 0xF00A + 0x100 * (3 : Register).val :=
    congrArg UInt16.toNat (Machine.word_of_loaded e.machine.rom.fits rfl rfl)
  obtain ⟨still, ending⟩ := awaitRelease_run e 3 rfl rfl (by decide) word
  obtain ⟨done, same⟩ :=
    still [.release 1, .step, .press 5, .tick] .step (by unfold Unended; decide)
  obtain ⟨_, ended, state⟩ :=
    ending [.release 1] [.press 5, .step] [.release 7] 5 (by decide) (by decide) (by decide)
  exact ⟨done, same, ended, congrArg Machine.registers state⟩

end Chip8.KeyWait
