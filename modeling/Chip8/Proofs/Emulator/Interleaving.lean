import Chip8.Proofs.Machine.Footprint
import Chip8.Proofs.Machine.KeyWait

/-! Interleavings. Keys and ticks come from outside, at any point between the steps of a run.
An event bears on the few instructions that use what it changes (`Concerns`), and a step that
executes none of these passes the event on (`step_deliver`). So the events of a schedule can be
put off until all of its steps are made (`run_eq`), and schedules with equally many steps and the
same events in the same order have the same faults and the same end (`interleaved`). -/

namespace Chip8

namespace Instruction

/-- The instructions that use the keypad. -/
def usesKeypad : Instruction → Bool
  | skipIfPressed _ | skipUnlessPressed _ | awaitRelease _ => true
  | _ => false

/-- The instructions that use the timers. -/
def usesTimers : Instruction → Bool
  | readDelay _ | setDelay _ | setSound _ => true
  | _ => false

end Instruction

open KeyWait (Event)

/-- The event changes what the instruction uses. -/
def KeyWait.Event.Concerns : Event → Instruction → Prop
  | step, _ => False
  | press _, instruction | release _, instruction => instruction.usesKeypad = true
  | tick, instruction => instruction.usesTimers = true

namespace Machine

variable {m : Machine} {event : Event} {events schedule : List Event} {instruction : Instruction}

def deliver (m : Machine) : Event → Machine
  | .step => m.step.state
  | .press key => m.press key
  | .release key => m.release key
  | .tick => m.tick

/-- None of the events concerns the instruction that the next step executes. -/
def Undisturbed (m : Machine) (events : List Event) : Prop :=
  ∀ instruction, m.AboutTo instruction → ∀ event ∈ events, ¬ event.Concerns instruction

/-! ## One event and one step -/

theorem effect_keypad (change : Keypad → Keypad) (quiet : instruction.usesKeypad ≠ true) :
    { m with keypad := change m.keypad }.effect instruction =
      { m.effect instruction with keypad := change (m.effect instruction).keypad } := by
  cases instruction with
  | skipIfPressed | skipUnlessPressed | awaitRelease => exact absurd rfl quiet
  | skipIfByte | skipUnlessByte | skipIfEqual | skipUnlessEqual => simp only [effect, skip_eq]
  | load =>
    rw [effect, effect]
    rfl
  | _ => rfl

theorem effect_tick (quiet : instruction.usesTimers ≠ true) :
    m.tick.effect instruction = (m.effect instruction).tick := by
  cases instruction with
  | readDelay | setDelay | setSound => exact absurd rfl quiet
  | skipIfByte | skipUnlessByte | skipIfEqual | skipUnlessEqual | skipIfPressed
  | skipUnlessPressed =>
    simp only [effect, skip_eq]
    rfl
  | awaitRelease =>
    rw [effect_awaitRelease, effect_awaitRelease]
    rfl
  | load =>
    rw [effect, effect]
    rfl
  | _ => rfl

theorem effect_deliver (outside : event ≠ .step) (quiet : ¬ event.Concerns instruction) :
    (m.deliver event).effect instruction = (m.effect instruction).deliver event := by
  cases event with
  | step => exact absurd rfl outside
  | press key => exact effect_keypad (·.press key) quiet
  | release key => exact effect_keypad (·.release key) quiet
  | tick => exact effect_tick quiet

theorem pollNotes_release (pad : Keypad) (key : Key) :
    (pad.release key).pollNotes = pad.pollNotes := by
  unfold Keypad.release Keypad.pollNotes
  rcases pad.wait with _ | _ | _ <;> rfl

theorem keypad_unseen (change : Keypad → Keypad)
    (notes : ∀ pad, (change pad).pollNotes = pad.pollNotes) :
    Unseen fun m => { m with keypad := change m.keypad } where
  isHalted _ := rfl
  pc _ := rfl
  word _ := rfl
  remarks m := by
    have notes := notes m.keypad
    have current : { m with keypad := change m.keypad }.current = m.current := rfl
    rw [remarks, remarks, notes, current]
  hindrance _ instruction := by cases instruction <;> rfl
  halt _ := rfl
  remember _ _ := rfl
  advance _ := rfl

theorem tick_unseen : Unseen tick where
  isHalted _ := rfl
  pc _ := rfl
  word _ := rfl
  remarks _ := rfl
  hindrance _ instruction := by cases instruction <;> rfl
  halt _ := rfl
  remember _ _ := rfl
  advance _ := rfl

theorem deliver_unseen (outside : event ≠ .step) : Unseen (·.deliver event) := by
  cases event with
  | step => exact absurd rfl outside
  | press key => exact keypad_unseen (·.press key) fun _ => rfl
  | release key => exact keypad_unseen (·.release key) (pollNotes_release · key)
  | tick => exact tick_unseen

theorem step_deliver (outside : event ≠ .step) (undisturbed : m.Undisturbed events)
    (listed : event ∈ events) : (m.deliver event).step = m.step.mapState (·.deliver event) := by
  apply (deliver_unseen outside).step
  intro next
  exact effect_deliver outside (undisturbed m.current next event listed)

theorem undisturbed_deliver (outside : event ≠ .step) :
    (m.deliver event).Undisturbed events ↔ m.Undisturbed events := by
  unfold Undisturbed
  simp only [(deliver_unseen outside).aboutTo_iff]

/-! ## Whole schedules -/

def run (m : Machine) (schedule : List Event) : Machine := schedule.foldl deliver m

/-- The states in which a schedule takes its steps. -/
def stepsOf (m : Machine) : List Event → List Machine
  | [] => []
  | .step :: rest => m :: m.step.state.stepsOf rest
  | event :: rest => (m.deliver event).stepsOf rest

/-- How the steps of a schedule turn out. -/
def results (m : Machine) (schedule : List Event) : List (Except Fault Unit) :=
  (m.stepsOf schedule).map (·.step.result)

/-- Steps with nothing between them. -/
def block (n : Nat) : List Event := List.replicate n .step

/-- No step of the schedule executes an instruction that one of the events concerns. -/
def Calm (m : Machine) (events schedule : List Event) : Prop :=
  ∀ s ∈ m.stepsOf schedule, s.Undisturbed events

theorem block_succ (n : Nat) : block (n + 1) = .step :: block n := rfl

theorem run_cons (event : Event) (rest : List Event) :
    m.run (event :: rest) = (m.deliver event).run rest := rfl

theorem results_step (rest : List Event) :
    m.results (.step :: rest) = m.step.result :: m.step.state.results rest := rfl

theorem stepsOf_cons (outside : event ≠ .step) (rest : List Event) :
    m.stepsOf (event :: rest) = (m.deliver event).stepsOf rest := by
  cases event with
  | step => exact absurd rfl outside
  | _ => rfl

theorem calm_step (rest : List Event) :
    m.Calm events (.step :: rest) ↔ m.Undisturbed events ∧ m.step.state.Calm events rest := by
  simp [Calm, stepsOf]

theorem calm_cons (outside : event ≠ .step) (rest : List Event) :
    m.Calm events (event :: rest) ↔ (m.deliver event).Calm events rest := by
  rw [Calm, stepsOf_cons outside, Calm]

/-- An event does not change which instructions a block executes. -/
theorem calm_block_deliver (outside : event ≠ .step) (listed : event ∈ events) (n : Nat) :
    (m.deliver event).Calm events (block n) ↔ m.Calm events (block n) := by
  induction n generalizing m with
  | zero => simp [Calm, block, stepsOf]
  | succ n ih =>
    rw [block_succ, calm_step, calm_step, undisturbed_deliver outside]
    apply and_congr_right
    intro undisturbed
    rw [step_deliver outside undisturbed listed]
    exact ih

/-- A block passes an event on. -/
theorem block_deliver (outside : event ≠ .step) (listed : event ∈ events) {n : Nat}
    (calm : m.Calm events (block n)) :
    (m.deliver event).results (block n) = m.results (block n) ∧
      (m.deliver event).run (block n) = (m.run (block n)).deliver event := by
  induction n generalizing m with
  | zero => exact ⟨rfl, rfl⟩
  | succ n ih =>
    obtain ⟨undisturbed, rest⟩ := (calm_step _).mp calm
    have stepped := step_deliver outside undisturbed listed
    obtain ⟨results, ended⟩ := ih rest
    rw [block_succ, results_step, results_step, stepped]
    refine ⟨congrArg _ results, ?_⟩
    rw [run_cons, run_cons, deliver, stepped]
    exact ended

theorem calm_iff (listed : ∀ event ∈ schedule, event ≠ .step → event ∈ events) :
    m.Calm events schedule ↔ m.Calm events (block (schedule.count .step)) := by
  induction schedule generalizing m with
  | nil => rfl
  | cons event rest ih =>
    rw [List.forall_mem_cons] at listed
    obtain ⟨first, listed⟩ := listed
    by_cases outside : event = .step
    · subst outside
      rw [List.count_cons_self, block_succ, calm_step, calm_step, ih listed]
    · rw [List.count_cons_of_ne outside, calm_cons outside, ih listed,
        calm_block_deliver outside (first outside)]

/-- The events of a schedule can wait until all its steps are made. -/
theorem run_eq (listed : ∀ event ∈ schedule, event ≠ .step → event ∈ events)
    (calm : m.Calm events (block (schedule.count .step))) :
    m.results schedule = m.results (block (schedule.count .step)) ∧
      m.run schedule =
        (m.run (block (schedule.count .step))).run (schedule.filter (· ≠ .step)) := by
  induction schedule generalizing m with
  | nil => exact ⟨rfl, rfl⟩
  | cons event rest ih =>
    rw [List.forall_mem_cons] at listed
    obtain ⟨first, listed⟩ := listed
    by_cases outside : event = .step
    · subst outside
      rw [List.count_cons_self, block_succ] at calm ⊢
      obtain ⟨results, ended⟩ := ih listed ((calm_step _).mp calm).2
      rw [results_step, results_step, results]
      exact ⟨rfl, ended⟩
    · rw [List.count_cons_of_ne outside] at calm ⊢
      have passed := (calm_block_deliver outside (first outside) (rest.count .step)).mpr calm
      obtain ⟨results, ended⟩ := ih listed passed
      obtain ⟨same, moved⟩ := block_deliver outside (first outside) calm
      have kept : (event :: rest).filter (· ≠ .step) = event :: rest.filter (· ≠ .step) :=
        List.filter_cons_of_pos (by simpa using outside)
      rw [kept, run_cons, run_cons, ended, moved]
      refine ⟨?_, rfl⟩
      rw [← same, ← results, Machine.results, stepsOf_cons outside, Machine.results]

end Machine

namespace Emulator

variable (e : Emulator)

theorem perform_event (event : Event) :
    (e.perform event.command).state = { e with machine := e.machine.deliver event } := by
  cases event with
  | step | tick => rfl
  | press key =>
    rw [Event.command, perform_keyDown]
    rfl
  | release key =>
    rw [Event.command, perform_keyUp]
    rfl

theorem after_events (schedule : List Event) :
    e.after (schedule.map Event.command) = { e with machine := e.machine.run schedule } := by
  induction schedule generalizing e with
  | nil => rfl
  | cons event rest ih =>
    rw [List.map_cons, after_cons, perform_event, ih]
    rfl

theorem steps_events (schedule : List Event) :
    e.steps (schedule.map Event.command) = e.machine.stepsOf schedule := by
  induction schedule generalizing e with
  | nil => rfl
  | cons event rest ih =>
    rw [List.map_cons, steps_cons, perform_event, ih]
    cases event <;> rfl

/-- Two schedules with equally many steps and the same events in the same order come to the same,
if no step executes an instruction that one of the events concerns. -/
theorem interleaved (first second : List Event) (steps : first.count .step = second.count .step)
    (events : first.filter (· ≠ .step) = second.filter (· ≠ .step))
    (apart : ∀ m ∈ e.steps (first.map Event.command), ∀ instruction, m.AboutTo instruction →
      ∀ event ∈ first, ¬ event.Concerns instruction) :
    (e.steps (first.map Event.command)).map (·.step.result) =
        (e.steps (second.map Event.command)).map (·.step.result) ∧
      e.after (first.map Event.command) = e.after (second.map Event.command) := by
  rw [steps_events] at apart
  have listed : ∀ event ∈ second, event ≠ .step → event ∈ first := by
    intro event occurs outside
    have kept : event ∈ second.filter (· ≠ .step) := by simp [occurs, outside]
    rw [← events] at kept
    exact (List.mem_filter.mp kept).1
  have calm : e.machine.Calm first (Machine.block (first.count .step)) :=
    (Machine.calm_iff fun _ occurs _ => occurs).mp apart
  obtain ⟨results, ended⟩ := Machine.run_eq (fun _ occurs _ => occurs) calm
  rw [steps] at calm results ended
  obtain ⟨others, finished⟩ := Machine.run_eq listed calm
  rw [steps_events, steps_events, after_events, after_events, ended, finished, events]
  exact ⟨results.trans others.symm, rfl⟩

/-- Keys and ticks do not mind a fault, nor the steps that the halted machine refuses. -/
theorem interleaved_around_fault :
    let e := start ⟨[0x60, 0x03, 0x70, 0x01, 0x00, 0xEE], by decide⟩ .standard (.cycle #[])
    let between := [.press 5, .step, .release 5, .tick, .step, .step, .press 7, .step]
    let afterwards := [.step, .step, .step, .step, .press 5, .release 5, .tick, .press 7]
    (e.steps (between.map Event.command)).map (·.step.result) =
        (e.steps (afterwards.map Event.command)).map (·.step.result) ∧
      e.after (between.map Event.command) = e.after (afterwards.map Event.command) := by
  intro e between afterwards
  have possible : ∀ m ∈ e.steps (between.map Event.command),
      m.current ∈ [.setByte 0 3, .addByte 0 1, .ret, .host 0] := by
    decide +kernel
  apply interleaved e between afterwards (by decide) (by decide)
  rintro m taken instruction next event - concerns
  have fetched := possible m taken
  rw [next.fetched] at fetched
  have quiet : instruction.usesKeypad = false ∧ instruction.usesTimers = false := by
    simp only [List.mem_cons, List.not_mem_nil, or_false] at fetched
    rcases fetched with rfl | rfl | rfl | rfl <;> exact ⟨rfl, rfl⟩
  cases event <;> simp_all [Event.Concerns]

end Emulator

end Chip8
