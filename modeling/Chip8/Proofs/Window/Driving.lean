import Mathlib.Algebra.Ring.Parity
import Mathlib.Data.List.Induction
import Chip8.Proofs.Emulator.Frame
import Chip8.Proofs.Emulator.Mark
import Chip8.Proofs.Window.Display

/-! A window at the wheel. All that happens at a window comes to commands for its emulator
(`Desktop.told`), and it leaves the emulator as these commands would without a window, but for
the mark of the screen, which the window takes down. Every fault of a frame is put in a box, and
nothing else is (`drives_emulator`). -/

namespace Chip8

open Reaction

/-- The command that brings a change of a key to the emulator. -/
def Gamepad.Event.command? : Gamepad.Event → Option Emulator.Command
  | .key k true => some (.keyDown k.val)
  | .key k false => some (.keyUp k.val)
  | .note _ => none

/-- The title and the text of an error box. -/
@[simp] def Call.errorBox? : Call → Option (String × String)
  | .showError title text => some (title, text)
  | _ => none

def errorBoxes (calls : List Call) : List (String × String) := calls.filterMap Call.errorBox?

theorem errorBoxes_append (past calls : List Call) :
    errorBoxes (past ++ calls) = errorBoxes past ++ errorBoxes calls :=
  List.filterMap_append

theorem errorBoxes_subset {calls more : List Call} (within : calls ⊆ more)
    (none : errorBoxes more = []) : errorBoxes calls = [] := by
  rw [errorBoxes, List.filterMap_eq_nil_iff] at none ⊢
  exact fun call member => none call (within member)

/-- The box in which a fault is reported. -/
def Fault.box (fault : Fault) : String × String := ("CHIP-8 halted", fault.message)

namespace Emulator

variable {e now later : Emulator} {commands more : List Command} {calls further : List Call}

/-- Whether a command carries out instructions or counts the timers down. -/
def Command.advances : Command → Bool
  | step | frame | tick => true
  | keyDown _ | keyUp _ | reset | setSpeed _ => false

/-- The commands that press and release a key. -/
def Command.OfKey (command : Command) : Prop :=
  ∃ key : Key, command = .keyDown key.val ∨ command = .keyUp key.val

namespace Command.OfKey

variable {command : Command}

theorem advances (ofKey : command.OfKey) : command.advances = false := by
  obtain ⟨key, rfl | rfl⟩ := ofKey
  · rfl
  · rfl

theorem faults (ofKey : command.OfKey) (e : Emulator) : e.faults [command] = [] := by
  obtain ⟨key, rfl | rfl⟩ := ofKey
  · exact faults_of_ok (congrArg Outcome.result (e.perform_keyDown key))
  · exact faults_of_ok (congrArg Outcome.result (e.perform_keyUp key))

end Command.OfKey

/-- An emulator has come to be as commands would leave it, but for the mark of its screen, and
all their faults have been put in boxes meanwhile, and nothing else. -/
structure Driven (e : Emulator) (commands : List Command) (now : Emulator)
    (calls : List Call) : Prop where
  alike : Alike now (e.after commands)
  boxes : errorBoxes calls = (e.faults commands).map Fault.box

namespace Driven

theorem idle (alike : Alike now e) (none : errorBoxes calls = []) : e.Driven [] now calls :=
  ⟨alike, none⟩

theorem key {command : Command} (e : Emulator) (ofKey : command.OfKey) :
    e.Driven [command] (e.perform command).state [] :=
  ⟨.refl _, by rw [ofKey.faults e]; rfl⟩

theorem append (first : e.Driven commands now calls) (second : now.Driven more later further) :
    e.Driven (commands ++ more) later (calls ++ further) := by
  refine ⟨?_, ?_⟩
  · have next : Alike (now.after more) ((e.after commands).after more) := first.alike.after more
    rw [after_append]
    exact second.alike.trans next
  · rw [errorBoxes_append, first.boxes, second.boxes, first.alike.faults_eq, faults_append,
      List.map_append]

/-- What follows without a word to the emulator. -/
theorem aside (first : e.Driven commands now calls) (alike : Alike later now)
    (none : errorBoxes further = []) : e.Driven commands later (calls ++ further) := by
  have both := first.append (idle alike none)
  rwa [List.append_nil] at both

end Driven

theorem driven_press (e : Emulator) (key : Key) :
    e.Driven [.keyDown key.val] (e.press key) [] := by
  have driven := Driven.key e ⟨key, .inl rfl⟩
  rwa [e.perform_keyDown key] at driven

theorem driven_release (e : Emulator) (key : Key) :
    e.Driven [.keyUp key.val] (e.release key) [] := by
  have driven := Driven.key e ⟨key, .inr rfl⟩
  rwa [e.perform_keyUp key] at driven

end Emulator

namespace Window

open Emulator

variable {w : Window} {socket : Socket}

/-! ## A frame -/

/-- What a poll of the pad tells the emulator. -/
def toldByPad (w : Window) (socket : Socket) : List Command :=
  (w.gamepad.poll socket).2.filterMap Gamepad.Event.command?

/-- What a frame tells the emulator. -/
def toldByFrame (w : Window) (socket : Socket) : List Command :=
  if w.isOpen then
    w.toldByPad socket ++
      if w.isPaused || w.emulator.machine.isHalted then [] else [.frame]
  else []

theorem toldByPad_ofKey {command : Command} (member : command ∈ w.toldByPad socket) :
    command.OfKey := by
  obtain ⟨event, -, told⟩ := List.mem_filterMap.mp member
  match event, told with
  | .key key true, rfl => exact ⟨key, .inl rfl⟩
  | .key key false, rfl => exact ⟨key, .inr rfl⟩

theorem driven_deliver (w : Window) (event : Gamepad.Event) :
    w.emulator.Driven event.command?.toList (w.deliver event).state.emulator
      (w.deliver event).calls := by
  match event with
  | .note _ => exact .idle (.refl _) rfl
  | .key key true =>
    rw [deliver, press_val]
    exact w.emulator.driven_press key
  | .key key false =>
    rw [deliver, release_val]
    exact w.emulator.driven_release key

theorem driven_deliverAll (w : Window) (events : List Gamepad.Event) :
    w.emulator.Driven (events.filterMap Gamepad.Event.command?)
      (w.deliverAll events).state.emulator (w.deliverAll events).calls := by
  induction events using List.reverseRecOn with
  | nil => exact .idle (.refl _) rfl
  | append_singleton events event ih =>
    have last : w.deliverAll (events ++ [event]) =
        (w.deliverAll events).andThen (deliver · event) := by
      simp [deliverAll, List.foldl_append]
    have single : [event].filterMap Gamepad.Event.command? = event.command?.toList := by
      rw [List.filterMap_cons]
      cases event.command? <;> rfl
    rw [last, List.filterMap_append, single]
    exact ih.append (driven_deliver _ event)

theorem driven_pollPad (w : Window) (socket : Socket) :
    w.emulator.Driven (w.toldByPad socket) (w.pollPad socket).state.emulator
      (w.pollPad socket).calls :=
  driven_deliverAll { w with gamepad := (w.gamepad.poll socket).1 } (w.gamepad.poll socket).2

/-- Whether a frame runs the machine does not change while the pad is polled. -/
theorem pollPad_status (w : Window) (socket : Socket) :
    let polled := (w.pollPad socket).state
    polled.isPaused = w.isPaused ∧
      polled.emulator.machine.isHalted = w.emulator.machine.isHalted := by
  let Same (_ : List Call) (v : Window) : Prop :=
    v.isPaused = w.isPaused ∧ v.emulator.machine.isHalted = w.emulator.machine.isHalted
  have poll : Leads Same (·.pollPad socket) Same :=
    leads_pollPad (fun _ _ _ h => h) ⟨fun _ _ _ h => h, fun _ _ _ h => h⟩ socket
  exact poll [] w ⟨rfl, rfl⟩

theorem driven_runMachine (w : Window) :
    w.emulator.Driven (if w.isPaused || w.emulator.machine.isHalted then [] else [.frame])
      w.runMachine.state.emulator w.runMachine.calls := by
  rw [runMachine]
  split
  · exact .idle (.refl _) rfl
  · have performed : (w.emulator.perform .frame).result =
        w.emulator.runFrame.result.map fun n => some (n : Int) := rfl
    have alike : Alike w.emulator.runFrame.state (w.emulator.after [.frame]) := .refl _
    simp only
    cases result : w.emulator.runFrame.result with
    | ok executed =>
      rw [result] at performed
      refine ⟨alike, ?_⟩
      rw [faults_of_ok performed]
      exact errorBoxes_subset (w.buzzer.follow_subset _) rfl
    | error fault =>
      rw [result] at performed
      refine ⟨alike, ?_⟩
      rw [faults_of_error performed]
      have silenced : errorBoxes w.buzzer.stop.calls = [] :=
        errorBoxes_subset w.buzzer.stop_subset rfl
      simp [errorBoxes_append, stopBeep, Reaction.within, silenced]
      rfl

/-- To redraw is to take the mark down, without an error box. -/
theorem redraw_aside (w : Window) :
    Alike w.redraw.state.emulator w.emulator ∧ errorBoxes w.redraw.calls = [] := by
  rw [redraw]
  split
  · exact ⟨.refl _, rfl⟩
  · exact ⟨.refl _, rfl⟩

theorem countFrame_boxes (w : Window) (clock : Int) :
    errorBoxes (w.countFrame clock).calls = [] := by
  simp only [countFrame]
  split <;> rfl

theorem driven_frame (w : Window) (socket : Socket) (clock : Int) :
    w.emulator.Driven (w.toldByFrame socket) (w.frame socket clock).state.emulator
      (w.frame socket clock).calls := by
  rw [frame, toldByFrame]
  split
  · obtain ⟨paused, halted⟩ := pollPad_status w socket
    have run := driven_runMachine (w.pollPad socket).state
    rw [paused, halted] at run
    let ran := (w.pollPad socket).andThen runMachine
    let drawn := ran.andThen redraw
    have running : w.emulator.Driven _ ran.state.emulator ran.calls :=
      (driven_pollPad w socket).append run
    have drawing := running.aside (redraw_aside ran.state).1 (redraw_aside ran.state).2
    have counting := drawing.aside (congrArg marked (countFrame_emulator drawn.state clock))
      (countFrame_boxes drawn.state clock)
    exact counting.aside (.refl _) rfl
  · exact .idle (.refl _) rfl

/-! ## The controls -/

/-- What a change of a key of the keyboard tells the emulator. -/
def toldByKey (command : Int → Command) (symbol : String) : List Command :=
  (Key.ofSymbol? symbol).toList.map command

theorem driven_pressKey (w : Window) (symbol : String) :
    w.emulator.Driven (toldByKey .keyDown symbol) (w.pressKey symbol).state.emulator
      (w.pressKey symbol).calls := by
  rw [pressKey, toldByKey]
  cases found : Key.ofSymbol? symbol with
  | none => exact .idle (.refl _) rfl
  | some index =>
    obtain ⟨key, rfl⟩ := Key.exists_of_ofSymbol? found
    simp only [press_val]
    exact w.emulator.driven_press key

theorem driven_releaseKey (w : Window) (symbol : String) :
    w.emulator.Driven (toldByKey .keyUp symbol) (w.releaseKey symbol).state.emulator
      (w.releaseKey symbol).calls := by
  rw [releaseKey, toldByKey]
  cases found : Key.ofSymbol? symbol with
  | none => exact .idle (.refl _) rfl
  | some index =>
    obtain ⟨key, rfl⟩ := Key.exists_of_ofSymbol? found
    simp only [release_val]
    exact w.emulator.driven_release key

theorem stopBeep_boxes (w : Window) : errorBoxes w.stopBeep.calls = [] :=
  errorBoxes_subset w.buzzer.stop_subset rfl

theorem driven_reset (w : Window) :
    w.emulator.Driven [.reset] w.reset.state.emulator w.reset.calls := by
  let quiet := { w with emulator := w.emulator.reset }.stopBeep
  have told : w.emulator.Driven [.reset] w.emulator.reset [] := ⟨.refl _, rfl⟩
  have silenced : w.emulator.Driven [.reset] quiet.state.emulator ([] ++ quiet.calls) :=
    told.aside (.refl _) (stopBeep_boxes _)
  have drawn : w.emulator.Driven [.reset] quiet.state.emulator (quiet.andThen render).calls :=
    silenced.aside (.refl _) rfl
  exact drawn.aside (.refl _) rfl

theorem driven_togglePause (w : Window) :
    w.emulator.Driven [] w.togglePause.state.emulator w.togglePause.calls := by
  simp only [togglePause]
  split
  · have silenced : w.emulator.Driven [] _ _ :=
      .idle (.refl _) (stopBeep_boxes { w with isPaused := !w.isPaused })
    exact silenced.aside (.refl _) rfl
  · exact .idle (.refl _) rfl

theorem driven_faster (w : Window) :
    let speed := w.emulator.speed
    w.emulator.Driven (if speed < 16 then [.setSpeed (speed * 2)] else [])
      w.faster.state.emulator w.faster.calls := by
  intro speed
  rw [faster, highestSpeed]
  split
  · exact ⟨.refl _, rfl⟩
  · exact .idle (.refl _) rfl

theorem driven_slower (w : Window) :
    let speed := w.emulator.speed
    w.emulator.Driven (if 1 < speed then [.setSpeed (speed / 2)] else [])
      w.slower.state.emulator w.slower.calls := by
  intro speed
  rw [slower]
  split
  · exact ⟨.refl _, rfl⟩
  · exact .idle (.refl _) rfl

theorem driven_close (w : Window) :
    w.emulator.Driven [] w.close.state.emulator w.close.calls := by
  have cancelled : errorBoxes (w.timer.toList.map .cancelTimer) = [] := by
    cases w.timer <;> rfl
  have closed : w.emulator.Driven [] w.emulator (w.timer.toList.map .cancelTimer) :=
    .idle (.refl _) cancelled
  have silenced := closed.aside (.refl _) (errorBoxes_subset w.buzzer.close_subset rfl)
  exact silenced.aside (.refl _) rfl

theorem driven_run (w : Window) (socket : Socket) (clock : Int) :
    w.emulator.Driven (w.toldByFrame socket) (w.run socket clock).state.emulator
      (w.run socket clock).calls :=
  (driven_frame w socket clock).aside (.refl _) rfl

theorem toldByKey_ofKey {build : Int → Command} (ofKey : ∀ key : Key, (build key.val).OfKey)
    {symbol : String} {command : Command} (member : command ∈ toldByKey build symbol) :
    command.OfKey := by
  obtain ⟨index, found, rfl⟩ := List.mem_map.mp member
  obtain ⟨key, rfl⟩ := Key.exists_of_ofSymbol? (Option.mem_toList.mp found)
  exact ofKey key

/-! ## What stays as it is -/

/-- Nothing runs: the window is closed or paused, or the machine is halted. -/
def Idle (w : Window) : Prop :=
  w.isOpen = false ∨ w.isPaused = true ∨ w.emulator.machine.isHalted = true

theorem mem_toldByFrame {command : Command} (member : command ∈ w.toldByFrame socket) :
    (command = .frame ∧ ¬ w.Idle) ∨ command.OfKey := by
  rw [toldByFrame] at member
  split at member
  case isFalse => cases member
  case isTrue isOpen =>
    rcases List.mem_append.mp member with pad | frame
    · exact .inr (toldByPad_ofKey pad)
    · split at frame
      case isTrue => cases frame
      case isFalse busy =>
        refine .inl ⟨List.mem_singleton.mp frame, ?_⟩
        simpa [Idle, isOpen] using busy

/-- Whether the window is open, and whether it is paused. -/
def status (w : Window) : Bool × Bool := (w.isOpen, w.isPaused)

theorem runMachine_status (w : Window) : w.runMachine.state.status = w.status := by
  rw [runMachine]
  split
  · rfl
  · simp only
    split <;> rfl

theorem redraw_status (w : Window) : w.redraw.state.status = w.status := by
  rw [redraw]
  split <;> rfl

theorem countFrame_status (w : Window) (clock : Int) :
    (w.countFrame clock).state.status = w.status := by
  simp only [countFrame]
  split <;> rfl

theorem frame_status (w : Window) (socket : Socket) (clock : Int) :
    (w.frame socket clock).state.status = w.status := by
  let Same (_ : List Call) (v : Window) : Prop := v.status = w.status
  have kept : Leads Same (·.frame socket clock) Same :=
    leads_frame (leads_pollPad (fun _ _ _ h => h) ⟨fun _ _ _ h => h, fun _ _ _ h => h⟩ socket)
      (fun _ v h => (runMachine_status v).trans h) (fun _ v h => (redraw_status v).trans h)
      (fun _ v h => (countFrame_status v clock).trans h) (fun _ _ h => h)
  exact kept [] w rfl

theorem togglePause_status (w : Window) :
    w.togglePause.state.status = (w.isOpen, !w.isPaused) := by
  simp only [togglePause]
  split <;> rfl

theorem faster_status (w : Window) : w.faster.state.status = w.status := by
  rw [faster]
  split <;> rfl

theorem slower_status (w : Window) : w.slower.state.status = w.status := by
  rw [slower]
  split <;> rfl

theorem pressKey_status (w : Window) (symbol : String) :
    (w.pressKey symbol).state.status = w.status := by
  rw [pressKey]
  split <;> rfl

theorem releaseKey_status (w : Window) (symbol : String) :
    (w.releaseKey symbol).state.status = w.status := by
  rw [releaseKey]
  split <;> rfl

end Window

namespace Desktop

open Emulator

variable {d : Desktop} {action : Action} {actions : List Action}

/-- What an action tells the emulator. -/
def toldBy (d : Desktop) : Action → List Command
  | .run => d.window.toldByFrame d.socket
  | .elapse => if d.pending = [] then [] else d.window.toldByFrame d.socket
  | .press symbol => Window.toldByKey .keyDown symbol
  | .release symbol => Window.toldByKey .keyUp symbol
  | .reset => [.reset]
  | .slower =>
    let speed := d.window.emulator.speed
    if 1 < speed then [.setSpeed (speed / 2)] else []
  | .faster =>
    let speed := d.window.emulator.speed
    if speed < 16 then [.setSpeed (speed * 2)] else []
  | .togglePause | .close | .setClock _ | .plug _ | .setFailing _ => []

/-- What one action after the other tells it. -/
def told (d : Desktop) : List Action → List Command
  | [] => []
  | action :: rest => d.toldBy action ++ (d.perform action).state.told rest

theorem perform_driven (d : Desktop) (action : Action) :
    d.window.emulator.Driven (d.toldBy action) (d.perform action).state.window.emulator
      (d.perform action).calls := by
  cases action with
  | run => exact d.window.driven_run d.socket d.clock
  | elapse =>
    rw [toldBy, perform, elapse]
    cases d.pending with
    | nil => exact .idle (.refl _) rfl
    | cons => exact d.window.driven_frame d.socket d.clock
  | press symbol => exact d.window.driven_pressKey symbol
  | release symbol => exact d.window.driven_releaseKey symbol
  | reset => exact d.window.driven_reset
  | togglePause => exact d.window.driven_togglePause
  | slower => exact d.window.driven_slower
  | faster => exact d.window.driven_faster
  | close => exact d.window.driven_close
  | setClock | plug | setFailing => exact .idle (.refl _) rfl

theorem performAll_driven (d : Desktop) (actions : List Action) :
    d.window.emulator.Driven (d.told actions) (d.performAll actions).state.window.emulator
      (d.performAll actions).calls := by
  induction actions generalizing d with
  | nil => exact .idle (.refl _) rfl
  | cons action rest ih =>
    rw [performAll_cons]
    exact (perform_driven d action).append (ih _)

/-! ## When a window stands still -/

theorem perform_status (d : Desktop) (action : Action) :
    (d.perform action).state.window.status =
      match action with
      | .close => (false, d.window.isPaused)
      | .togglePause => (d.window.isOpen, !d.window.isPaused)
      | _ => d.window.status := by
  cases action with
  | run => exact d.window.frame_status d.socket d.clock
  | elapse =>
    simp only [perform, elapse]
    split
    · rfl
    · exact d.window.frame_status d.socket d.clock
  | press symbol => exact d.window.pressKey_status symbol
  | release symbol => exact d.window.releaseKey_status symbol
  | slower => exact d.window.slower_status
  | faster => exact d.window.faster_status
  | togglePause => exact d.window.togglePause_status
  | reset | close | setClock | plug | setFailing => rfl

theorem perform_isOpen (d : Desktop) (action : Action) :
    (d.perform action).state.window.isOpen = (d.window.isOpen && decide (action ≠ .close)) := by
  have same := congrArg Prod.fst (d.perform_status action)
  cases action <;> simpa [Window.status] using same

theorem perform_isPaused (d : Desktop) (action : Action) :
    (d.perform action).state.window.isPaused =
      (d.window.isPaused ^^ decide (action = .togglePause)) := by
  have same := congrArg Prod.snd (d.perform_status action)
  cases action <;> simpa [Window.status] using same

theorem performAll_isOpen (d : Desktop) (actions : List Action) :
    (d.performAll actions).state.window.isOpen =
      (d.window.isOpen && decide (.close ∉ actions)) := by
  induction actions generalizing d with
  | nil => simp [performAll, still]
  | cons action rest ih =>
    rw [performAll_cons, state_andThen, ih, perform_isOpen]
    simp [Bool.and_assoc, eq_comm]

theorem performAll_isPaused (d : Desktop) (actions : List Action) :
    (d.performAll actions).state.window.isPaused =
      (d.window.isPaused ^^ decide (Odd (actions.count .togglePause))) := by
  induction actions generalizing d with
  | nil => simp [performAll, still]
  | cons action rest ih =>
    rw [performAll_cons, state_andThen, ih, perform_isPaused]
    by_cases toggles : action = .togglePause
    · rw [toggles, List.count_cons_self]
      simp only [decide_true, decide_not, Nat.odd_add_one, Bool.xor_true, Bool.not_xor,
        Bool.xor_not]
    · simp [toggles]

theorem mem_toldBy {command : Command} (member : command ∈ d.toldBy action) :
    (command = .frame ∧ ¬ d.window.Idle) ∨ command.OfKey ∨
      (∃ speed, command = .setSpeed speed) ∨ (action = .reset ∧ command = .reset) := by
  have framed (member : command ∈ d.window.toldByFrame d.socket) :
      (command = .frame ∧ ¬ d.window.Idle) ∨ command.OfKey :=
    Window.mem_toldByFrame member
  cases action with
  | run => tauto
  | elapse =>
    rw [toldBy] at member
    split at member
    · cases member
    · tauto
  | press symbol => exact .inr (.inl (Window.toldByKey_ofKey (fun key => ⟨key, .inl rfl⟩) member))
  | release symbol => exact .inr (.inl (Window.toldByKey_ofKey (fun key => ⟨key, .inr rfl⟩) member))
  | reset => exact .inr (.inr (.inr ⟨rfl, List.mem_singleton.mp member⟩))
  | slower =>
    simp only [toldBy] at member
    split at member
    · exact .inr (.inr (.inl ⟨_, List.mem_singleton.mp member⟩))
    · cases member
  | faster =>
    simp only [toldBy] at member
    split at member
    · exact .inr (.inr (.inl ⟨_, List.mem_singleton.mp member⟩))
    · cases member
  | togglePause | close | setClock | plug | setFailing => cases member

theorem toldBy_faults {command : Command} (member : command ∈ d.toldBy action)
    (other : command ≠ .frame) (e : Emulator) : e.faults [command] = [] := by
  rcases mem_toldBy member with ⟨frame, -⟩ | ofKey | ⟨speed, rfl⟩ | ⟨-, rfl⟩
  · exact absurd frame other
  · exact ofKey.faults e
  · rfl
  · rfl

theorem toldBy_idle (idle : d.window.Idle) :
    ∀ command ∈ d.toldBy action, command.advances = false := by
  intro command member
  rcases mem_toldBy member with ⟨-, busy⟩ | ofKey | ⟨speed, rfl⟩ | ⟨-, rfl⟩
  · exact absurd idle busy
  · exact ofKey.advances
  · rfl
  · rfl

theorem perform_isHalted (halted : d.window.emulator.machine.isHalted = true)
    (calm : action ≠ .reset) :
    (d.perform action).state.window.emulator.machine.isHalted = true := by
  have calm : .reset ∉ d.toldBy action := by
    intro member
    rcases mem_toldBy member with ⟨frame, -⟩ | ⟨key, down | up⟩ | ⟨speed, set⟩ | ⟨reset, -⟩
    · cases frame
    · cases down
    · cases up
    · cases set
    · exact calm reset
  rw [(perform_driven d action).alike.isHalted_eq]
  exact after_isHalted _ halted calm

/-- A window that nothing gets going again stands still. -/
theorem told_idle {P : Desktop → Prop} {Calm : Action → Prop}
    (idle : ∀ d, P d → d.window.Idle)
    (stays : ∀ d action, Calm action → P d → P (d.perform action).state)
    (h : P d) (calm : ∀ action ∈ actions, Calm action) :
    ∀ command ∈ d.told actions, command.advances = false := by
  induction actions generalizing d with
  | nil => exact List.forall_mem_nil _
  | cons action rest ih =>
    rw [List.forall_mem_cons] at calm
    exact List.forall_mem_append.mpr
      ⟨toldBy_idle (idle d h), ih (stays d action calm.1 h) calm.2⟩

/-! ## A session -/

/-- After all actions the emulator of a window is as what they told it would have left it
without a window, with the mark of its screen taken down. An action puts the fault of its frame
in a box, and there are no other boxes. A closed window runs nothing any more, nor does one that
is paused or halted, up to the end of the pause or a reset. -/
theorem drives_emulator {rom : Rom} {config : Config} {random : ByteSource} {title : String}
    {devices : Devices} {opened : Reaction Desktop}
    (created : create (.start rom config random) title devices = .ok opened)
    (actions : List Action) :
    let now := (opened.andThen (·.performAll actions)).state
    let headless := (Emulator.start rom config random).after (opened.state.told actions)
    now.window.emulator = headless.cleaned ∧
    (now.window.isOpen = true ↔ .close ∉ actions) ∧
    (now.window.isPaused = true ↔ Odd (actions.count .togglePause)) ∧
    errorBoxes opened.calls = [] ∧
    (∀ action,
      errorBoxes (now.perform action).calls =
        (headless.faults (now.toldBy action)).map Fault.box ∧
      ∀ command ∈ now.toldBy action, command ≠ .frame → ∀ e : Emulator, e.faults [command] = []) ∧
    (∀ later,
      now.window.isOpen = false ∨
      (now.window.isPaused = true ∧ .togglePause ∉ later) ∨
      (now.window.emulator.machine.isHalted = true ∧ .reset ∉ later) →
      ∀ command ∈ now.told later, command.advances = false) := by
  intro now headless
  have clean : now.window.Clean := Window.upheld_clean.session created (fun _ _ => rfl) actions
  obtain ⟨sound, connected, rfl⟩ := create_ok created
  have alike : Alike now.window.emulator headless := (performAll_driven _ actions).alike
  refine ⟨?_, ?_, ?_, ?_, ?_, ?_⟩
  · rw [← alike.cleaned_eq, cleaned_eq_self clean]
  · simp [now, performAll_isOpen, Window.opened, within]
  · simp [now, performAll_isPaused, Window.opened, within]
  · have quiet : errorBoxes sound.calls = [] := by rw [(Buzzer.connect_ok connected).1]; rfl
    exact quiet
  · intro action
    rw [(perform_driven now action).boxes, alike.faults_eq]
    exact ⟨rfl, fun _ member other => toldBy_faults member other⟩
  · rintro later (closed | ⟨paused, calm⟩ | ⟨halted, calm⟩)
    · have stays (d : Desktop) (action : Action) (_ : True) (h : d.window.isOpen = false) :
          (d.perform action).state.window.isOpen = false := by
        simp [perform_isOpen, h]
      exact told_idle (fun _ => .inl) stays closed fun _ _ => trivial
    · have stays (d : Desktop) (action : Action) (calm : action ≠ .togglePause)
          (h : d.window.isPaused = true) : (d.perform action).state.window.isPaused = true := by
        simp [perform_isPaused, h, calm]
      exact told_idle (fun _ h => .inr (.inl h)) stays paused
        fun _ member => ne_of_mem_of_not_mem member calm
    · exact told_idle (fun _ h => .inr (.inr h)) (fun _ _ calm h => perform_isHalted h calm) halted
        fun _ member => ne_of_mem_of_not_mem member calm

/-- A key that is held down is no hindrance for the first frame to fault, and to say so. -/
theorem drives_emulator_into_fault :
    let emulator := Emulator.start ⟨[0x00, 0xEE], by decide⟩ .standard (.cycle #[])
    let actions : List Action := [.press "X"]
    ∃ opened, create emulator "Pong" { mixer := .refused "none" } = .ok opened ∧
      let now := (opened.andThen (·.performAll actions)).state
      now.window.emulator.machine.keypad.isPressed 0 = true ∧
        errorBoxes (now.perform .run).calls = [Fault.box (.stackEmpty 0x200)] := by
  intro emulator actions
  have created : create emulator "Pong" { mixer := .refused "none" } = .ok _ := rfl
  obtain ⟨same, -, -, -, boxes, -⟩ := drives_emulator created actions
  refine ⟨_, created, ?_, (boxes .run).1.trans ?_⟩
  · rw [same]
    decide +kernel
  · decide +kernel

/-- The window has shown the cleared screen and has taken the mark down, which is still up
without a window. -/
theorem drives_emulator_less_mark :
    let emulator := Emulator.start ⟨[0x00, 0xE0, 0x12, 0x02], by decide⟩ .standard (.cycle #[])
    ∃ opened, create emulator "Pong" { mixer := .refused "none" } = .ok opened ∧
      let now := (opened.andThen (·.performAll [.run])).state
      let headless := emulator.after (opened.state.told [.run])
      now.window.emulator.machine.screen.dirty = false ∧
        headless.machine.screen.dirty = true ∧ now.window.emulator.machine ≠ headless.machine := by
  intro emulator
  have created : create emulator "Pong" { mixer := .refused "none" } = .ok _ := rfl
  have differ {m headless : Machine} (clean : m.screen.dirty = false)
      (marked : headless.screen.dirty = true) :
      m.screen.dirty = false ∧ headless.screen.dirty = true ∧ m ≠ headless := by
    refine ⟨clean, marked, ?_⟩
    rintro rfl
    rw [marked] at clean
    cases clean
  refine ⟨_, created, differ ?_ ?_⟩
  · decide +kernel
  · decide +kernel

end Desktop

end Chip8
