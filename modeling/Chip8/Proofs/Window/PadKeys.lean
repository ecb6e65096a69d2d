import Mathlib.Data.List.Induction
import Chip8.Proofs.Emulator.Frame
import Chip8.Proofs.Gamepad.Poll
import Chip8.Proofs.Window.Session

/-! The gamepad at a window. What a poll reports of a key goes to the keypad, and without
the keyboard nothing else presses or releases one. But a reset clears the keypad and leaves
the gamepad as it is: a key that the gamepad holds then, and has held ever since, is not
pressed although the pad presses it (`HeldSinceReset`). All other keys follow the pad
(`keypad_follows_pad`). -/

namespace Chip8

open Gamepad Reaction

namespace Window

variable {w : Window} {socket : Socket} {recent : List (Key × Bool)}

def isPressed (w : Window) (key : Key) : Bool := w.emulator.machine.keypad.isPressed key

/-- The parts of a window that have to do with keys. -/
def keys (w : Window) : Gamepad × Vector Bool 16 := (w.gamepad, w.emulator.machine.keypad.pressed)

/-! ## A frame -/

theorem deliver_keys (w : Window) (event : Event) (key : Key) :
    (w.deliver event).state.gamepad = w.gamepad ∧
      (w.deliver event).state.isPressed key =
        (turns key (changes [event])).getLast?.getD (w.isPressed key) := by
  match event with
  | .note _ => exact ⟨rfl, rfl⟩
  | .key other true =>
    rw [deliver, press_val]
    refine ⟨rfl, (Keypad.isPressed_press _ other key).trans ?_⟩
    rw [changes_key, changes_nil, turns_singleton]
    split <;> rfl
  | .key other false =>
    rw [deliver, release_val]
    refine ⟨rfl, (Keypad.isPressed_release _ other key).trans ?_⟩
    rw [changes_key, changes_nil, turns_singleton]
    split <;> rfl

/-- Of all that is reported of a key the last is what counts. -/
theorem deliverAll_keys (w : Window) (events : List Event) (key : Key) :
    (w.deliverAll events).state.gamepad = w.gamepad ∧
      (w.deliverAll events).state.isPressed key =
        (turns key (changes events)).getLast?.getD (w.isPressed key) := by
  induction events using List.reverseRecOn with
  | nil => exact ⟨rfl, rfl⟩
  | append_singleton events event ih =>
    have last : (w.deliverAll (events ++ [event])).state =
        ((w.deliverAll events).state.deliver event).state := by
      simp [deliverAll, List.foldl_append]
    obtain ⟨gamepad, pressed⟩ := (w.deliverAll events).state.deliver_keys event key
    rw [last, gamepad, pressed, changes_append, turns_append, List.getLast?_append, ih.2]
    refine ⟨ih.1, ?_⟩
    cases (turns key (changes [event])).getLast? <;> rfl

theorem pollPad_gamepad (w : Window) (socket : Socket) :
    (w.pollPad socket).state.gamepad = (w.gamepad.poll socket).1 :=
  (deliverAll_keys { w with gamepad := (w.gamepad.poll socket).1 } _ 0).1

theorem pollPad_isPressed (kept : w.gamepad.Kept recent) (socket : Socket) (key : Key) :
    (w.pollPad socket).state.isPressed key =
      let down := (w.gamepad.poll socket).1.holds key
      if w.gamepad.holds key = down then w.isPressed key else down := by
  let polled : Window := { w with gamepad := (w.gamepad.poll socket).1 }
  have delivered := (deliverAll_keys polled (w.gamepad.poll socket).2 key).2
  rw [kept.poll_turns, turn] at delivered
  refine Eq.trans delivered ?_
  simp only
  split <;> rfl

@[simp] theorem runMachine_keys (w : Window) : w.runMachine.state.keys = w.keys := by
  have same : (w.gamepad, w.emulator.runFrame.state.machine.keypad.pressed) = w.keys := by
    rw [keys, Emulator.runFrame_pressed]
  simp only [runMachine]
  split
  · rfl
  · split <;> exact same

@[simp] theorem redraw_keys (w : Window) : w.redraw.state.keys = w.keys := by
  rw [redraw]
  split <;> rfl

@[simp] theorem countFrame_keys (w : Window) (clock : Int) :
    (w.countFrame clock).state.keys = w.keys := by
  simp only [countFrame]
  split <;> rfl

theorem frame_keys (isOpen : w.isOpen = true) (clock : Int) :
    (w.frame socket clock).state.keys = (w.pollPad socket).state.keys := by
  rw [frame, if_pos isOpen]
  have scheduled (w : Window) : w.schedule.state.keys = w.keys := rfl
  simp [scheduled]

@[simp] theorem togglePause_keys (w : Window) : w.togglePause.state.keys = w.keys := by
  simp only [togglePause]
  split <;> rfl

@[simp] theorem slower_keys (w : Window) : w.slower.state.keys = w.keys := by
  rw [slower]
  split <;> rfl

@[simp] theorem faster_keys (w : Window) : w.faster.state.keys = w.keys := by
  rw [faster]
  split <;> rfl

theorem frame_gamepad (isOpen : w.isOpen = true) (clock : Int) :
    (w.frame socket clock).state.gamepad = (w.gamepad.poll socket).1 :=
  (congrArg Prod.fst (frame_keys isOpen clock)).trans (pollPad_gamepad w socket)

/-! ## Agreement -/

/-- The keypad has just those keys down that the gamepad holds, but for some that are stuck. -/
structure Agrees (w : Window) (stuck : Key → Prop) : Prop where
  kept : ∃ recent, w.gamepad.Kept recent
  pressed : ∀ key, w.isPressed key = true ↔ w.gamepad.holds key = true ∧ ¬ stuck key
  held : ∀ key, stuck key → w.gamepad.holds key = true

namespace Agrees

variable {after : Window} {stuck : Key → Prop}

theorem opened (rom : Rom) (config : Config) (random : ByteSource) (title : String)
    (sound : Reaction Buzzer) (clock : Int) :
    (Window.opened (.start rom config random) title sound none clock).state.Agrees
      fun _ => False := by
  refine ⟨⟨[], Kept.start⟩, ?_, fun _ => False.elim⟩
  intro key
  have up : Keypad.atRest.isPressed key = false := Vector.getElem_replicate key.isLt
  exact ⟨fun down => absurd down (Bool.eq_false_iff.mp up), fun held => nomatch held.1⟩

theorem of_keys (h : w.Agrees stuck) (same : after.keys = w.keys) : after.Agrees stuck := by
  have gamepad : after.gamepad = w.gamepad := congrArg Prod.fst same
  have pressed (key : Key) : after.isPressed key = w.isPressed key := congrArg (·.2[key]) same
  refine ⟨gamepad ▸ h.kept, ?_, gamepad ▸ h.held⟩
  intro key
  rw [gamepad, pressed, h.pressed]

theorem congr {others : Key → Prop} (h : w.Agrees stuck) (same : ∀ key, stuck key ↔ others key) :
    w.Agrees others :=
  (funext fun key => propext (same key) : stuck = others) ▸ h

/-- Nothing is stuck that the gamepad does not hold. -/
theorem stay (h : w.Agrees stuck) (same : after.keys = w.keys) :
    after.Agrees fun key => after.gamepad.holds key = true ∧ stuck key := by
  have agrees := h.of_keys same
  exact agrees.congr fun key => ⟨fun stuck => ⟨agrees.held key stuck, stuck⟩, And.right⟩

/-- A poll frees the keys that come up. -/
theorem pollPad (h : w.Agrees stuck) (socket : Socket) :
    let after := (w.pollPad socket).state
    after.Agrees fun key => after.gamepad.holds key = true ∧ stuck key := by
  obtain ⟨recent, kept⟩ := h.kept
  simp only [pollPad_gamepad]
  refine ⟨?_, ?_, fun key stuck => pollPad_gamepad w socket ▸ stuck.1⟩
  · rw [pollPad_gamepad]
    exact ⟨_, kept.poll socket⟩
  · intro key
    have before := h.pressed key
    have held := h.held key
    rw [pollPad_isPressed kept, pollPad_gamepad]
    -- The gamepad holds all that is stuck, so a key that goes down was not stuck before.
    cases down : (w.gamepad.poll socket).1.holds key <;> grind

theorem frame (h : w.Agrees stuck) (socket : Socket) (clock : Int) :
    let after := (w.frame socket clock).state
    after.Agrees fun key => after.gamepad.holds key = true ∧ stuck key := by
  intro after
  cases isOpen : w.isOpen with
  | false => exact h.stay (congrArg (·.state.keys) (frame_of_closed isOpen socket clock))
  | true =>
    have same : after.keys = (w.pollPad socket).state.keys := frame_keys isOpen clock
    have gamepad : after.gamepad = (w.pollPad socket).state.gamepad := congrArg Prod.fst same
    rw [gamepad]
    exact (h.pollPad socket).of_keys same

/-- A reset lets go of all keys for the machine, but not for the gamepad. -/
theorem reset (h : w.Agrees stuck) :
    w.reset.state.Agrees fun key => w.reset.state.gamepad.holds key = true := by
  refine ⟨h.kept, ?_, fun _ held => held⟩
  intro key
  have up : w.reset.state.isPressed key = false := Vector.getElem_replicate key.isLt
  simp [up]

end Agrees

end Window

namespace Desktop

/-- The actions that go to the keys of the keyboard. -/
def Action.OfKeyboard : Action → Prop
  | .press _ | .release _ => True
  | _ => False

/-- A reset came while the gamepad held the key, and the gamepad has held it ever since. -/
def HeldSinceReset (d : Desktop) (actions : List Action) (key : Key) : Prop :=
  ∃ earlier recent, actions = earlier ++ .reset :: recent ∧
    ∀ first rest, recent = first ++ rest →
      (d.performAll (earlier ++ .reset :: first)).state.window.gamepad.holds key = true

variable {d : Desktop} {actions : List Action} {action : Action} {key : Key}

theorem HeldSinceReset.holds (held : d.HeldSinceReset actions key) :
    (d.performAll actions).state.window.gamepad.holds key = true := by
  obtain ⟨earlier, recent, rfl, held⟩ := held
  exact held recent [] (List.append_nil recent).symm

theorem heldSinceReset_concat :
    d.HeldSinceReset (actions ++ [action]) key ↔
      (d.performAll (actions ++ [action])).state.window.gamepad.holds key = true ∧
        (action = .reset ∨ d.HeldSinceReset actions key) := by
  constructor
  · intro held
    refine ⟨held.holds, ?_⟩
    obtain ⟨earlier, recent, taken, held⟩ := held
    rcases List.eq_nil_or_concat recent with rfl | ⟨recent, last, rfl⟩
    · exact .inl (List.cons.inj (List.append_inj' taken rfl).2).1
    · have split : actions ++ [action] = (earlier ++ .reset :: recent) ++ [last] := by
        simpa using taken
      refine .inr ⟨earlier, recent, (List.append_inj' split rfl).1, ?_⟩
      intro first rest parted
      exact held first (rest ++ [last]) (by simp [parted])
  · rintro ⟨now, rfl | ⟨earlier, recent, rfl, held⟩⟩
    · refine ⟨actions, [], rfl, ?_⟩
      intro first rest parted
      obtain ⟨rfl, rfl⟩ := List.append_eq_nil_iff.mp parted.symm
      exact now
    · refine ⟨earlier, recent ++ [action], by simp, ?_⟩
      intro first rest parted
      rcases List.eq_nil_or_concat rest with rfl | ⟨rest, last, rfl⟩
      · rw [List.append_nil] at parted
        simpa [← parted] using now
      · have split : recent ++ [action] = (first ++ rest) ++ [last] := by simpa using parted
        exact held first rest (List.append_inj' split rfl).1

theorem perform_agrees {stuck : Key → Prop} (h : d.window.Agrees stuck)
    (quiet : ¬ action.OfKeyboard) :
    let after := (d.perform action).state.window
    after.Agrees fun key => after.gamepad.holds key = true ∧ (action = .reset ∨ stuck key) := by
  intro after
  by_cases reset : action = .reset
  · subst reset
    have agrees : after.Agrees fun key => after.gamepad.holds key = true := h.reset
    exact agrees.congr fun key => by simp
  · suffices agrees : after.Agrees fun key => after.gamepad.holds key = true ∧ stuck key from
      agrees.congr fun key => by simp [reset]
    cases action with
    | run => exact h.frame d.socket d.clock
    | elapse =>
      cases pending : d.pending with
      | nil => exact h.stay (by simp [after, perform, elapse, pending, still])
      | cons timer rest =>
        have runs : d.RunsFrame .elapse := by simp [RunsFrame, pending]
        have same : after = (d.window.frame d.socket d.clock).state := runs.window
        exact same ▸ h.frame d.socket d.clock
    | press | release => exact (quiet trivial).elim
    | reset => exact (reset rfl).elim
    | togglePause => exact h.stay (Window.togglePause_keys _)
    | slower => exact h.stay (Window.slower_keys _)
    | faster => exact h.stay (Window.faster_keys _)
    | close | setClock | plug | setFailing => exact h.stay rfl

theorem performAll_agrees (h : d.window.Agrees fun _ => False)
    (quiet : ∀ action ∈ actions, ¬ action.OfKeyboard) :
    (d.performAll actions).state.window.Agrees (d.HeldSinceReset actions) := by
  induction actions using List.reverseRecOn with
  | nil => exact h.congr fun key => ⟨False.elim, by simp [HeldSinceReset]⟩
  | append_singleton actions action ih =>
    have before := ih fun earlier member => quiet earlier (by simp [member])
    have agrees := perform_agrees before (quiet action (by simp))
    rw [← state_andThen (d.performAll actions) (·.perform action), ← performAll_concat] at agrees
    exact agrees.congr fun key => heldSinceReset_concat.symm

/-- After every frame of an open window the machine finds just those keys pressed that the
pad presses, if the gamepad is connected, but for keys that have been held since before a
reset. -/
theorem keypad_follows_pad {rom : Rom} {config : Config} {random : ByteSource} {title : String}
    {devices : Devices} {opened : Reaction Desktop}
    (created : create (.start rom config random) title devices = .ok opened)
    (enabled : devices.padRefusal = none) {actions : List Action}
    (quiet : ∀ action ∈ actions, ¬ action.OfKeyboard) :
    let before := (opened.andThen (·.performAll actions)).state
    ∀ action, before.RunsFrame action → before.window.isOpen = true →
      let now := (before.perform action).state.window
      ∀ key, now.emulator.machine.keypad.isPressed key = true ↔
        (now.gamepad.isConnected = true ∧ ∃ pad, before.socket.pad = some pad ∧ pad.Signals key) ∧
          ¬ opened.state.HeldSinceReset actions key := by
  intro before action runs isOpen now key
  have new : opened.state.window.Agrees fun _ => False := by
    obtain ⟨sound, -, rfl⟩ := create_ok created
    rw [enabled]
    exact Window.Agrees.opened rom config random title sound 0
  have agrees : before.window.Agrees (opened.state.HeldSinceReset actions) :=
    performAll_agrees new quiet
  obtain ⟨recent, kept⟩ := agrees.kept
  have same : now = (before.window.frame before.socket before.clock).state := runs.window
  have polled : now.gamepad = (before.window.gamepad.poll before.socket).1 :=
    same ▸ Window.frame_gamepad isOpen before.clock
  have framed := (agrees.frame before.socket before.clock).pressed key
  rw [← same, polled, not_and] at framed
  rw [polled, ← kept.poll_holds before.socket key]
  exact framed.trans ⟨fun down => ⟨down.1, down.2 down.1⟩, fun down => ⟨down.1, fun _ => down.2⟩⟩

/-- A key that goes down after a reset is pressed. -/
theorem keypad_follows_pad_after_reset :
    let pad (square : Bool) : Pad := { name := "Pad", buttons := [square], hats := [] }
    let config := { Config.standard with ipf := 1, ipf_pos := by decide }
    let emulator := Emulator.start ⟨[0x12, 0x00], by decide⟩ config (.cycle #[])
    let actions : List Action := [.plug (pad false), .run, .reset, .plug (pad true)]
    ∃ opened, create emulator "Pong" { mixer := .refused "none" } = .ok opened ∧
      let before := (opened.andThen (·.performAll actions)).state
      (before.perform .elapse).state.window.emulator.machine.keypad.isPressed 2 = true := by
  intro pad config emulator actions
  have created : create emulator "Pong" { mixer := .refused "none" } = .ok _ := rfl
  have quiet : ∀ action ∈ actions, ¬ action.OfKeyboard := by simp [actions, Action.OfKeyboard]
  have signals : (pad true).Signals 2 := .inl ⟨0, by decide, rfl⟩
  have follows := keypad_follows_pad created rfl quiet .elapse
  refine ⟨_, created, (follows ?runs ?isOpen 2).mpr ⟨⟨?connected, pad true, ?plugged, signals⟩, ?_⟩⟩
  case runs => decide +kernel
  case isOpen => decide +kernel
  case connected => decide +kernel
  case plugged => decide +kernel
  intro held
  refine absurd held.holds ?_
  decide +kernel

/-- The pad presses a key all the time, but a reset lets it come up for the machine. -/
theorem keypad_misses_pad_after_reset :
    let pad : Pad := { name := "Pad", buttons := [true], hats := [] }
    let emulator := Emulator.start ⟨[0x12, 0x00], by decide⟩ .standard (.cycle #[])
    let actions : List Action := [.plug (some pad), .run, .reset]
    ∃ opened, create emulator "Pong" { mixer := .refused "none" } = .ok opened ∧
      (∀ action ∈ actions, ¬ action.OfKeyboard) ∧ pad.Signals 2 ∧
        let before := (opened.andThen (·.performAll actions)).state
        let now := (before.perform .elapse).state.window
        before.RunsFrame .elapse ∧ before.window.isOpen = true ∧
          before.socket.pad = some pad ∧ now.gamepad.isConnected = true ∧
            now.emulator.machine.keypad.isPressed 2 = false := by
  intro pad emulator actions
  have created : create emulator "Pong" { mixer := .refused "none" } = .ok _ := rfl
  have quiet : ∀ action ∈ actions, ¬ action.OfKeyboard := by simp [actions, Action.OfKeyboard]
  have signals : pad.Signals 2 := .inl ⟨0, by decide, rfl⟩
  refine ⟨_, created, quiet, signals, ?_⟩
  decide +kernel

end Desktop

end Chip8
