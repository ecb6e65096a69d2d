import Chip8.Window.Basic

/-! One frame of the window: the gamepad, a frame of the machine unless it is
paused or halted, the screen if it has changed, the count of frames, and the timer
for the next frame. A closed window does nothing and starts no timer. -/

namespace Chip8.Window

/-- Takes over what the change of a key has made of the emulator. -/
def take (w : Window) (o : Outcome Emulator Unit) : Reaction Window :=
  { state := { w with emulator := o.state }, notes := o.notes }

def press (w : Window) (index : Int) : Reaction Window := w.take (w.emulator.keyDown index)

def release (w : Window) (index : Int) : Reaction Window := w.take (w.emulator.keyUp index)

theorem press_val (w : Window) (key : Key) :
    w.press key.val = .still { w with emulator := w.emulator.press key } := by
  simp only [press, Emulator.keyDown, Machine.keyDown, Key.ofInt?_val]
  rfl

theorem release_val (w : Window) (key : Key) :
    w.release key.val =
      { state := { w with emulator := w.emulator.release key }
        notes := w.emulator.machine.keypad.releaseNotes key } := by
  simp only [release, Emulator.keyUp, Machine.keyUp, Key.ofInt?_val]
  rfl

def deliver (w : Window) : Gamepad.Event → Reaction Window
  | .note note => { state := w, notes := #[note] }
  | .key key true => w.press key.val
  | .key key false => w.release key.val

def deliverAll (w : Window) (events : List Gamepad.Event) : Reaction Window :=
  events.foldl (fun r event => r.andThen (deliver · event)) (.still w)

def pollPad (w : Window) (socket : Socket) : Reaction Window :=
  let (gamepad, events) := w.gamepad.poll socket
  { w with gamepad }.deliverAll events

/-- A frame that faults silences the buzzer and is reported. -/
def runMachine (w : Window) : Reaction Window :=
  if w.isPaused || w.emulator.machine.isHalted then .still w
  else
    let o := w.emulator.runFrame
    let after : Reaction Window := { state := { w with emulator := o.state }, notes := o.notes }
    match o.result with
    | .ok _ => after.andThen fun w =>
      (w.buzzer.follow w.emulator.isSounding).within fun buzzer => { w with buzzer }
    | .error fault => ((after.andThen stopBeep).andThen showStatus).andThen fun w =>
      .calling w [.showError "CHIP-8 halted" fault.message]

def cleanScreen (w : Window) : Window :=
  let m := w.emulator.machine
  { w with emulator := { w.emulator with machine := { m with screen := m.screen.clean } } }

def redraw (w : Window) : Reaction Window :=
  if w.emulator.machine.screen.dirty then w.render.andThen fun w => .still w.cleanScreen
  else .still w

/-- Shows the count once a second has passed, and starts it anew. -/
def countFrame (w : Window) (clock : Int) : Reaction Window :=
  let count := w.frameCount + 1
  if clock - w.countedAt < 1 then .still { w with frameCount := count }
  else .calling { w with frameCount := 0, countedAt := clock }
    [.setLabel .fps ("FPS: " ++ toString count), .setLabel .controller w.controllerText]

/-- The time to the next frame in milliseconds. -/
def delay (w : Window) : Nat := max 1 (1000 / w.emulator.config.fps)

def schedule (w : Window) : Reaction Window :=
  let timer := (w.timer.map (· + 1)).getD 0
  .calling { w with timer := some timer } [.startTimer timer w.delay]

def frame (w : Window) (socket : Socket) (clock : Int) : Reaction Window :=
  if w.isOpen then
    ((((w.pollPad socket).andThen runMachine).andThen redraw).andThen (countFrame · clock)).andThen
      schedule
  else .still w

end Chip8.Window
