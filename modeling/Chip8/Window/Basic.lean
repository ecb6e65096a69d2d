import Chip8.Buzzer
import Chip8.Emulator
import Chip8.Gamepad

/-! The window: a canvas for the screen of the machine and a status bar. It owns
the emulator, the buzzer and the gamepad, and counts frames to tell how many there
are in a second. -/

namespace Chip8

structure Window where
  emulator : Emulator
  isOpen : Bool
  isPaused : Bool
  /-- Frames since they were last counted. -/
  frameCount : Nat
  /-- The second in which they were last counted. -/
  countedAt : Int
  /-- The timer that was started last; the next one gets the number after it. -/
  timer : Option Nat
  buzzer : Buzzer
  gamepad : Gamepad

namespace Window

def defaultTitle : String := "Cat's Chip-8 Emulator"

def picture (w : Window) : Picture where
  width := 64
  height := 32
  scale := w.emulator.config.scale
  pixels := w.emulator.picture

def render (w : Window) : Reaction Window := .calling w [.render w.picture]

def stateText (w : Window) : String :=
  if w.emulator.machine.isHalted then "Halted"
  else if w.isPaused then "Paused"
  else "Running"

def speedText (w : Window) : String := toString w.emulator.speed ++ "×"

def showStatus (w : Window) : Reaction Window :=
  .calling w [.setLabel .state w.stateText, .setLabel .speed w.speedText]

def controllerText (w : Window) : String := "Controller: " ++ w.gamepad.name

def stopBeep (w : Window) : Reaction Window := w.buzzer.stop.within fun buzzer => { w with buzzer }

/-- The window is set up, in its first picture, before it turns to the devices. -/
def opened (emulator : Emulator) (title : String) (sound : Reaction Buzzer)
    (padRefusal : Option String) (clock : Int) : Reaction Window :=
  let config := emulator.config
  let (gamepad, padNotes) := Gamepad.start padRefusal
  let w : Window :=
    { emulator, isOpen := true, isPaused := false, frameCount := 0, countedAt := clock
      timer := none, buzzer := sound.state, gamepad }
  { state := w
    calls :=
      [.setTitle title,
       .createCanvas (64 * config.scale) (32 * config.scale) config.background.hex,
       .setLabel .fps "FPS: --",
       .setLabel .controller w.controllerText,
       .setLabel .state w.stateText,
       .setLabel .speed w.speedText,
       .render w.picture] ++ sound.calls
    notes := sound.notes ++ padNotes }

def create (emulator : Emulator) (title : String) (devices : Devices) (clock : Int) :
    Except Wave.Unmakeable (Reaction Window) :=
  (Buzzer.connect devices.mixer emulator.config.pitch devices.room).map fun sound =>
    opened emulator title sound devices.padRefusal clock

end Window

end Chip8
