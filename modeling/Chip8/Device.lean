import Chip8.Colour
import Chip8.Keypad
import Chip8.Wave

/-! The devices around the program: what they answer, and what they are asked to
do. The calls are the whole visible effect of the front end; how a window, a
loudspeaker or a gamepad carries them out is not the program's business. -/

namespace Chip8

/-! ## What the program asks for -/

/-- The fields of the status bar. -/
inductive Label
  | fps
  | controller
  | state
  | speed
deriving DecidableEq, Repr

namespace Label

def name : Label → String
  | fps => "fps"
  | controller => "controller"
  | state => "state"
  | speed => "speed"

end Label

/-- A picture for the canvas: its pixels row by row, each shown as a square of
`scale` by `scale`. -/
structure Picture where
  width : Nat
  height : Nat
  scale : Nat
  pixels : List Rgb
deriving DecidableEq, Repr

namespace Picture

/-- The head of the file in which the pixels are handed over. -/
def header (p : Picture) : String := "P6 " ++ toString p.width ++ " " ++ toString p.height ++ " 255"

/-- A picture at its own size is not enlarged. -/
def zoom? (p : Picture) : Option Nat := if 1 < p.scale then some p.scale else none

end Picture

inductive Call
  | openMixer (frequency size channels : Int)
  | playSound (loops : Int)
  | stopSound
  | closeMixer
  | setTitle (text : String)
  | createCanvas (width height : Nat) (background : String)
  | setLabel (label : Label) (text : String)
  | render (picture : Picture)
  | startTimer (timer milliseconds : Nat)
  | cancelTimer (timer : Nat)
  | showError (title text : String)
  | mainLoop
  | destroy
deriving DecidableEq, Repr

/-! ## What the devices answer -/

inductive Mixer
  | refused (reason : String)
  | ready (frequency channels : Int)
deriving DecidableEq, Repr

structure Pad where
  name : String
  buttons : List Bool
  hats : List (Int × Int)
deriving DecidableEq, Repr

/-- The requests to the pad device that can fail. -/
inductive PadRequest
  | pump
  | count
  | connect
  | button
  | hat
deriving DecidableEq, Repr

namespace PadRequest

def all : List PadRequest := [pump, count, connect, button, hat]

def name : PadRequest → String
  | pump => "pump"
  | count => "count"
  | connect => "open"
  | button => "button"
  | hat => "hat"

def failureText (r : PadRequest) : String := r.name ++ " failed"

end PadRequest

/-- The pad that is plugged in, if there is one, and the request that fails at present. -/
structure Socket where
  pad : Option Pad := none
  failing : Option PadRequest := none
deriving DecidableEq, Repr

/-- The devices as the program finds them when it starts. -/
structure Devices where
  mixer : Mixer := .ready 44100 1
  /-- Why pads cannot be used at all, if they cannot. -/
  padRefusal : Option String := none
  /-- The memory that sound can have. -/
  room : Wave.Room := .addressable
deriving DecidableEq, Repr

end Chip8
