import Chip8.Reaction
import Chip8.Wave

/-! The buzzer. It remembers whether it sounds, and speaks to the mixer only when
that changes. Without a mixer it goes through the same states in silence. -/

namespace Chip8

structure Buzzer where
  isBeeping : Bool
  wave : Option Wave
deriving DecidableEq, Repr

namespace Buzzer

def sampleRate : Int := 44100

/-- Signed samples of sixteen bits. -/
def sampleSize : Int := -16

/-- A mixer that is ready sets the rate and the channels of the wave. -/
def connect (mixer : Mixer) (pitch : Int) (room : Wave.Room := .addressable) :
    Except Wave.Unmakeable (Reaction Buzzer) :=
  let calls := [.openMixer sampleRate sampleSize 1]
  match mixer with
  | .refused reason =>
    .ok { state := { isBeeping := false, wave := none }, calls, notes := #[.silent reason] }
  | .ready frequency channels =>
    (Wave.ofRates frequency channels pitch room).map fun wave =>
      { state := { isBeeping := false, wave := some wave }, calls }

/-- Calls for the mixer, if there is one. -/
def toMixer (b : Buzzer) (calls : List Call) : List Call := if b.wave.isSome then calls else []

def start (b : Buzzer) : Reaction Buzzer :=
  if b.isBeeping then .still b
  else .calling { b with isBeeping := true } (b.toMixer [.playSound (-1)])

def stop (b : Buzzer) : Reaction Buzzer :=
  if b.isBeeping then .calling { b with isBeeping := false } (b.toMixer [.stopSound])
  else .still b

/-- Sounds if and only if the sound timer runs. -/
def follow (b : Buzzer) (isSounding : Bool) : Reaction Buzzer :=
  if isSounding then b.start else b.stop

def close (b : Buzzer) : Reaction Buzzer :=
  b.stop.andThen fun b => .calling b (b.toMixer [.closeMixer])

end Buzzer

end Chip8
