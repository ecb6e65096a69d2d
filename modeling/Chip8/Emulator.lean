import Chip8.Config
import Chip8.Machine.Step

/-! The emulator: a machine and what paces it. A frame is a batch of steps and
then one tick of the timers; with `displayWait` the batch ends after the first
sprite. A frame that faults does not tick and is not counted. -/

namespace Chip8

structure Emulator where
  config : Config
  machine : Machine
  /-- How many times as fast as configured it runs. -/
  speed : Int
  frames : Nat

namespace Emulator

def start (rom : Rom) (config : Config) (random : ByteSource) : Emulator where
  config
  machine := Machine.powerOn rom config.dialect random
  speed := 1
  frames := 0

def startNote (rom : Rom) : Note := .loaded rom.bytes.length

def instructionsPerFrame (e : Emulator) : Int := e.config.ipf * e.speed

def isSounding (e : Emulator) : Bool := e.machine.sound ≠ 0

/-- Makes up to `budget` further steps after `done` ones; the answer is how many
there were in all. -/
def runBatch (displayWait : Bool) (budget done : Nat) (m : Machine) (notes : Array Note) :
    Outcome Machine Nat :=
  match budget with
  | 0 => { state := m, result := .ok done, notes }
  | budget + 1 =>
    let o := m.step
    let notes := notes ++ o.notes
    match o.result with
    | .error fault => { state := o.state, result := .error fault, notes }
    | .ok () =>
      if displayWait && o.state.last.any Instruction.isDraw then
        { state := o.state, result := .ok (done + 1), notes }
      else runBatch displayWait budget (done + 1) o.state notes

/-- The answer is the number of instructions in the frame. -/
def runFrame (e : Emulator) : Outcome Emulator Nat :=
  let batch := runBatch e.config.displayWait e.instructionsPerFrame.toNat 0 e.machine #[]
  match batch.result with
  | .error fault =>
    { state := { e with machine := batch.state }, result := .error fault, notes := batch.notes }
  | .ok executed =>
    { state := { e with machine := batch.state.tick, frames := e.frames + 1 }
      result := .ok executed
      notes := batch.notes }

/-- What happens to the machine happens to the emulator. -/
def lift {Answer : Type} (e : Emulator) (o : Outcome Machine Answer) : Outcome Emulator Answer :=
  { state := { e with machine := o.state }, result := o.result, notes := o.notes }

def step (e : Emulator) : Outcome Emulator Unit := e.lift e.machine.step

def keyDown (e : Emulator) (index : Int) : Outcome Emulator Unit := e.lift (e.machine.keyDown index)

def keyUp (e : Emulator) (index : Int) : Outcome Emulator Unit := e.lift (e.machine.keyUp index)

def press (e : Emulator) (key : Key) : Emulator := { e with machine := e.machine.press key }

def release (e : Emulator) (key : Key) : Emulator := { e with machine := e.machine.release key }

def tick (e : Emulator) : Emulator := { e with machine := e.machine.tick }

/-- The speed outlasts a reset. -/
def reset (e : Emulator) : Emulator := { e with machine := e.machine.reset, frames := 0 }

def setSpeed (e : Emulator) (speed : Int) : Emulator := { e with speed }

/-- The screen in the configured colours, row by row. -/
def picture (e : Emulator) : List Rgb :=
  e.machine.screen.paint e.config.foreground.rgb e.config.background.rgb

/-- What an emulator can be told to do. -/
inductive Command
  | step
  | frame
  | keyDown (index : Int)
  | keyUp (index : Int)
  | tick
  | reset
  | setSpeed (speed : Int)
deriving DecidableEq, Repr

/-- The answer is a number of instructions for a frame and the pace for a change of
speed. -/
def perform (e : Emulator) : Command → Outcome Emulator (Option Int)
  | .step => withoutAnswer e.step
  | .frame =>
    let o := e.runFrame
    { state := o.state, result := o.result.map fun n => some (n : Int), notes := o.notes }
  | .keyDown index => withoutAnswer (e.keyDown index)
  | .keyUp index => withoutAnswer (e.keyUp index)
  | .tick => .ok e.tick none
  | .reset => .ok e.reset none
  | .setSpeed speed => .ok (e.setSpeed speed) (some (e.setSpeed speed).instructionsPerFrame)
where
  withoutAnswer (o : Outcome Emulator Unit) : Outcome Emulator (Option Int) :=
    { state := o.state, result := o.result.map fun _ => none, notes := o.notes }

/-- Repeats a command until it has been done `times` over or faults: the last
outcome, with all notes, and how often it was done. -/
def repeated (command : Command) (times done : Nat) (last : Outcome Emulator (Option Int)) :
    Outcome Emulator (Option Int) × Nat :=
  match times with
  | 0 => (last, done)
  | times + 1 =>
    let o := last.state.perform command
    let next := { o with notes := last.notes ++ o.notes }
    match o.result with
    | .error _ => (next, done)
    | .ok _ => repeated command times (done + 1) next

end Emulator

end Chip8
