import Chip8.Fault
import Chip8.Instruction.Decode

/-! Notes: what the program has to say about its own course, apart from its
output. Each note belongs to a part of the program and has a severity; those below
a chosen severity are not shown. -/

namespace Chip8

inductive Severity
  | debug
  | info
  | warning
  | error
deriving DecidableEq, Repr

namespace Severity

def all : List Severity := [debug, info, warning, error]

def name : Severity → String
  | debug => "DEBUG"
  | info => "INFO"
  | warning => "WARNING"
  | error => "ERROR"

def ofName? (name : String) : Option Severity := all.find? (·.name == name)

def rank : Severity → Nat
  | debug => 0
  | info => 1
  | warning => 2
  | error => 3

end Severity

/-- The parts of the program that take notes. -/
inductive Topic
  | machine
  | keypad
  | emulator
  | buzzer
  | gamepad
  | program
deriving DecidableEq, Repr

inductive Note
  | unknownWord (word : Word) (pc : Nat)
  | stopped (fault : Fault)
  | awaitingRelease
  | releaseCaught (key : Fin 16)
  | loaded (size : Nat)
  | silent (reason : String)
  | padsDisabled (reason : String)
  | padConnected (name : String)
  | padDisconnected
  | padFailed (reason : String)
  | unopened (path reason : String)
  | rejected (path reason : String)
deriving DecidableEq, Repr

namespace Note

def topic : Note → Topic
  | unknownWord .. | stopped _ => .machine
  | awaitingRelease | releaseCaught _ => .keypad
  | loaded _ => .emulator
  | silent _ => .buzzer
  | padsDisabled _ | padConnected _ | padDisconnected | padFailed _ => .gamepad
  | unopened .. | rejected .. => .program

def severity : Note → Severity
  | unknownWord .. | awaitingRelease | releaseCaught _ => .debug
  | loaded _ | padConnected _ | padDisconnected => .info
  | silent _ | padsDisabled _ | padFailed _ => .warning
  | stopped _ | unopened .. | rejected .. => .error

def message : Note → String
  | unknownWord word pc =>
    "Ignoring unrecognized opcode 0x" ++ Text.Hex.upperPadded 4 word.toNat ++ " at 0x" ++
      Text.Hex.upperPadded 3 pc
  | stopped fault => "CHIP-8 halted: " ++ fault.message
  | awaitingRelease => "Waiting for key release"
  | releaseCaught key => "Key " ++ Text.Hex.upper key.val ++ " released while waiting"
  | loaded size => "Loaded " ++ toString size ++ " byte ROM"
  | silent reason => "Audio unavailable, running silent: " ++ reason
  | padsDisabled reason => "Controller support disabled: " ++ reason
  | padConnected name => "Controller connected: " ++ name
  | padDisconnected => "Controller disconnected"
  | padFailed reason => "Controller polling failed: " ++ reason
  | unopened path reason => "'" ++ path ++ "': file could not be opened: " ++ reason
  | rejected path reason => "'" ++ path ++ "': not a valid CHIP-8 program: " ++ reason

/-- The notes that are shown when nothing below the given severity is. -/
def shown (least : Severity) (notes : List Note) : List Note :=
  notes.filter fun note => least.rank ≤ note.severity.rank

end Note

end Chip8
