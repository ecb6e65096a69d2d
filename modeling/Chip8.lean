import Chip8.Machine.Effect
import Chip8.Main
import Chip8.Proofs.Colour.Reading
import Chip8.Proofs.CommandLine.Configured
import Chip8.Proofs.Emulator.Countdown
import Chip8.Proofs.Emulator.Dialect
import Chip8.Proofs.Emulator.Halt
import Chip8.Proofs.Emulator.Interleaving
import Chip8.Proofs.Emulator.Pacing
import Chip8.Proofs.Emulator.Reset
import Chip8.Proofs.Gamepad.Mirror
import Chip8.Proofs.Grid.Collision
import Chip8.Proofs.Grid.Compositing
import Chip8.Proofs.Grid.Writing
import Chip8.Proofs.Instruction.Listing
import Chip8.Proofs.Keypad.Trace
import Chip8.Proofs.Machine.Aliasing
import Chip8.Proofs.Machine.CallStack
import Chip8.Proofs.Machine.Faults
import Chip8.Proofs.Machine.Footprint
import Chip8.Proofs.Machine.KeyWait
import Chip8.Proofs.Machine.Listing
import Chip8.Proofs.Machine.PendingWait
import Chip8.Proofs.Machine.Safety
import Chip8.Proofs.Machine.Transfer
import Chip8.Proofs.Program.Ending
import Chip8.Proofs.Wave.Shape
import Chip8.Proofs.Window.Display
import Chip8.Proofs.Window.PadKeys
import Chip8.Proofs.Window.Timers
import Chip8.Proofs.Window.Tone
