import Chip8.Program

/-! The command line program. It reads the file, runs the program and shows what
comes of it: the lines on the standard output, the notes on the standard error
output. The window is run without a screen. -/

namespace Chip8.Main

/-- The number of a system error, which may be given as a negative one. -/
def errorNumber (code : UInt32) : Nat := code.toInt32.toInt.natAbs

def openErrorOf : IO.Error → OpenError
  | .noFileOrDirectory .. => .notFound
  | .inappropriateType _ code reason =>
    match errorNumber code with
    | 20 => .notDirectory
    | 21 => .isDirectory
    | number => .refused number reason
  | .permissionDenied _ code reason => .refused (errorNumber code) reason
  | .invalidArgument _ code reason =>
    match errorNumber code with
    | 36 => .nameTooLong
    | number => .refused number reason
  | e => .refused 5 (toString e)

def readFile (path : String) : IO (Except OpenError (List UInt8)) := do
  try
    return .ok (← IO.FS.readBinFile path).toList
  catch e =>
    return .error (openErrorOf e)

/-- Enough random bytes for a source to repeat them. -/
def randomSource : IO ByteSource := do
  let bytes ← (Array.range 4096).mapM fun _ => IO.rand 0 255
  return ByteSource.cycle (bytes.map UInt8.ofNat)

def showStop : CommandLine.Stop → IO Unit
  | .help => for line in Program.helpLines do IO.println line
  | .misuse m => IO.eprintln (Program.misuseLine m)

def showResult (r : Program.Result) : IO Unit := do
  for line in r.lines do IO.println line
  for note in r.notes do IO.eprintln (Program.noteLine note)
  if let .error failure := r.status then IO.eprintln (Program.failureLine failure)

end Chip8.Main

def main (argv : List String) : IO UInt32 := do
  match Chip8.CommandLine.parse argv with
  | .error stop =>
    Chip8.Main.showStop stop
    return UInt32.ofNat (Chip8.Program.stopStatus stop)
  | .ok arguments =>
    let file ← Chip8.Main.readFile arguments.program
    let result := Chip8.Program.run arguments file {} (← Chip8.Main.randomSource)
    Chip8.Main.showResult result
    return UInt32.ofNat result.exitStatus
