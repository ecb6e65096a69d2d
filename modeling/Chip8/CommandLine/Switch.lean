import Chip8.Dialect

/-! The switches of the command line. A flag takes no value, a setting takes
exactly one. Each has one or two spellings, a short one with one dash and a long
one with two; the order of the list is the one in which candidates are named. -/

namespace Chip8.CommandLine

/-- The argument after which there are no switches. -/
def separator : String := "--"

inductive Flag
  | help
  | disasm
  | disasmOnly
  | displayWait
  | toggle (toggle : Toggle)
deriving DecidableEq, Repr

inductive Setting
  | fps
  | ipf
  | scale
  | colour
  | background
  | pitch
  | preset
  | logLevel
deriving DecidableEq, Repr

inductive Switch
  | flag (flag : Flag)
  | setting (setting : Setting)
deriving DecidableEq, Repr

def Flag.spellings : Flag → List String
  | help => ["-h", "--help"]
  | disasm => ["--disasm"]
  | disasmOnly => ["--disasm-only"]
  | displayWait => ["-d", "--display-wait"]
  | toggle .resetFlag => ["--vf-reset"]
  | toggle .shiftSource => ["--shifting"]
  | toggle .jumpRegister => ["--jumping"]
  | toggle .wrapSprites => ["--wrap"]
  | toggle .advanceIndex => ["--memory"]

def Setting.spellings : Setting → List String
  | fps => ["-f", "--fps"]
  | ipf => ["-i", "--ipf"]
  | scale => ["-s", "--scale"]
  | colour => ["-c", "--color"]
  | background => ["-b", "--background"]
  | pitch => ["-p", "--pitch"]
  | preset => ["--quirks"]
  | logLevel => ["--log-level"]

namespace Switch

def spellings : Switch → List String
  | flag f => f.spellings
  | setting s => s.spellings

/-- The name under which messages mention a switch. -/
def name (s : Switch) : String := "/".intercalate s.spellings

def all : List Switch :=
  [.flag .help, .flag .disasm, .flag .disasmOnly, .setting .fps, .setting .ipf, .setting .scale,
   .setting .colour, .setting .background, .setting .pitch, .flag .displayWait, .setting .preset] ++
  Toggle.all.map (fun t => .flag (.toggle t)) ++ [.setting .logLevel]

/-- The name, and after that of a setting a stand-in for its value. -/
def summary : Switch → String
  | flag f => (flag f).name
  | setting s => (setting s).name ++ " VALUE"

/-- Every spelling with its switch. -/
def table : List (String × Switch) :=
  all.flatMap fun s => s.spellings.map fun spelling => (spelling, s)

def ofSpelling? (text : String) : Option Switch := table.lookup text

end Switch

end Chip8.CommandLine
