import Chip8.CommandLine.Misuse
import Chip8.Config
import Chip8.Note

/-! What a command line chooses: each flag turns something on, each setting
replaces a value that has a default. A setting that is given the separator for its
value is left without one until it is given another. The toggles that are turned on
count on top of the preset, wherever the preset stands. -/

namespace Chip8.CommandLine

structure Choices where
  disasm : Bool := false
  disasmOnly : Bool := false
  fps : Option Int := some 60
  ipf : Option Int := some 10
  scale : Option Int := some 10
  colour : Option Colour := some Colour.white
  background : Option Colour := some Colour.transparent
  pitch : Option Int := some 440
  displayWait : Bool := false
  preset : Option Preset := some .classic
  toggles : List Toggle := []
  logLevel : Option Severity := some .warning
deriving DecidableEq, Repr

/-- A setting that is needed has no value. -/
structure Valueless where
  setting : Setting
deriving DecidableEq, Repr

def Valueless.message (e : Valueless) : String :=
  "argument " ++ (Switch.setting e.setting).name ++ ": no value"

namespace Choices

def dialect (c : Choices) (preset : Preset) : Dialect :=
  c.toggles.foldl (fun d t => d.set true t) preset.dialect

def need {Value : Type} (setting : Setting) : Option Value → Except Valueless Value
  | some value => .ok value
  | none => .error { setting }

/-- The first setting without a value is reported. -/
def options (c : Choices) : Except Valueless Config.Options := do
  let preset ← need .preset c.preset
  let fps ← need .fps c.fps
  let ipf ← need .ipf c.ipf
  let scale ← need .scale c.scale
  let pitch ← need .pitch c.pitch
  let colour ← need .colour c.colour
  let background ← need .background c.background
  return {
    fps
    ipf
    scale
    foreground := colour.toNat
    background := background.toNat
    displayWait := c.displayWait
    pitch
    dialect := c.dialect preset }

/-- Help is not a choice. -/
def turnOn (c : Choices) : Flag → Choices
  | .help => c
  | .disasm => { c with disasm := true }
  | .disasmOnly => { c with disasmOnly := true }
  | .displayWait => { c with displayWait := true }
  | .toggle t => { c with toggles := c.toggles ++ [t] }

def readNumber (kind text : String) : Except Complaint Int :=
  match Text.Numeral.read? Text.Numeral.decimal text.toList with
  | some value => .ok value
  | none => .error (.noNumber kind text)

def readRate (text : String) : Except Complaint Int := do
  let value ← readNumber "_at_least_one" text
  if 1 ≤ value then .ok value else .error (.outside value "1..")

def readPitch (text : String) : Except Complaint Int := do
  let value ← readNumber "_pitch" text
  if 20 ≤ value ∧ value ≤ 10000 then .ok value else .error (.outside value "20..=10000")

def readColour (text : String) : Except Complaint Colour := (Colour.read text).mapError .noColour

def readPreset (text : String) : Except Complaint Preset :=
  match Preset.ofName? text with
  | some preset => .ok preset
  | none => .error (.noChoice text (Preset.all.map Preset.name))

def readSeverity (text : String) : Except Complaint Severity :=
  match Severity.ofName? text with
  | some severity => .ok severity
  | none => .error (.noChoice text (Severity.all.map Severity.name))

/-- Reads a value; the separator stands for none. Parsers of this grammar differ here: older ones
take a separator away before they read a value, also where it is the value (`--fps=--`), and are
left with none; newer ones refuse such a line. This is the older behaviour. -/
def valueOf {Value : Type} (read : String → Except Complaint Value) (text : String) :
    Except Complaint (Option Value) :=
  if text = separator then .ok none else (read text).map some

def assign (c : Choices) (setting : Setting) (text : String) : Except Complaint Choices :=
  match setting with
  | .fps => (valueOf readRate text).map fun fps => { c with fps }
  | .ipf => (valueOf readRate text).map fun ipf => { c with ipf }
  | .scale => (valueOf readRate text).map fun scale => { c with scale }
  | .colour => (valueOf readColour text).map fun colour => { c with colour }
  | .background => (valueOf readColour text).map fun background => { c with background }
  | .pitch => (valueOf readPitch text).map fun pitch => { c with pitch }
  | .preset => (valueOf readPreset text).map fun preset => { c with preset }
  | .logLevel => (valueOf readSeverity text).map fun logLevel => { c with logLevel }

end Choices

end Chip8.CommandLine
