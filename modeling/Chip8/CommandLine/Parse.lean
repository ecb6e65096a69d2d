import Chip8.CommandLine.Choices
import Chip8.CommandLine.Token

/-! Reading a command line from left to right. The first value that no setting
takes is the program; further ones, and switches that do not exist, are left over.
What is attached to a short flag bundles more short switches with it: each of its
characters is one, up to a setting, which takes the rest for its value. A bundle is
taken apart before any of it takes effect. Help ends the reading where it takes
effect. -/

namespace Chip8.CommandLine

/-- Why a command line does not lead to a run. -/
inductive Stop
  | help
  | misuse (misuse : Misuse)

structure Arguments where
  program : String
  choices : Choices
deriving DecidableEq, Repr

/-- A switch with all that it needs. -/
inductive Deed
  | turnOn (flag : Flag)
  | assign (setting : Setting) (text : String)
deriving DecidableEq, Repr

/-- An argument taken apart: the deeds in order, and the setting that still wants a
value. -/
structure Unfolded where
  deeds : List Deed
  wanting : Option Setting := none
deriving DecidableEq, Repr

def complain (s : Switch) (c : Complaint) : Stop := .misuse (.switch s c)

/-- Takes apart a short flag and what is bundled with it. -/
def unbundle (flag : Flag) : List Char → Except Stop Unfolded
  | [] => .ok { deeds := [.turnOn flag] }
  | c :: rest =>
    match Switch.ofSpelling? (String.ofList ['-', c]) with
    | none => .error (complain (.flag flag) (.unwantedValue (String.ofList (c :: rest))))
    | some (.setting s) =>
      if rest.isEmpty then .ok { deeds := [.turnOn flag], wanting := some s }
      else .ok { deeds := [.turnOn flag, .assign s (String.ofList rest)] }
    | some (.flag next) => do
      let u ← unbundle next rest
      return { u with deeds := .turnOn flag :: u.deeds }

def isShort (spelling : String) : Bool := !"--".toList.isPrefixOf spelling.toList

def unfoldSwitch (s : Switch) (spelling : String) (attached : Option String) :
    Except Stop Unfolded :=
  match s, attached with
  | .setting s, none => .ok { deeds := [], wanting := some s }
  | .setting s, some text => .ok { deeds := [.assign s text] }
  | .flag f, none => .ok { deeds := [.turnOn f] }
  | .flag f, some text =>
    if isShort spelling && !text.isEmpty then unbundle f text.toList
    else .error (complain s (.unwantedValue text))

/-- What the argument before has left to do. -/
inductive Mode
  | plain
  /-- It was the program. -/
  | atProgram
  /-- It ended in a setting that wants a value, and its deeds wait with it. -/
  | wanting (deeds : List Deed) (setting : Setting)
deriving DecidableEq, Repr

/-- What has been made out so far. -/
structure Draft where
  program : Option String := none
  leftover : List String := []
  choices : Choices := {}
  mode : Mode := .plain

namespace Draft

def leave (d : Draft) (texts : List String) : Draft := { d with leftover := d.leftover ++ texts }

def carryOut (d : Draft) : Deed → Except Stop Draft
  | .turnOn .help => .error .help
  | .turnOn flag => .ok { d with choices := d.choices.turnOn flag }
  | .assign setting text =>
    match d.choices.assign setting text with
    | .ok choices => .ok { d with choices }
    | .error c => .error (complain (.setting setting) c)

def carryOutAll (d : Draft) (deeds : List Deed) : Except Stop Draft :=
  deeds.foldlM carryOut { d with mode := .plain }

def advance (d : Draft) (token : Token) : Except Stop Draft :=
  match d.mode, token with
  | .wanting deeds setting, .value text => d.carryOutAll (deeds ++ [.assign setting text])
  | .wanting _ setting, _ => .error (complain (.setting setting) .noValue)
  | _, .value text =>
    match d.program with
    | none => .ok { d with program := some text, mode := .atProgram }
    | some _ => .ok { d.leave [text] with mode := .plain }
  | _, .unknown text => .ok { d.leave [text] with mode := .plain }
  | _, .switch s spelling attached =>
    match unfoldSwitch s spelling attached with
    | .error stop => .error stop
    | .ok u =>
      match u.wanting with
      | none => d.carryOutAll u.deeds
      | some setting => .ok { d with mode := .wanting u.deeds setting }

/-- Takes up what is behind the separator. The separator itself goes with the
program if it stands next to it, and is left over otherwise. -/
def finish (d : Draft) (behind : Option (List String)) : Except Stop Draft :=
  match d.mode, behind with
  | .wanting _ setting, _ => .error (complain (.setting setting) .noValue)
  | _, none => .ok d
  | .atProgram, some texts => .ok (d.leave texts)
  | .plain, some texts =>
    match d.program, texts with
    | none, program :: rest => .ok { d.leave rest with program := some program }
    | _, _ => .ok (d.leave (separator :: texts))

end Draft

def ofLine (line : Token.Line) : Except Stop Arguments := do
  let d ← line.tokens.foldlM Draft.advance {}
  let d ← d.finish line.behind
  match d.program with
  | none => .error (.misuse .noProgram)
  | some program =>
    if d.leftover.isEmpty then .ok { program, choices := d.choices }
    else .error (.misuse (.unrecognized d.leftover))

def parse (argv : List String) : Except Stop Arguments :=
  match Token.classifyAll argv with
  | .error m => .error (.misuse m)
  | .ok line => ofLine line

end Chip8.CommandLine
