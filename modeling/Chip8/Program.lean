import Chip8.CommandLine.Parse
import Chip8.Desktop
import Chip8.FileStore
import Chip8.Listing

/-! The whole program: from a command line and the file that it names to the exit
status, the lines printed, the notes shown and the calls on the devices. The
listing is printed before a setting is found to have no value and the program to be
too long; a listing alone needs neither settings nor a machine nor a window. -/

namespace Chip8.Program

/-- Why a run breaks off without a status of its own. -/
inductive Failure
  | valueless (error : CommandLine.Valueless)
  | unnameable (path : String)
  | unmakeable (cause : Wave.Unmakeable)
deriving DecidableEq, Repr

def Failure.message : Failure → String
  | valueless error => error.message
  | unnameable path => Text.Quoted.quote path ++ ": null character in a path"
  | unmakeable cause => cause.message

/-- What comes of a run. One that breaks off has no calls. -/
structure Result where
  status : Except Failure Nat
  lines : List String := []
  notes : List Note := []
  calls : List Call := []

def reject (path reason : String) (lines : List String) : Result :=
  { status := .ok 1, lines, notes := [.rejected path reason] }

def title (path : String) : String := Window.defaultTitle ++ " - " ++ FileStore.baseName path

/-- Why a program cannot be loaded with given options. -/
inductive LoadError
  | config (error : Config.Invalid)
  | tooLarge (error : Rom.TooLarge)

def LoadError.message : LoadError → String
  | config error => error.message
  | tooLarge error => error.message

def load (bytes : List UInt8) (options : Config.Options) (random : ByteSource) :
    Except LoadError Emulator := do
  let config ← (Config.ofOptions options).mapError .config
  let rom ← (Rom.ofBytes bytes).mapError .tooLarge
  return Emulator.start rom config random

def runWindow (emulator : Emulator) (path : String) (devices : Devices) :
    Except Wave.Unmakeable (Reaction Desktop) :=
  (Desktop.create emulator (title path) devices).map fun opened =>
    opened.andThen (Desktop.perform · .run)

/-- Runs a program whose bytes have been read. Notes of every severity are given. -/
def runBytes (bytes : List UInt8) (arguments : CommandLine.Arguments) (devices : Devices)
    (random : ByteSource) : Result :=
  let path := arguments.program
  let choices := arguments.choices
  if bytes.isEmpty then reject path "file is empty" []
  else
    let lines :=
      if choices.disasm || choices.disasmOnly then Listing.lines bytes Memory.programStart else []
    if choices.disasmOnly then { status := .ok 0, lines }
    else
      match choices.options with
      | .error e => { status := .error (.valueless e), lines }
      | .ok options =>
        match load bytes options random with
        | .error e => reject path e.message lines
        | .ok emulator =>
          let loaded := Emulator.startNote emulator.machine.rom
          match runWindow emulator path devices with
          | .error cause => { status := .error (.unmakeable cause), lines, notes := [loaded] }
          | .ok window =>
            { status := .ok 0, lines, notes := loaded :: window.notes.toList
              calls := window.calls }

/-- Runs what a command line asks for, given what comes of opening the file. -/
def run (arguments : CommandLine.Arguments) (file : Except OpenError (List UInt8))
    (devices : Devices) (random : ByteSource) : Result :=
  let path := arguments.program
  match arguments.choices.logLevel with
  | none => { status := .error (.valueless { setting := .logLevel }) }
  | some least =>
    if !FileStore.isNameable path then { status := .error (.unnameable path) }
    else
      let result : Result :=
        match file with
        | .error e => { status := .ok 1, notes := [.unopened path (e.message path)] }
        | .ok bytes => runBytes bytes arguments devices random
      { result with notes := Note.shown least result.notes }

/-- A note as it is shown. -/
def noteLine (note : Note) : String := "[" ++ note.severity.name ++ "]:  " ++ note.message

/-- What is shown to those who ask for help. -/
def helpLines : List String :=
  "usage: cat-chip8 [switches] program" :: CommandLine.Switch.all.map fun s => "  " ++ s.summary

def misuseLine (m : CommandLine.Misuse) : String := "cat-chip8: error: " ++ m.message

def failureLine (f : Failure) : String := "cat-chip8: " ++ f.message

/-- The exit status of a run, also of one that breaks off. -/
def Result.exitStatus (r : Result) : Nat :=
  match r.status with
  | .ok status => status
  | .error _ => 1

/-- The exit status when there is no run. -/
def stopStatus : CommandLine.Stop → Nat
  | .help => 0
  | .misuse _ => 2

end Chip8.Program
