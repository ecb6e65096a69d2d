import Chip8.Colour
import Chip8.CommandLine.Switch
import Chip8.Text.Quoted

/-! What can be wrong with a command line, and how it is said. -/

namespace Chip8.CommandLine

/-- What can be wrong with one switch. -/
inductive Complaint
  | noValue
  /-- A value is attached to a flag. -/
  | unwantedValue (text : String)
  /-- The text is no number; `kind` is the name of the number that is wanted. -/
  | noNumber (kind text : String)
  | outside (value : Int) (range : String)
  | noColour (error : Colour.Unreadable)
  | noChoice (text : String) (choices : List String)

def Complaint.message : Complaint → String
  | noValue => "expected one argument"
  | unwantedValue text => "ignored explicit argument " ++ Text.Quoted.quote text
  | noNumber kind text => "invalid " ++ kind ++ " value: " ++ Text.Quoted.quote text
  | outside value range => toString value ++ " is not in " ++ range
  | noColour error => error.message
  | noChoice text choices =>
    "invalid choice: " ++ Text.Quoted.quote text ++ " (choose from " ++
      ", ".intercalate (choices.map Text.Quoted.quote) ++ ")"

inductive Misuse
  | ambiguous (text : String) (candidates : List String)
  | switch (switch : Switch) (complaint : Complaint)
  | noProgram
  | unrecognized (texts : List String)

def Misuse.message : Misuse → String
  | ambiguous text candidates =>
    "ambiguous option: " ++ text ++ " could match " ++ ", ".intercalate candidates
  | switch s complaint => "argument " ++ s.name ++ ": " ++ complaint.message
  | noProgram => "the following arguments are required: program"
  | unrecognized texts => "unrecognized arguments: " ++ " ".intercalate texts

end Chip8.CommandLine
