import Chip8.CommandLine.Misuse
import Chip8.Text.DecimalDigit

/-! The arguments of a command line, told apart. What begins with a dash is a
switch if it is one or, for long spellings, the beginning of just one; a text may
be attached, by an equals sign or directly to a short spelling. Negative numbers,
texts with a blank in them, a lone dash and the empty text are values. After a
double dash, the separator, everything is. -/

namespace Chip8.CommandLine

inductive Token
  | value (text : String)
  /-- A switch, with the text in the same argument if there is one. -/
  | switch (switch : Switch) (spelling : String) (attached : Option String)
  | unknown (text : String)
deriving DecidableEq, Repr

namespace Token

def isDigit (c : Char) : Bool := (Text.DecimalDigit.value? c).isSome

def isDigits (text : List Char) : Bool := !text.isEmpty && text.all isDigit

/-- A dash and then digits, with a point among or before them if it is followed by
one. A line feed may end it. -/
def isNegativeNumber : List Char → Bool
  | '-' :: rest =>
    let body := if rest.getLast? = some '\n' then rest.dropLast else rest
    isDigits body ||
      match body.dropWhile isDigit with
      | '.' :: places => isDigits places
      | _ => false
  | _ => false

/-- The text before the first equals sign, and the one behind it. -/
def splitEquals (text : List Char) : List Char × Option String :=
  match text.dropWhile (· ≠ '=') with
  | _ :: rest => (text.takeWhile (· ≠ '='), some (String.ofList rest))
  | [] => (text, none)

abbrev Candidate := Switch × String × Option String

/-- The switches whose long spelling begins like the argument does. -/
def longCandidates (text : List Char) : List Candidate :=
  let (start, attached) := splitEquals text
  Switch.table.filterMap fun (spelling, s) =>
    if start.isPrefixOf spelling.toList then some (s, spelling, attached) else none

/-- The switch whose short spelling begins the argument. The rest of the argument is
attached to it. -/
def shortCandidates (text : List Char) : List Candidate :=
  Switch.table.filterMap fun (spelling, s) =>
    if spelling.toList = text.take 2 then some (s, spelling, some (String.ofList (text.drop 2)))
    else none

def candidates (text : List Char) : List Candidate :=
  match text with
  | '-' :: '-' :: _ => longCandidates text
  | _ => shortCandidates text

/-- The switch that an argument spells out in full, up to an equals sign at most. -/
def inFull? (text : List Char) : Option Candidate :=
  let spelled (spelling : List Char) (attached : Option String) : Option Candidate :=
    (Switch.ofSpelling? (String.ofList spelling)).map (·, String.ofList spelling, attached)
  spelled text none <|>
    let (start, attached) := splitEquals text
    if attached.isSome then spelled start attached else none

def classify (text : String) : Except Misuse Token :=
  let chars := text.toList
  match chars with
  | '-' :: _ :: _ =>
    match inFull? chars with
    | some (s, spelling, attached) => .ok (.switch s spelling attached)
    | none =>
      match candidates chars with
      | [(s, spelling, attached)] => .ok (.switch s spelling attached)
      | [] =>
        .ok (if isNegativeNumber chars || chars.contains ' ' then .value text else .unknown text)
      | several => .error (.ambiguous text (several.map fun (_, spelling, _) => spelling))
  | _ => .ok (.value text)

/-- The arguments up to the separator, and those behind it if there is one. -/
structure Line where
  tokens : List Token
  behind : Option (List String)

def classifyAll : List String → Except Misuse Line
  | [] => .ok { tokens := [], behind := none }
  | text :: rest =>
    if text = separator then .ok { tokens := [], behind := some rest }
    else do
      let token ← classify text
      let line ← classifyAll rest
      return { line with tokens := token :: line.tokens }

end Token

end Chip8.CommandLine
