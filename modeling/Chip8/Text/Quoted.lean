import Chip8.Text.Hex
import Chip8.Text.Printable

/-! Text quoted for a message. Single quotes enclose it, unless it holds a single
quote and no double one; the enclosing quote and the backslash are escaped inside,
line feed, carriage return and tab have letters, and any other character that
cannot be shown is given by its code point in two, four or eight hexadecimal
digits. -/

namespace Chip8.Text.Quoted

def enclosure (text : List Char) : Char :=
  if text.contains '\'' && !text.contains '"' then '"' else '\''

def codePoint (n : Nat) : List Char :=
  let digits := Nat.toDigits 16 n
  if n < 0x100 then '\\' :: 'x' :: digits.leftpad 2 '0'
  else if n < 0x10000 then '\\' :: 'u' :: digits.leftpad 4 '0'
  else '\\' :: 'U' :: digits.leftpad 8 '0'

def escape (quote c : Char) : List Char :=
  if c = quote || c = '\\' then ['\\', c]
  else if c = '\n' then ['\\', 'n']
  else if c = '\r' then ['\\', 'r']
  else if c = '\t' then ['\\', 't']
  else if Printable.isPrintable c then [c]
  else codePoint c.toNat

def quote (text : String) : String :=
  let mark := enclosure text.toList
  String.ofList (mark :: text.toList.flatMap (escape mark) ++ [mark])

end Chip8.Text.Quoted
