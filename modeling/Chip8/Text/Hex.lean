/-! Hexadecimal spellings. A number is written with as few digits as it has, or
filled up with zeros to a least width; it is never cut. A signed number carries
its sign in front, and the sign counts towards the width. -/

namespace Chip8.Text.Hex

def lower (n : Nat) : String := String.ofList (Nat.toDigits 16 n)

def upperDigits (width n : Nat) : List Char :=
  ((Nat.toDigits 16 n).map Char.toUpper).leftpad width '0'

def upper (n : Nat) : String := String.ofList (upperDigits 0 n)

def upperPadded (width n : Nat) : String := String.ofList (upperDigits width n)

def signedPadded (width : Nat) : Int → String
  | .ofNat n => upperPadded width n
  | .negSucc n => "-" ++ upperPadded (width - 1) (n + 1)

/-- The mark `0x` stands between the sign and the digits. -/
def signedMarked : Int → String
  | .ofNat n => "0x" ++ lower n
  | .negSucc n => "-0x" ++ lower (n + 1)

end Chip8.Text.Hex
