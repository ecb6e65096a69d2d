/-! Blank characters. The wide class holds every character that Unicode counts as
white space, the four information separators included; the narrow class holds the
six ASCII ones. Text is trimmed by the wide class, numerals by the narrow one. -/

namespace Chip8.Text

def isAsciiBlank (c : Char) : Bool :=
  (0x09 ≤ c.toNat && c.toNat ≤ 0x0D) || c.toNat == 0x20

def isBlank (c : Char) : Bool :=
  isAsciiBlank c ||
  (0x1C ≤ c.toNat && c.toNat ≤ 0x1F) ||
  (0x2000 ≤ c.toNat && c.toNat ≤ 0x200A) ||
  [0x85, 0xA0, 0x1680, 0x2028, 0x2029, 0x202F, 0x205F, 0x3000].contains c.toNat

/-- Drops the characters of a class at both ends and keeps those inside. -/
def trim (blank : Char → Bool) (text : List Char) : List Char :=
  ((text.dropWhile blank).reverse.dropWhile blank).reverse

end Chip8.Text
