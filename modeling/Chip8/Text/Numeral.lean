import Chip8.Text.Blank
import Chip8.Text.DecimalDigit

/-! Integer numerals as a user types them: blanks around, at most one sign, then
digits in which single underscores may stand between two digits. A digit of any
script counts as its value; letters are digits only if they are ASCII. Sixteen is
the radix that may announce itself, by `0x` and then perhaps one underscore; ten
is the one that refuses numerals of excessive length. -/

namespace Chip8.Text.Numeral

structure Radix where
  base : Nat
  /-- Whether the digits may be announced by `0x`. -/
  announced : Bool
  /-- The greatest number of digits that is still read, leading zeros included. -/
  longest : Option Nat

def decimal : Radix := ⟨10, false, some 4300⟩

def hexadecimal : Radix := ⟨16, true, none⟩

/-- The ASCII character that a character stands for in a numeral, if there is one. -/
def plain (c : Char) : Char :=
  if c.toNat < 128 then c
  else match DecimalDigit.value? c with
    | some d => Nat.digitChar d
    | none => if isBlank c then ' ' else c

def digitValue? (base : Nat) (c : Char) : Option Nat :=
  let value? :=
    if '0' ≤ c && c ≤ '9' then some (c.toNat - '0'.toNat)
    else if 'a' ≤ c && c ≤ 'z' then some (c.toNat - 'a'.toNat + 10)
    else if 'A' ≤ c && c ≤ 'Z' then some (c.toNat - 'A'.toNat + 10)
    else none
  value?.filter (· < base)

/-- One digit at least; an underscore only where a digit stands on either side of it. -/
def digits? (base : Nat) : List Char → Option (List Nat)
  | [] => none
  | [c] => (digitValue? base c).map ([·])
  | c :: '_' :: rest => do
    let d ← digitValue? base c
    let ds ← digits? base rest
    return d :: ds
  | c :: rest => do
    let d ← digitValue? base c
    let ds ← digits? base rest
    return d :: ds

def valueOf (base : Nat) (digits : List Nat) : Nat :=
  digits.foldl (fun value d => value * base + d) 0

/-- Whether the sign is a minus, and what follows the sign. -/
def splitSign : List Char → Bool × List Char
  | '-' :: rest => (true, rest)
  | '+' :: rest => (false, rest)
  | text => (false, text)

def dropAnnouncement : List Char → List Char
  | '0' :: 'x' :: '_' :: rest => rest
  | '0' :: 'X' :: '_' :: rest => rest
  | '0' :: 'x' :: rest => rest
  | '0' :: 'X' :: rest => rest
  | text => text

def read? (radix : Radix) (text : List Char) : Option Int := do
  let (negative, body) := splitSign (trim isAsciiBlank (text.map plain))
  let digits ← digits? radix.base (if radix.announced then dropAnnouncement body else body)
  if radix.longest.any (· < digits.length) then none
  else
    let value : Int := valueOf radix.base digits
    return if negative then -value else value

theorem digitValue?_lt {base : Nat} {c : Char} {d : Nat} (h : digitValue? base c = some d) :
    d < base := by
  obtain ⟨_, below⟩ := Option.filter_eq_some_iff.1 h
  simpa using below

theorem digits?_lt {base : Nat} {text : List Char} {ds : List Nat}
    (h : digits? base text = some ds) : ∀ d ∈ ds, d < base := by
  fun_induction digits? base text generalizing ds with
  | case1 => simp at h
  | case2 c =>
    obtain ⟨d, hd, rfl⟩ := Option.map_eq_some_iff.1 h
    simpa using digitValue?_lt hd
  | case3 c rest ih | case4 c rest _ _ ih =>
    simp only [Option.bind_eq_bind, Option.bind_eq_some_iff, Option.pure_def,
      Option.some.injEq] at h
    obtain ⟨d, hd, tail, htail, rfl⟩ := h
    simpa using ⟨digitValue?_lt hd, ih htail⟩

end Chip8.Text.Numeral
