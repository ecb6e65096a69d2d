import Chip8.Text.Hex
import Chip8.Text.Numeral

/-! Hexadecimal spellings read back. However wide a number is written, reading its digits
gives the number (`valueOf_upperDigits`), so two numbers written to one width differ in their
text. A number that fits the width is written in just so many digits. -/

namespace Chip8.Text.Hex

open Numeral

variable {width n : Nat}

theorem digitValue?_digitChar {d : Nat} (h : d < 16) :
    digitValue? 16 d.digitChar.toUpper = some d := by
  revert d
  decide

theorem valueOf_append (base : Nat) (digits : List Nat) (d : Nat) :
    valueOf base (digits ++ [d]) = valueOf base digits * base + d := by
  rw [valueOf, List.foldl_append]
  rfl

theorem valueOf_toDigits (n : Nat) :
    valueOf 16 (((Nat.toDigits 16 n).map Char.toUpper).filterMap (digitValue? 16)) = n := by
  induction n using Nat.strongRecOn with
  | ind n ih =>
    rw [Nat.toDigits_eq_if (by decide)]
    split
    case isTrue small => simp [digitValue?_digitChar small, valueOf]
    case isFalse large =>
      have last : n % 16 < 16 := Nat.mod_lt n (by decide)
      have before := ih (n / 16) (by omega)
      rw [List.map_append, List.filterMap_append, List.map_singleton,
        List.filterMap_cons_some (digitValue?_digitChar last), List.filterMap_nil, valueOf_append,
        before]
      omega

theorem valueOf_replicate_zero (count : Nat) (digits : List Nat) :
    valueOf 16 (List.replicate count 0 ++ digits) = valueOf 16 digits := by
  induction count with
  | zero => rfl
  | succ count ih => simpa [valueOf, List.replicate_succ] using ih

/-- The zeros that fill a number up do not count. -/
theorem valueOf_upperDigits (width n : Nat) :
    valueOf 16 ((upperDigits width n).filterMap (digitValue? 16)) = n := by
  have zero : digitValue? 16 '0' = some 0 := by decide
  rw [upperDigits, List.leftpad, List.filterMap_append, List.filterMap_replicate_of_some zero,
    valueOf_replicate_zero, valueOf_toDigits]

@[simp] theorem upperPadded_inj {a b : Nat} :
    upperPadded width a = upperPadded width b ↔ a = b := by
  constructor
  · intro same
    have digits : upperDigits width a = upperDigits width b := String.ofList_injective same
    rw [← valueOf_upperDigits width a, digits, valueOf_upperDigits]
  · rintro rfl
    rfl

/-- Every number has a digit, so a width of one asks for nothing. -/
theorem upper_eq (n : Nat) : upper n = upperPadded 1 n := by
  have digits : 0 < (Nat.toDigits 16 n).length := Nat.length_toDigits_pos
  have none : 1 - (Nat.toDigits 16 n).length = 0 := by omega
  rw [upper, upperPadded, upperDigits, upperDigits, List.leftpad, List.leftpad, List.length_map,
    none, Nat.zero_sub]

theorem length_upperPadded (positive : 0 < width) (fits : n < Nat.pow 16 width) :
    (upperPadded width n).length = width := by
  have short := (Nat.length_toDigits_le_iff (by decide) positive).mpr fits
  simp only [upperPadded, upperDigits, List.leftpad, String.length_ofList, List.length_append,
    List.length_replicate, List.length_map]
  omega

end Chip8.Text.Hex
