import Chip8.Proofs.Instruction.Encoding
import Chip8.Proofs.Text.Hex

/-! The text of an instruction gives the word back. The mnemonic fills the first five
characters and settles which operands follow; each of them is as long as its field demands, so
the text falls apart into its operands in one way only. Two words that are written alike are
one word (`decode_text_inj`). -/

namespace Chip8

theorem Text.append_inj {first second rest other : String} (same : first ++ rest = second ++ other)
    (size : first.length = second.length) : first = second ∧ rest = other := by
  have chars : first.toList ++ rest.toList = second.toList ++ other.toList := by
    rw [← String.toList_append, same, String.toList_append]
  obtain ⟨front, back⟩ := List.append_inj chars size
  exact ⟨String.toList_inj.mp front, String.toList_inj.mp back⟩

namespace Operand

open Text.Hex

/-- How many characters an operand takes. -/
def width : Operand → Nat
  | x _ | y _ => 2
  | n _ => 3
  | nn _ => 4
  | nnn _ => 5
  | raw _ => 6

variable {a b : Operand}

theorem length_text (a : Operand) : a.text.length = a.width := by
  cases a with
  | x r | y r | n r =>
    rw [text, upper_eq, String.length_append, length_upperPadded (by decide) r.isLt]
    rfl
  | nn byte =>
    rw [text, String.length_append, length_upperPadded (by decide) byte.toNat_lt]
    rfl
  | nnn address =>
    rw [text, String.length_append, length_upperPadded (by decide) address.isLt]
    rfl
  | raw word =>
    rw [text, String.length_append, length_upperPadded (by decide) word.toNat_lt]
    rfl

theorem width_eq_of_field (same : a.field = b.field) : a.width = b.width := by
  cases a <;> cases b <;> simp [field] at same <;> rfl

theorem eq_of_text (same : a.field = b.field) (text : a.text = b.text) : a = b := by
  cases a <;> cases b <;> simp only [field, String.reduceEq] at same
  all_goals simpa [Operand.text, upper_eq, Fin.ext_iff, UInt8.toNat_inj, UInt16.toNat_inj] using text

/-- Operands that fill the same fields are told apart by the text that they make together. -/
theorem eq_of_intercalate {as bs : List Operand} (same : as.map field = bs.map field)
    (text : ", ".intercalate (as.map Operand.text) = ", ".intercalate (bs.map Operand.text)) :
    as = bs := by
  induction as generalizing bs with
  | nil => simpa using same
  | cons a as ih =>
    cases bs with
    | nil => cases same
    | cons b bs =>
      obtain ⟨first, rest⟩ := List.cons.inj same
      have size : a.text.length = b.text.length := by
        rw [length_text, length_text, width_eq_of_field first]
      cases as with
      | nil =>
        obtain rfl : bs = [] := by simpa using rest
        simp only [List.map_cons, List.map_nil, String.intercalate_singleton] at text
        rw [eq_of_text first text]
      | cons next as =>
        cases bs with
        | nil => cases rest
        | cons other bs =>
          simp only [List.map_cons, String.intercalate_cons_cons, String.append_assoc] at text
          obtain ⟨front, back⟩ := Text.append_inj text size
          rw [String.append_right_inj] at back
          rw [eq_of_text first front, ih rest back]

end Operand

namespace Instruction

variable {i j : Instruction}

theorem mnemonic_short (i : Instruction) :
    i.mnemonic.toList.length ≤ 5 ∧ ' ' ∉ i.mnemonic.toList := by
  cases i with
  | combine operation => cases operation <;> simp [mnemonic, Operation.mnemonic]
  | _ => simp [mnemonic]

/-- A mnemonic with the blanks that fill it up. -/
def head (i : Instruction) : String := String.ofList (i.mnemonic.toList.rightpad 5 ' ')

/-- What follows a mnemonic. -/
def tail (i : Instruction) : String :=
  if i.operands = [] then "" else " " ++ ", ".intercalate (i.operands.map Operand.text)

theorem text_eq (i : Instruction) : i.text = i.head ++ i.tail := by
  rw [text, tail]
  cases i.operands with
  | nil => simp [head]
  | cons => simp [head, String.append_assoc]

theorem length_head (i : Instruction) : i.head.length = 5 := by
  have short := i.mnemonic_short.1
  simp only [head, List.rightpad, String.length_ofList, List.length_append, List.length_replicate]
  omega

theorem mnemonic_eq_of_head (same : i.head = j.head) : i.mnemonic = j.mnemonic := by
  have chars (k : Instruction) :
      (k.mnemonic.toList.rightpad 5 ' ').takeWhile (· != ' ') = k.mnemonic.toList := by
    rw [List.rightpad, List.takeWhile_append_of_pos]
    · simp
    · intro c inside
      have other : c ≠ ' ' := fun blank => k.mnemonic_short.2 (blank ▸ inside)
      simpa using other
  rw [← String.toList_inj, ← chars i, ← chars j, String.ofList_injective same]

/-- The text of an instruction falls apart in one way only. -/
theorem written_eq_of_text (same : i.text = j.text) :
    i.mnemonic = j.mnemonic ∧ i.operands = j.operands := by
  rw [text_eq, text_eq] at same
  obtain ⟨heads, tails⟩ := Text.append_inj same (by rw [length_head, length_head])
  have mnemonics := mnemonic_eq_of_head heads
  have fields : i.operands.map Operand.field = j.operands.map Operand.field := by
    rw [fields_operands, fields_operands, mnemonics]
  have together : i.operands = [] ↔ j.operands = [] := by
    rw [← List.map_eq_nil_iff (f := Operand.field), fields, List.map_eq_nil_iff]
  refine ⟨mnemonics, ?_⟩
  rw [tail, tail] at tails
  by_cases none : i.operands = []
  · rw [none, together.mp none]
  · rw [if_neg none, if_neg (mt together.mpr none), String.append_right_inj] at tails
    exact Operand.eq_of_intercalate fields tails

theorem code_eq_of_text (same : i.text = j.text) : i.code = j.code := by
  obtain ⟨mnemonics, operands⟩ := written_eq_of_text same
  rw [← layout_operands, ← layout_operands, mnemonics, operands]

theorem decode_text_inj {v w : Word} : (decode v).text = (decode w).text ↔ v = w := by
  constructor
  · intro same
    have codes := code_eq_of_text same
    rw [code_decode, code_decode] at codes
    exact UInt16.toNat_inj.mp codes
  · rintro rfl
    rfl

end Instruction

end Chip8
