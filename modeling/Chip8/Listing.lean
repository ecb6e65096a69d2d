import Chip8.Instruction.Text

/-! The listing of a program: one line for each word, with its address. Words are
big-endian and follow each other from the origin; a last byte without a partner is
the high byte of a word that ends in zero. -/

namespace Chip8.Listing

def words : List UInt8 → List Word
  | [] => []
  | [high] => [Word.ofBytes high 0]
  | high :: low :: rest => Word.ofBytes high low :: words rest

def entries (program : List UInt8) (origin : Int) : List (Int × Instruction) :=
  (words program).mapIdx fun k w => (origin + 2 * k, Instruction.decode w)

def line (address : Int) (i : Instruction) : String :=
  "0x" ++ Text.Hex.signedPadded 4 address ++ ": " ++ i.text

def lines (program : List UInt8) (origin : Int) : List String :=
  (entries program origin).map fun (address, i) => line address i

theorem length_words (program : List UInt8) :
    (words program).length = (program.length + 1) / 2 := by
  fun_induction words program with
  | case1 => rfl
  | case2 => simp
  | case3 high low rest ih =>
    simp only [List.length_cons, ih]
    omega

end Chip8.Listing
