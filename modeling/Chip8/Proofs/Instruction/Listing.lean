import Chip8.Listing
import Chip8.Proofs.Instruction.Text

/-! A listing keeps the program. It has a line for every word, and as a line gives its word
back, so do the lines the words and these the bytes; only whether a program of odd length was
filled up with a zero cannot be told (`lines_lossless`). -/

namespace Chip8.Listing

/-- The program with a zero behind it if its length is odd. -/
def padded (program : List UInt8) : List UInt8 :=
  if program.length % 2 = 1 then program ++ [0] else program

theorem padded_cons_cons (high low : UInt8) (rest : List UInt8) :
    padded (high :: low :: rest) = high :: low :: padded rest := by
  have parity : (high :: low :: rest).length % 2 = rest.length % 2 := by
    simp only [List.length_cons]
    omega
  rw [padded, padded, parity]
  split <;> rfl

def bytes (w : Word) : List UInt8 := [UInt8.ofNat (w.toNat / 256), UInt8.ofNat w.toNat]

theorem bytes_ofBytes (high low : UInt8) : bytes (Word.ofBytes high low) = [high, low] := by
  have above := high.toNat_lt
  have below := low.toNat_lt
  have value : (Word.ofBytes high low).toNat = high.toNat * 256 + low.toNat := by
    rw [Word.ofBytes, UInt16.toNat_ofNat']
    omega
  have first : UInt8.ofNat ((high.toNat * 256 + low.toNat) / 256) = high := by
    rw [← UInt8.toNat_inj, UInt8.toNat_ofNat']
    omega
  have second : UInt8.ofNat (high.toNat * 256 + low.toNat) = low := by
    rw [← UInt8.toNat_inj, UInt8.toNat_ofNat']
    omega
  rw [bytes, value, first, second]

/-- The words of a program hold all its bytes. -/
theorem flatMap_bytes_words (program : List UInt8) :
    (words program).flatMap bytes = padded program := by
  fun_induction words program with
  | case1 => rfl
  | case2 high => simp [bytes_ofBytes, padded]
  | case3 high low rest ih =>
    rw [List.flatMap_cons, ih, bytes_ofBytes, padded_cons_cons]
    rfl

theorem words_padded (program : List UInt8) : words (padded program) = words program := by
  fun_induction words program with
  | case1 => rfl
  | case2 high => rfl
  | case3 high low rest ih => rw [padded_cons_cons, words, ih]

theorem words_eq_iff (a b : List UInt8) : words a = words b ↔ padded a = padded b := by
  constructor
  · intro same
    rw [← flatMap_bytes_words, same, flatMap_bytes_words]
  · intro same
    rw [← words_padded, same, words_padded]

theorem getElem?_lines (program : List UInt8) (origin : Int) (k : Nat) :
    (lines program origin)[k]? =
      (words program)[k]?.map fun w => line (origin + 2 * k) (Instruction.decode w) := by
  simp [lines, entries, Function.comp_def]

theorem length_lines (program : List UInt8) (origin : Int) :
    (lines program origin).length = (program.length + 1) / 2 := by
  rw [lines, List.length_map, entries, List.length_mapIdx, length_words]

theorem line_inj {address : Int} {v w : Word} :
    line address (Instruction.decode v) = line address (Instruction.decode w) ↔ v = w := by
  rw [line, line, String.append_right_inj, Instruction.decode_text_inj]

theorem words_eq_of_lines {a b : List UInt8} {origin : Int}
    (same : lines a origin = lines b origin) : words a = words b := by
  apply List.ext_getElem?
  intro k
  have listed := congrArg (·[k]?) same
  simp only [getElem?_lines] at listed
  exact Option.map_injective (fun v w => line_inj.mp) listed

theorem lines_lossless (origin : Int) :
    (∀ program, (lines program origin).length = (program.length + 1) / 2) ∧
      ∀ a b, lines a origin = lines b origin ↔ padded a = padded b := by
  refine ⟨fun program => length_lines program origin, fun a b => ?_⟩
  rw [← words_eq_iff]
  constructor
  · exact words_eq_of_lines
  · intro same
    rw [lines, lines, entries, entries, same]

end Chip8.Listing
