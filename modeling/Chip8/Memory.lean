/-! The memory of the machine, its layout and the built-in font. The font lies at
the bottom, five bytes to a digit; programs are loaded at `programStart` and end
before the last cell. A stretch of cells is replaced as a whole (`splice?`), at
power-on as well as by instructions; a stretch that all lies in memory can be. -/

namespace Chip8

/-- The entries of a vector with those in a stretch of it replaced, unless that
leaves more or fewer entries than there were. A stretch that sticks out is cut off. -/
def splice? {α : Type} {n : Nat} (entries : Vector α n) (start length : Nat) (new : List α) :
    Option (Vector α n) :=
  let all := entries.toList.take start ++ new ++ entries.toList.drop (start + length)
  if h : all.length = n then some ⟨all.toArray, by simpa using h⟩ else none

theorem splice?_eq_some {α : Type} {n : Nat} {entries after : Vector α n} {start length : Nat}
    {new : List α} (size : new.length = length) (fits : start + length ≤ n)
    (agree : ∀ i (h : i < n),
      after[i] = if start ≤ i then new[i - start]?.getD entries[i] else entries[i]) :
    splice? entries start length new = some after := by
  have count : (entries.toList.take start ++ new ++
      entries.toList.drop (start + length)).length = n := by
    simp; omega
  rw [splice?, dif_pos count, Option.some.injEq]
  ext i h
  rw [agree i h]
  simp only [Vector.getElem_mk, List.getElem_toArray, List.append_assoc]
  by_cases before : i < start
  · have inside : i < (entries.toList.take start).length := by simp; omega
    rw [List.getElem_append_left inside, if_neg (by omega)]
    simp
  · have past : (entries.toList.take start).length ≤ i := by simp; omega
    rw [List.getElem_append_right past, if_pos (by omega)]
    have place : i - (entries.toList.take start).length = i - start := by
      simp; omega
    by_cases within : i - start < new.length
    · simp only [place]
      rw [List.getElem_append_left within, List.getElem?_eq_getElem within, Option.getD_some]
    · simp only [place]
      rw [List.getElem_append_right (by omega), List.getElem?_eq_none (by omega), Option.getD_none]
      simp only [List.getElem_drop, Vector.getElem_toList]
      congr 1
      omega

abbrev Memory := Vector UInt8 4096

namespace Memory

def programStart : Nat := 0x200

/-- One cell short of what would fit. -/
def longestProgram : Nat := 4096 - programStart - 1

def glyphHeight : Nat := 5

/-- The digits from 0 to F, four pixels wide. -/
def font : List UInt8 :=
  [0xF0, 0x90, 0x90, 0x90, 0xF0,
   0x20, 0x60, 0x20, 0x20, 0x70,
   0xF0, 0x10, 0xF0, 0x80, 0xF0,
   0xF0, 0x10, 0xF0, 0x10, 0xF0,
   0x90, 0x90, 0xF0, 0x10, 0x10,
   0xF0, 0x80, 0xF0, 0x10, 0xF0,
   0xF0, 0x80, 0xF0, 0x90, 0xF0,
   0xF0, 0x10, 0x20, 0x40, 0x40,
   0xF0, 0x90, 0xF0, 0x90, 0xF0,
   0xF0, 0x90, 0xF0, 0x10, 0xF0,
   0xF0, 0x90, 0xF0, 0x90, 0x90,
   0xE0, 0x90, 0xE0, 0x90, 0xE0,
   0xF0, 0x80, 0x80, 0x80, 0xF0,
   0xE0, 0x90, 0x90, 0x90, 0xE0,
   0xF0, 0x80, 0xF0, 0x80, 0xF0,
   0xF0, 0x80, 0xF0, 0x80, 0x80]

/-- The cell at an address; zero where there is none. -/
def byte (m : Memory) (address : Nat) : UInt8 := m[address]?.getD 0

def slice (m : Memory) (address length : Nat) : List UInt8 :=
  (List.range length).map fun k => m.byte (address + k)

/-- Writes bytes one after the other; those that fall outside are lost. -/
def write (m : Memory) (address : Nat) : List UInt8 → Memory
  | [] => m
  | b :: rest => write (m.setIfInBounds address b) (address + 1) rest

def zeros : Memory := Vector.replicate 4096 0

@[simp] theorem length_font : font.length = 16 * glyphHeight := rfl

@[simp] theorem length_slice (m : Memory) (address length : Nat) :
    (m.slice address length).length = length := by
  simp [slice]

theorem getElem_write (m : Memory) (address : Nat) (bytes : List UInt8) (i : Nat) (h : i < 4096) :
    (m.write address bytes)[i] =
      if address ≤ i then bytes[i - address]?.getD m[i] else m[i] := by
  induction bytes generalizing m address with
  | nil => simp [write]
  | cons b rest ih =>
    rw [write, ih, Vector.getElem_setIfInBounds]
    by_cases below : address ≤ i
    · by_cases here : address = i
      · subst here
        have after : ¬ address + 1 ≤ address := by omega
        simp [after]
      · have after : address + 1 ≤ i := by omega
        have shift : i - address = (i - (address + 1)) + 1 := by omega
        simp [below, here, after, shift]
    · have after : ¬ address + 1 ≤ i := by omega
      have here : address ≠ i := by omega
      simp [below, after, here]

theorem splice?_write (m : Memory) {address length : Nat} {bytes : List UInt8}
    (size : bytes.length = length) (fits : address + length ≤ 4096) :
    splice? m address length bytes = some (m.write address bytes) :=
  splice?_eq_some size fits fun i h => m.getElem_write address bytes i h

/-- Replaces as many cells as there are bytes, all of which have to be there. -/
@[irreducible]
def load (m : Memory) (address : Nat) (bytes : List UInt8)
    (fits : address + bytes.length ≤ 4096) : Memory :=
  (splice? m address bytes.length bytes).get (by rw [m.splice?_write rfl fits]; rfl)

theorem load_eq_write (m : Memory) {address : Nat} {bytes : List UInt8}
    (fits : address + bytes.length ≤ 4096) : m.load address bytes fits = m.write address bytes := by
  simp only [load, m.splice?_write rfl fits, Option.get_some]

theorem programStart_add_le {program : List UInt8} (fits : program.length ≤ longestProgram) :
    programStart + program.length ≤ 4096 := by
  simp only [longestProgram, programStart] at *
  omega

/-- The memory at power-on: the font, the program, and zeros. -/
def initial (program : List UInt8) (fits : program.length ≤ longestProgram) : Memory :=
  (zeros.load 0 font (by decide)).load programStart program (programStart_add_le fits)

theorem initial_eq_write {program : List UInt8} (fits : program.length ≤ longestProgram) :
    initial program fits = (zeros.write 0 font).write programStart program := by
  rw [initial, load_eq_write, load_eq_write]

end Memory

end Chip8
