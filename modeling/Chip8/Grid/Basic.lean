/-! Grids of pixels that are on or off, stored row by row. Any two integers name a
pixel: they are taken modulo the sides, so a grid is a torus to those who index
it. A grid without area has no pixel to name. The mark `dirty` goes up with every
write and comes down only by `clean`, so whoever shows the grid knows when to show
it again. -/

namespace Chip8

structure Grid (width height : Nat) where
  pixels : Vector Bool (width * height)
  dirty : Bool
deriving DecidableEq

namespace Grid

/-- How a use of a grid can fail. -/
inductive Misuse
  | noArea
  | rowCount (found : Nat) (expected : Int)
deriving DecidableEq, Repr

def Misuse.message : Misuse → String
  | noArea => "grid has no pixels"
  | rowCount found expected =>
    "sprite has " ++ toString found ++ " rows, expected " ++ toString expected

theorem index_lt {width height : Nat} (h : 0 < width ∧ 0 < height) (x y : Int) :
    (y % height).toNat * width + (x % width).toNat < width * height := by
  have hx : (x % width).toNat < width := by
    have := Int.emod_lt_of_pos x (show (0 : Int) < width by omega)
    omega
  have hy : (y % height).toNat < height := by
    have := Int.emod_lt_of_pos y (show (0 : Int) < height by omega)
    omega
  calc (y % height).toNat * width + (x % width).toNat
      < (y % height).toNat * width + width := by omega
    _ = ((y % height).toNat + 1) * width := by rw [Nat.add_mul, Nat.one_mul]
    _ ≤ height * width := Nat.mul_le_mul_right width hy
    _ = width * height := Nat.mul_comm height width

/-- The place of a pixel in the row-by-row order. -/
def cell? (width height : Nat) (x y : Int) : Option (Fin (width * height)) :=
  if h : 0 < width ∧ 0 < height then
    some ⟨(y % height).toNat * width + (x % width).toNat, index_lt h x y⟩
  else none

variable {width height : Nat}

def blank (width height : Nat) : Grid width height where
  pixels := Vector.replicate (width * height) false
  dirty := false

def pixel (g : Grid width height) (cell : Fin (width * height)) : Bool := g.pixels[cell]

def put (g : Grid width height) (cell : Fin (width * height)) (on : Bool) : Grid width height where
  pixels := g.pixels.set cell on
  dirty := true

def get (g : Grid width height) (x y : Int) : Except Misuse Bool :=
  match cell? width height x y with
  | some cell => .ok (g.pixel cell)
  | none => .error .noArea

def set (g : Grid width height) (x y : Int) (on : Bool) : Except Misuse (Grid width height) :=
  match cell? width height x y with
  | some cell => .ok (g.put cell on)
  | none => .error .noArea

def clear (_ : Grid width height) : Grid width height :=
  { blank width height with dirty := true }

def clean (g : Grid width height) : Grid width height := { g with dirty := false }

/-- The grid, row by row, with what stands for a pixel that is on and for one that
is off. -/
def paint {α : Type} (g : Grid width height) (on off : α) : List α :=
  g.pixels.toList.map fun pixel => if pixel then on else off

@[simp] theorem pixels_clean (g : Grid width height) : g.clean.pixels = g.pixels := rfl

theorem pixel_put (g : Grid width height) (cell other : Fin (width * height)) (on : Bool) :
    (g.put cell on).pixel other = if cell = other then on else g.pixel other := by
  simp only [put, pixel, Fin.getElem_fin, Vector.getElem_set, Fin.ext_iff]

@[simp] theorem length_paint {α : Type} (g : Grid width height) (on off : α) :
    (g.paint on off).length = width * height := by
  simp [paint]

theorem getElem?_paint {α : Type} (g : Grid width height) (on off : α)
    (cell : Fin (width * height)) :
    (g.paint on off)[cell.val]? = some (if g.pixel cell then on else off) := by
  have here : g.pixels.toList[cell.val]? = some (g.pixel cell) := by simp [pixel]
  rw [paint, List.getElem?_map, here]
  rfl

end Grid

end Chip8
