import Chip8.Grid.Basic

/-! Sprites. A sprite is eight pixels wide and has a number for each row, of which
the low eight bits are its pixels, the highest of them leftmost. Drawing turns
over every pixel of the grid that a pixel of the sprite falls on, once for each
that does; a pixel that goes out thereby is a collision. Past the right and the
lower edge a sprite is cut off or, if it wraps, comes in again on the opposite
side. -/

namespace Chip8

namespace Sprite

def isLit (row : Int) (column : Nat) : Bool := (row >>> (7 - column)) % 2 == 1

/-- The pixels of a sprite as row and column, row by row and from left to right. -/
def lit (rows : List Int) : List (Nat × Nat) :=
  rows.zipIdx.flatMap fun (row, r) => ((List.range 8).filter (isLit row)).map (r, ·)

end Sprite

namespace Grid

variable {width height : Nat}

/-- The pixels that a sprite falls on, in the order in which it turns them over. -/
def targets (width height : Nat) (x y : Int) (rows : List Int) (wrap : Bool) :
    List (Fin (width * height)) :=
  (Sprite.lit rows).filterMap fun (r, c) =>
    if wrap || (x % width + c < width && y % height + r < height) then
      cell? width height (x + c) (y + r)
    else none

/-- Turns one pixel over and remembers whether one has gone out so far. -/
def strike (state : Grid width height × Bool) (cell : Fin (width * height)) :
    Grid width height × Bool :=
  let (g, collision) := state
  let old := g.pixel cell
  (g.put cell (!old), collision || old)

/-- The grid after the sprite is drawn, and whether there was a collision. -/
def draw (g : Grid width height) (x y : Int) (rows : List Int) (wrap : Bool) :
    Grid width height × Bool :=
  (targets width height x y rows wrap).foldl strike (g, false)

/-- Draws a sprite that claims a number of rows. The claim is looked at before the
grid is. -/
def compose (g : Grid width height) (x y claimed : Int) (rows : List Int) (wrap : Bool) :
    Except Misuse (Grid width height × Bool) :=
  if (rows.length : Int) ≠ claimed then .error (.rowCount rows.length claimed)
  else if width = 0 ∨ height = 0 then .error .noArea
  else .ok (g.draw x y rows wrap)

end Grid

end Chip8
