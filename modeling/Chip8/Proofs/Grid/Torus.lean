import Chip8.Grid.Basic

/-! Places on the torus. Every cell of a grid lies in one column and one row (`exists_spot`,
`spot_inj`). Two integers name the cell whose column and row they leave as remainders, and no
other (`cell?_eq_some_iff`). -/

namespace Chip8.Grid

variable {width height : Nat} {column other : Fin width} {row further : Fin height}

/-- The cell in a column and a row. -/
def spot (column : Fin width) (row : Fin height) : Fin (width * height) :=
  ⟨row * width + column, by
    have rowEnd : (row + 1) * width ≤ height * width := Nat.mul_le_mul_right width row.isLt
    rw [Nat.succ_mul] at rowEnd
    rw [Nat.mul_comm width]
    omega⟩

theorem val_spot_div : (spot column row).val / width = row := by
  have wide : 0 < width := Nat.zero_lt_of_lt column.isLt
  show (row.val * width + column.val) / width = row
  rw [Nat.add_comm, Nat.add_mul_div_right _ _ wide, Nat.div_eq_of_lt column.isLt, Nat.zero_add]

theorem val_spot_mod : (spot column row).val % width = column := by
  show (row.val * width + column.val) % width = column
  rw [Nat.mul_add_mod_self_right, Nat.mod_eq_of_lt column.isLt]

theorem spot_inj : spot column row = spot other further ↔ column = other ∧ row = further := by
  constructor
  · intro same
    have value := congrArg Fin.val same
    have columns := congrArg (· % width) value
    have rows := congrArg (· / width) value
    simp only [val_spot_mod, val_spot_div] at columns rows
    exact ⟨Fin.ext columns, Fin.ext rows⟩
  · rintro ⟨rfl, rfl⟩
    rfl

theorem exists_spot (cell : Fin (width * height)) :
    ∃ (column : Fin width) (row : Fin height), cell = spot column row := by
  have area : 0 < width * height := Nat.zero_lt_of_lt cell.isLt
  have wide : 0 < width := Nat.pos_of_mul_pos_right area
  have low : cell.val / width < height := Nat.div_lt_of_lt_mul cell.isLt
  refine ⟨⟨cell.val % width, Nat.mod_lt _ wide⟩, ⟨cell.val / width, low⟩, Fin.ext ?_⟩
  exact (Nat.div_add_mod' cell.val width).symm

theorem cell?_eq_some_iff (x y : Int) (column : Fin width) (row : Fin height) :
    cell? width height x y = some (spot column row) ↔
      x % width = column ∧ y % height = row := by
  have wide : 0 < width := Nat.zero_lt_of_lt column.isLt
  have high : 0 < height := Nat.zero_lt_of_lt row.isLt
  have across := Int.emod_nonneg x (show (width : Int) ≠ 0 by omega)
  have down := Int.emod_nonneg y (show (height : Int) ≠ 0 by omega)
  have inside : (x % width).toNat < width := by
    have := Int.emod_lt_of_pos x (show (0 : Int) < width by omega)
    omega
  have above : (y % height).toNat < height := by
    have := Int.emod_lt_of_pos y (show (0 : Int) < height by omega)
    omega
  have named : cell? width height x y = some (spot ⟨_, inside⟩ ⟨_, above⟩) :=
    dif_pos ⟨wide, high⟩
  rw [named, Option.some.injEq, spot_inj, Fin.ext_iff, Fin.ext_iff]
  simp only
  omega

/-- Inside the grid a pixel is named by its column and its row alone. -/
theorem get_spot (g : Grid width height) (column : Fin width) (row : Fin height) :
    g.get column.val row.val = .ok (g.pixel (spot column row)) := by
  have named : cell? width height column.val row.val = some (spot column row) := by
    rw [cell?_eq_some_iff]
    exact ⟨Int.emod_eq_of_lt (by omega) (by omega), Int.emod_eq_of_lt (by omega) (by omega)⟩
  rw [get, named]

end Chip8.Grid
