import Mathlib.Data.Int.ModEq
import Chip8.Proofs.Grid.Torus

/-! Writing. A grid that has pixels is a store with two integers for an address. Two addresses
are of one pixel when they are congruent modulo the sides, and of different pixels when they
are not (`cellAt_eq_iff`). So a write shows at the congruent addresses and nowhere else
(`get_put`), and after any number of writes each address reads what was last written at one
congruent to it (`get_after_writes`). -/

namespace Chip8.Grid

/-- A value for a pixel, and the address to write it at. -/
structure Write where
  x : Int
  y : Int
  on : Bool
deriving DecidableEq

variable {width height : Nat}

/-- Makes one write after the other. -/
def setAll (g : Grid width height) (writes : List Write) : Except Misuse (Grid width height) :=
  writes.foldlM (fun g w => g.set w.x w.y w.on) g

/-- The value that was last written at an address congruent to the given one. -/
def lastWritten (width height : Nat) (x y : Int) (writes : List Write) : Option Bool :=
  (writes.filter fun w => x ≡ w.x [ZMOD width] ∧ y ≡ w.y [ZMOD height]).getLast?.map Write.on

theorem lastWritten_cons (x y : Int) (w : Write) (rest : List Write) :
    lastWritten width height x y (w :: rest) =
      (lastWritten width height x y rest).or
        (if x ≡ w.x [ZMOD width] ∧ y ≡ w.y [ZMOD height] then some w.on else none) := by
  unfold lastWritten
  by_cases meets : x ≡ w.x [ZMOD width] ∧ y ≡ w.y [ZMOD height]
  · rw [List.filter_cons, if_pos (by simpa using meets), if_pos meets, List.getLast?_cons]
    cases (rest.filter _).getLast? <;> rfl
  · rw [List.filter_cons, if_neg (by simpa using meets), if_neg meets, Option.or_none]

/-! ## Addresses -/

/-- Where the pixel at an address stands in the list of all pixels. -/
def flatIndex (width height : Nat) (x y : Int) : Nat :=
  (y % height).toNat * width + (x % width).toNat

def cellAt (area : 0 < width ∧ 0 < height) (x y : Int) : Fin (width * height) :=
  ⟨flatIndex width height x y, index_lt area x y⟩

theorem cell?_eq_cellAt (area : 0 < width ∧ 0 < height) (x y : Int) :
    cell? width height x y = some (cellAt area x y) :=
  dif_pos area

theorem cellAt_eq_iff (area : 0 < width ∧ 0 < height) {x y x' y' : Int} :
    cellAt area x' y' = cellAt area x y ↔ x' ≡ x [ZMOD width] ∧ y' ≡ y [ZMOD height] := by
  obtain ⟨column, row, spotted⟩ := exists_spot (cellAt area x y)
  have named := cell?_eq_cellAt area x y
  rw [spotted, cell?_eq_some_iff] at named
  rw [spotted, ← Option.some_inj, ← cell?_eq_cellAt, cell?_eq_some_iff, ← named.1, ← named.2]
  rfl

/-! ## Reads and writes -/

theorem get_eq_ok (area : 0 < width ∧ 0 < height) (g : Grid width height) (x y : Int) :
    g.get x y = .ok (g.pixel (cellAt area x y)) := by
  rw [get, cell?_eq_cellAt area]

theorem set_eq_ok (area : 0 < width ∧ 0 < height) (g : Grid width height) (x y : Int) (on : Bool) :
    g.set x y on = .ok (g.put (cellAt area x y) on) := by
  rw [set, cell?_eq_cellAt area]

theorem get_put (area : 0 < width ∧ 0 < height) (g : Grid width height) (x y x' y' : Int)
    (on : Bool) :
    (g.put (cellAt area x y) on).get x' y' =
      if x' ≡ x [ZMOD width] ∧ y' ≡ y [ZMOD height] then .ok on else g.get x' y' := by
  rw [get_eq_ok area, get_eq_ok area, pixel_put, apply_ite Except.ok]
  simp only [← cellAt_eq_iff area, eq_comm]

theorem get_setAll (area : 0 < width ∧ 0 < height) (g : Grid width height)
    (writes : List Write) :
    ∃ written, g.setAll writes = .ok written ∧ ∀ x y,
      written.get x y = (lastWritten width height x y writes).elim (g.get x y) .ok := by
  induction writes generalizing g with
  | nil => exact ⟨g, rfl, fun _ _ => rfl⟩
  | cons w rest ih =>
    obtain ⟨written, ok, reads⟩ := ih (g.put (cellAt area w.x w.y) w.on)
    refine ⟨written, ?_, fun x y => ?_⟩
    · rw [setAll, List.foldlM_cons, set_eq_ok area]
      exact ok
    · rw [reads, lastWritten_cons]
      cases lastWritten width height x y rest with
      | some on => rfl
      | none =>
        rw [Option.elim_none, get_put area, Option.none_or]
        split <;> rfl

/-- A grid as a store. Every address has a place in the list of pixels and is read there. What
is written at one takes that place and no other: it is read at the congruent addresses, and
the rest read as before. Of several writes each address reads the last that was made at one
congruent to it. -/
theorem get_after_writes (area : 0 < width ∧ 0 < height) (g : Grid width height) :
    (∀ x y, ∃ inside : flatIndex width height x y < g.pixels.toList.length,
      g.get x y = .ok g.pixels.toList[flatIndex width height x y]) ∧
    (∀ x y on, ∃ written, g.set x y on = .ok written ∧
      written.pixels.toList = g.pixels.toList.set (flatIndex width height x y) on ∧
      written.pixels.toList.length = width * height ∧
      ∀ x' y', written.get x' y' =
        if x' ≡ x [ZMOD width] ∧ y' ≡ y [ZMOD height] then .ok on else g.get x' y') ∧
    ∀ writes, ∃ written, g.setAll writes = .ok written ∧
      written.pixels.toList.length = width * height ∧
      ∀ x y, written.get x y = (lastWritten width height x y writes).elim (g.get x y) .ok := by
  refine ⟨fun x y => ?_, fun x y on => ?_, fun writes => ?_⟩
  · have inside : flatIndex width height x y < g.pixels.toList.length := by
      rw [Vector.length_toList]
      exact index_lt area x y
    exact ⟨inside, get_eq_ok area g x y⟩
  · have placed : (g.put (cellAt area x y) on).pixels.toList =
        g.pixels.toList.set (flatIndex width height x y) on := by
      rw [put, Vector.toList_set, cellAt]
    exact ⟨_, set_eq_ok area g x y on, placed, Vector.length_toList,
      fun x' y' => get_put area g x y x' y' on⟩
  · obtain ⟨written, ok, reads⟩ := get_setAll area g writes
    exact ⟨written, ok, Vector.length_toList, reads⟩

/-- Round the edges three writes meet in one pixel, where the last of them stays. A fourth goes
elsewhere, and the pixel between the two keeps what it had. -/
theorem get_after_writes_round_edges :
    let g : Grid 3 2 := (blank 3 2).put ⟨4, by decide⟩ true
    let writes : List Write := [⟨-1, 5, true⟩, ⟨2, -1, false⟩, ⟨0, 3, false⟩, ⟨5, 1, true⟩]
    0 < 3 ∧ 0 < 2 ∧ ∃ written, g.setAll writes = .ok written ∧
      written.get (-4) (-3) = .ok true ∧ written.get 3 1 = .ok false ∧
        written.get (-2) (-5) = .ok true := by
  intro g writes
  have area : 0 < 3 ∧ 0 < 2 := by decide
  obtain ⟨-, -, after⟩ := get_after_writes area g
  obtain ⟨written, ok, -, reads⟩ := after writes
  refine ⟨area.1, area.2, written, ok, ?_, ?_, ?_⟩ <;>
    · rw [reads]
      decide

end Chip8.Grid
