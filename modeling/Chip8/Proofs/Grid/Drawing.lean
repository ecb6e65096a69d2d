import Mathlib.Data.List.Basic
import Chip8.Grid.Sprite

/-! Drawing. A sprite that lies within the edges is drawn alike whether it wraps or not,
and the mark of a grid is up once anything has been drawn on it, so a grid whose mark is
down has not changed since it was cleaned (`draw_eq_of_clean`). -/

namespace Chip8

theorem Sprite.mem_lit {rows : List Int} {r c : Nat} :
    (r, c) ∈ lit rows ↔ r < rows.length ∧ c < 8 ∧ isLit (rows.getD r 0) c = true := by
  simp only [lit, List.mem_flatMap, List.mem_map, List.mem_filter, List.mem_range]
  constructor
  · rintro ⟨⟨row, k⟩, found, column, ⟨narrow, bit⟩, same⟩
    obtain ⟨rfl, rfl⟩ := Prod.mk.inj same
    have found : rows[k]? = some row := List.mk_mem_zipIdx_iff_getElem?.mp found
    obtain ⟨low, -⟩ := List.getElem?_eq_some_iff.mp found
    refine ⟨low, narrow, ?_⟩
    rwa [List.getD_eq_getElem?_getD, found]
  · rintro ⟨low, narrow, bit⟩
    refine ⟨(rows.getD r 0, r), ?_, c, ⟨narrow, bit⟩, rfl⟩
    rw [List.mk_mem_zipIdx_iff_getElem?, List.getD_eq_getElem?_getD, List.getElem?_eq_getElem low,
      Option.getD_some]

namespace Grid

variable {width height : Nat} (g : Grid width height)

theorem targets_of_inside {x y : Int} {rows : List Int} (across : x % width + 8 ≤ width)
    (down : y % height + rows.length ≤ height) (wrap : Bool) :
    targets width height x y rows wrap = targets width height x y rows true := by
  apply List.filterMap_congr
  rintro ⟨r, c⟩ lit
  obtain ⟨low, narrow, -⟩ := Sprite.mem_lit.mp lit
  have inside : x % width + c < width ∧ y % height + r < height := by omega
  simp [inside]

theorem draw_of_inside {x y : Int} {rows : List Int} (across : x % width + 8 ≤ width)
    (down : y % height + rows.length ≤ height) (wrap : Bool) :
    g.draw x y rows wrap = g.draw x y rows true := by
  rw [draw, targets_of_inside across down, draw]

theorem dirty_of_strikes (struck : Grid width height × Bool) (cells : List (Fin (width * height)))
    (dirty : struck.1.dirty = true) : (cells.foldl strike struck).1.dirty = true := by
  induction cells generalizing struck with
  | nil => exact dirty
  | cons cell rest ih => exact ih (strike struck cell) rfl

theorem draw_eq_of_clean (x y : Int) (rows : List Int) (wrap : Bool)
    (clean : (g.draw x y rows wrap).1.dirty = false) : (g.draw x y rows wrap).1 = g := by
  rw [draw] at clean ⊢
  cases struck : targets width height x y rows wrap with
  | nil => rfl
  | cons cell rest =>
    rw [struck, List.foldl_cons, dirty_of_strikes _ rest rfl] at clean
    cases clean

/-- The grid as it would be had something been drawn on it before. -/
def mark (g : Grid width height) : Grid width height := { g with dirty := true }

theorem draw_mark (x y : Int) (rows : List Int) (wrap : Bool) :
    g.mark.draw x y rows wrap =
      ((g.draw x y rows wrap).1.mark, (g.draw x y rows wrap).2) := by
  let marked (state : Grid width height × Bool) : Grid width height × Bool :=
    (state.1.mark, state.2)
  have struck (state : Grid width height × Bool) (cell : Fin (width * height)) :
      strike (marked state) cell = marked (strike state cell) := rfl
  have drawn : (targets width height x y rows wrap).foldl strike (marked (g, false)) =
      marked ((targets width height x y rows wrap).foldl strike (g, false)) :=
    List.foldl_hom marked struck
  exact drawn

end Grid

end Chip8
