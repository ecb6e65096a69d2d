import Mathlib.Algebra.BigOperators.Group.Finset.Basic
import Mathlib.Algebra.Ring.Parity
import Chip8.Grid.Sprite

/-! Compositing. To draw a sprite is to turn pixels over, and what becomes of a pixel hangs
on nothing but whether it is turned over an odd or an even number of times (`pixel_draw`).
So drawings can be made in any order, and one that is made twice is taken back
(`drawAll_commutes_cancels`). -/

namespace Chip8

/-- A sprite with a place to draw it at. -/
structure Drawing where
  x : Int
  y : Int
  rows : List Int
  wrap : Bool
deriving DecidableEq

namespace Grid

variable {width height : Nat}

/-- Draws one sprite after the other, each with the number of its rows as its claim. -/
def drawAll (g : Grid width height) (drawings : List Drawing) :
    Except Misuse (Grid width height) :=
  drawings.foldlM
    (fun g d => (g.compose d.x d.y d.rows.length d.rows d.wrap).map Prod.fst) g

/-- The pixels that drawings turn over, each as often as it is turned over. -/
def struck (width height : Nat) (drawings : List Drawing) : List (Fin (width * height)) :=
  drawings.flatMap fun d => targets width height d.x d.y d.rows d.wrap

theorem decide_odd_add (m n : Nat) : decide (Odd (m + n)) = (decide (Odd m) ^^ decide (Odd n)) := by
  by_cases left : Odd m <;> by_cases right : Odd n <;>
    simp [Nat.odd_add, ← Nat.not_odd_iff_even, left, right]

theorem pixels_ext {g h : Grid width height} (same : ∀ cell, g.pixel cell = h.pixel cell) :
    g.pixels = h.pixels :=
  Vector.ext fun i inside => same ⟨i, inside⟩

theorem pixel_strike (state : Grid width height × Bool) (struck cell : Fin (width * height)) :
    (strike state struck).1.pixel cell = (state.1.pixel cell ^^ decide (struck = cell)) := by
  rw [strike, pixel_put]
  by_cases here : struck = cell <;> simp [here]

/-- Turning pixels over one by one reads pixels that were turned over before, yet all that
counts in the end is how often each one had its turn. -/
theorem pixel_foldl_strike (cells : List (Fin (width * height)))
    (state : Grid width height × Bool) (cell : Fin (width * height)) :
    (cells.foldl strike state).1.pixel cell =
      (state.1.pixel cell ^^ decide (Odd (cells.count cell))) := by
  induction cells generalizing state with
  | nil => simp
  | cons first rest ih =>
    rw [List.foldl_cons, ih, pixel_strike, List.count_cons, Nat.add_comm, decide_odd_add, Bool.xor_assoc]
    by_cases here : first = cell <;> simp [here]

theorem pixel_draw (g : Grid width height) (x y : Int) (rows : List Int) (wrap : Bool)
    (cell : Fin (width * height)) :
    (g.draw x y rows wrap).1.pixel cell =
      (g.pixel cell ^^ decide (Odd ((targets width height x y rows wrap).count cell))) :=
  pixel_foldl_strike _ (g, false) cell

/-- On a grid that has pixels nothing can go wrong, and drawings add up. -/
theorem drawAll_ok (area : 0 < width ∧ 0 < height) (g : Grid width height)
    (drawings : List Drawing) :
    ∃ drawn, g.drawAll drawings = .ok drawn ∧ ∀ cell,
      drawn.pixel cell =
        (g.pixel cell ^^ decide (Odd ((struck width height drawings).count cell))) := by
  induction drawings generalizing g with
  | nil => exact ⟨g, rfl, by simp [struck]⟩
  | cons d rest ih =>
    let first := (g.draw d.x d.y d.rows d.wrap).1
    obtain ⟨drawn, ok, pixel⟩ := ih first
    have composed : g.compose d.x d.y d.rows.length d.rows d.wrap =
        .ok (g.draw d.x d.y d.rows d.wrap) := by
      rw [compose, if_neg (not_not_intro rfl), if_neg (by omega)]
    refine ⟨drawn, ?_, fun cell => ?_⟩
    · rw [drawAll, List.foldlM_cons, composed]
      exact ok
    · have parts : (struck width height (d :: rest)).count cell =
          (targets width height d.x d.y d.rows d.wrap).count cell +
            (struck width height rest).count cell := List.count_append
      rw [pixel, pixel_draw, parts, decide_odd_add, Bool.xor_assoc]

/-- Drawings that come in pairs turn every pixel over an even number of times. -/
theorem even_count_struck {drawings : List Drawing}
    (paired : ∀ d ∈ drawings, Even (drawings.count d)) (cell : Fin (width * height)) :
    Even ((struck width height drawings).count cell) := by
  rw [struck, List.count_flatMap, Finset.sum_list_map_count]
  refine Finset.sum_induction _ Even (fun _ _ => Even.add) Even.zero ?_
  intro d member
  exact (paired d (List.mem_toFinset.mp member)).mul_right _

/-- The order of drawings does not show in the pixels, and neither do drawings that come in
pairs. -/
theorem drawAll_commutes_cancels (area : 0 < width ∧ 0 < height) (g : Grid width height)
    (drawings : List Drawing) :
    ∃ drawn, g.drawAll drawings = .ok drawn ∧
      (∀ others, others.Perm drawings →
        ∃ other, g.drawAll others = .ok other ∧ other.pixels = drawn.pixels) ∧
      ((∀ d ∈ drawings, Even (drawings.count d)) → drawn.pixels = g.pixels) := by
  obtain ⟨drawn, ok, pixel⟩ := drawAll_ok area g drawings
  refine ⟨drawn, ok, ?_, ?_⟩
  · intro others perm
    obtain ⟨other, otherOk, otherPixel⟩ := drawAll_ok area g others
    have counts (cell : Fin (width * height)) :
        (struck width height others).count cell = (struck width height drawings).count cell :=
      (perm.flatMap_right _).count_eq cell
    refine ⟨other, otherOk, pixels_ext fun cell => ?_⟩
    rw [otherPixel, pixel, counts]
  · intro paired
    refine pixels_ext fun cell => ?_
    rw [pixel, decide_eq_false (Nat.not_odd_iff_even.mpr (even_count_struck paired cell)),
      Bool.xor_false]

/-- A sprite that meets itself on a small torus and one that is cut off, each drawn twice, leave
the grid as it was, in either order. -/
theorem drawAll_cancels_self_overlap :
    let g : Grid 3 2 := (blank 3 2).put ⟨1, by decide⟩ true
    let wide : Drawing := { x := -1, y := 5, rows := [0xF0, 0x81, 0x3C], wrap := true }
    let clipped : Drawing := { x := 2, y := 0, rows := [0xC0], wrap := false }
    0 < 3 ∧ 0 < 2 ∧ ∃ drawn, g.drawAll [wide, clipped, clipped, wide] = .ok drawn ∧
      drawn.pixels = g.pixels ∧
      ∃ other, g.drawAll [clipped, wide, wide, clipped] = .ok other ∧
        other.pixels = drawn.pixels := by
  intro g wide clipped
  obtain ⟨drawn, ok, order, pairs⟩ := drawAll_commutes_cancels (by decide) g
    [wide, clipped, clipped, wide]
  refine ⟨by decide, by decide, drawn, ok, pairs (by decide), order _ ?_⟩
  decide

end Grid

end Chip8
