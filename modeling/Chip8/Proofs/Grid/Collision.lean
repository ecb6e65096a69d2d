import Mathlib.Data.Finset.Prod
import Mathlib.Data.Int.Bitwise
import Chip8.Proofs.Grid.Compositing
import Chip8.Proofs.Grid.Drawing
import Chip8.Proofs.Grid.Torus

/-! Collisions. Of a sprite only some pixels fall on the grid (`Drawing.imprint`), and on a
torus that is smaller than the sprite several of them can fall on one pixel of the grid
(`Drawing.overlap`). These numbers settle what drawing does: which pixels are on in the end,
whether one has gone out on the way, and whether anything was drawn at all (`compose_exact`).
-/

namespace Chip8

namespace Drawing

variable (d : Drawing)

/-- The pixels of a sprite that fall on a grid, by their row and column in the sprite. A bit of
a row is one of its two's complement. -/
def imprint (width height : Nat) : Finset (Nat × Nat) :=
  {p ∈ Finset.range d.rows.length ×ˢ Finset.range 8 |
    (d.rows.getD p.1 0).testBit (7 - p.2) = true ∧
      (d.wrap = false → d.x % width + p.2 < width ∧ d.y % height + p.1 < height)}

/-- How many of them fall on the pixel in a column and a row. -/
def overlap {width height : Nat} (column : Fin width) (row : Fin height) : Nat :=
  Finset.card {p ∈ d.imprint width height |
    (d.x % width + p.2) % width = column ∧ (d.y % height + p.1) % height = row}

end Drawing

namespace Sprite

theorem isLit_eq_testBit (row : Int) (column : Nat) :
    isLit row column = row.testBit (7 - column) := by
  unfold isLit
  generalize 7 - column = place
  cases row with
  | ofNat n =>
    have shifted : Int.ofNat n >>> place = ((n >>> place : Nat) : Int) := rfl
    rw [shifted, Int.testBit, Nat.testBit_eq_decide_div_mod_eq, Nat.shiftRight_eq_div_pow,
      Bool.eq_iff_iff, beq_iff_eq, decide_eq_true_eq]
    omega
  | negSucc n =>
    have shifted : Int.negSucc n >>> place = Int.negSucc (n >>> place) := rfl
    rw [shifted, Int.testBit, Nat.testBit_eq_decide_div_mod_eq, Nat.shiftRight_eq_div_pow,
      Bool.eq_iff_iff, beq_iff_eq, Bool.not_eq_true', decide_eq_false_iff_not]
    omega

theorem nodup_lit (rows : List Int) : (lit rows).Nodup := by
  unfold lit
  rw [List.nodup_flatMap]
  constructor
  · rintro ⟨row, r⟩ -
    exact (List.nodup_range.filter _).map fun _ _ same => (Prod.mk.inj same).2
  · have distinct : (rows.zipIdx.map Prod.snd).Nodup := by
      rw [List.zipIdx_map_snd]
      exact List.nodup_range'
    refine (List.pairwise_map.mp distinct).imp ?_
    intro first second apart pixel here there
    obtain ⟨_, -, rfl⟩ := List.mem_map.mp here
    obtain ⟨_, -, same⟩ := List.mem_map.mp there
    exact apart (Prod.mk.inj same).1.symm

end Sprite

namespace Grid

variable {width height : Nat} (d : Drawing)

/-! ## The pixels that are struck -/

theorem count_targets (column : Fin width) (row : Fin height) :
    (targets width height d.x d.y d.rows d.wrap).count (spot column row) =
      d.overlap column row := by
  unfold targets Drawing.overlap
  rw [List.count_filterMap, List.countP_eq_length_filter,
    ← List.toFinset_card_of_nodup ((Sprite.nodup_lit d.rows).filter _)]
  congr 1
  ext ⟨r, c⟩
  have residues := cell?_eq_some_iff (d.x + c) (d.y + r) column row
  rw [← Int.emod_add_emod d.x, ← Int.emod_add_emod d.y] at residues
  cases wrap : d.wrap <;>
    simp [Drawing.imprint, Sprite.mem_lit, Sprite.isLit_eq_testBit, residues, wrap, and_assoc]

theorem targets_eq_nil_iff (area : 0 < width ∧ 0 < height) :
    targets width height d.x d.y d.rows d.wrap = [] ↔ d.imprint width height = ∅ := by
  have named (x y : Int) : cell? width height x y ≠ none := by simp [cell?, area]
  unfold targets
  rw [List.filterMap_eq_nil_iff, Finset.eq_empty_iff_forall_notMem]
  cases wrap : d.wrap <;>
    simp [Drawing.imprint, Sprite.mem_lit, Sprite.isLit_eq_testBit, named, wrap]

/-! ## Striking them one by one -/

/-- A pixel goes out when it is on and struck once more, and it is on at first or after it has
been struck for the first time. -/
theorem collision_foldl_strike (cells : List (Fin (width * height)))
    (state : Grid width height × Bool) :
    (cells.foldl strike state).2 = true ↔
      state.2 = true ∨ ∃ cell, 2 ≤ (state.1.pixel cell).toNat + cells.count cell := by
  induction cells generalizing state with
  | nil =>
    have few (cell : Fin (width * height)) : (state.1.pixel cell).toNat < 2 :=
      Nat.lt_succ_of_le (Bool.toNat_le _)
    simp [few]
  | cons first rest ih =>
    rw [List.foldl_cons, ih]
    cases lit : state.1.pixel first with
    | true =>
      have out : (strike state first).2 = true := by simp [strike, lit]
      have again : 2 ≤ (state.1.pixel first).toNat + (first :: rest).count first := by
        rw [lit, List.count_cons_self, Bool.toNat_true]
        omega
      exact iff_of_true (.inl out) (.inr ⟨first, again⟩)
    | false =>
      have quiet : (strike state first).2 = state.2 := by simp [strike, lit]
      have sum (cell : Fin (width * height)) :
          ((strike state first).1.pixel cell).toNat + rest.count cell =
            (state.1.pixel cell).toNat + (first :: rest).count cell := by
        rw [pixel_strike]
        by_cases here : first = cell
        · subst here
          simp [lit, Nat.add_comm]
        · simp [here]
      simp only [quiet, sum]

/-! ## A whole sprite -/

theorem collides_draw (g : Grid width height) :
    (g.draw d.x d.y d.rows d.wrap).2 = true ↔
      ∃ (column : Fin width) (row : Fin height),
        2 ≤ (g.pixel (spot column row)).toNat + d.overlap column row := by
  unfold draw
  rw [collision_foldl_strike]
  constructor
  · rintro (raised | ⟨cell, twice⟩)
    · cases raised
    · obtain ⟨column, row, rfl⟩ := exists_spot cell
      rw [count_targets] at twice
      exact ⟨column, row, twice⟩
  · rintro ⟨column, row, twice⟩
    rw [← count_targets] at twice
    exact .inr ⟨spot column row, twice⟩

theorem dirty_draw (area : 0 < width ∧ 0 < height) (g : Grid width height) :
    (g.draw d.x d.y d.rows d.wrap).1.dirty = true ↔
      g.dirty = true ∨ (d.imprint width height).Nonempty := by
  rw [Finset.nonempty_iff_ne_empty, Ne, ← targets_eq_nil_iff d area]
  unfold draw
  cases targets width height d.x d.y d.rows d.wrap with
  | nil => simp
  | cons first rest => simp [dirty_of_strikes (strike (g, false) first) rest rfl]

/-- What becomes of a grid on which a sprite is drawn. A sprite that claims another number of
rows than it has is not drawn. -/
theorem compose_exact (area : 0 < width ∧ 0 < height) (g : Grid width height) (claimed : Int) :
    ((d.rows.length : Int) = claimed →
      ∃ drawn collision, g.compose d.x d.y claimed d.rows d.wrap = .ok (drawn, collision) ∧
        (∀ column row, drawn.pixel (spot column row) =
          (g.pixel (spot column row) ^^ decide (Odd (d.overlap column row)))) ∧
        (collision = true ↔ ∃ (column : Fin width) (row : Fin height),
          2 ≤ (g.pixel (spot column row)).toNat + d.overlap column row) ∧
        (drawn.dirty = true ↔ g.dirty = true ∨ (d.imprint width height).Nonempty)) ∧
    ((d.rows.length : Int) ≠ claimed →
      g.compose d.x d.y claimed d.rows d.wrap = .error (.rowCount d.rows.length claimed)) := by
  constructor
  · intro count
    let drawn := g.draw d.x d.y d.rows d.wrap
    have composed : g.compose d.x d.y claimed d.rows d.wrap = .ok drawn := by
      rw [compose, if_neg (not_not_intro count), if_neg (by omega)]
    refine ⟨drawn.1, drawn.2, composed, ?_, collides_draw d g, dirty_draw d area g⟩
    intro column row
    rw [pixel_draw, count_targets]
  · intro count
    rw [compose, if_pos count]

/-- On a small torus a sprite collides with itself even where nothing was drawn before. -/
theorem compose_meets_itself :
    let g := blank 3 2
    let d : Drawing := { x := -1, y := 5, rows := [-1, 0x180], wrap := true }
    0 < 3 ∧ 0 < 2 ∧
      (∃ drawn, g.compose d.x d.y 2 d.rows d.wrap = .ok (drawn, true) ∧
        drawn.pixel (spot 0 1) = true ∧ drawn.pixel (spot 1 1) = false ∧ drawn.dirty = true) ∧
      g.compose d.x d.y 3 d.rows d.wrap = .error (.rowCount 2 3) := by
  intro g d
  have area : 0 < 3 ∧ 0 < 2 := by decide
  obtain ⟨drawn, collision, composed, pixels, collides, dirty⟩ :=
    (compose_exact d area g 2).1 rfl
  have met : collision = true := collides.mpr ⟨1, 1, by decide⟩
  have marked : drawn.dirty = true := dirty.mpr (.inr (by decide))
  rw [met] at composed
  have thrice : drawn.pixel (spot 0 1) = true := by
    rw [pixels]
    decide
  have twice : drawn.pixel (spot 1 1) = false := by
    rw [pixels]
    decide
  refine ⟨area.1, area.2, ⟨drawn, composed, thrice, twice, marked⟩, ?_⟩
  exact (compose_exact d area g 3).2 (by decide)

end Grid

end Chip8
