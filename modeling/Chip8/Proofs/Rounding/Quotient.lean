import Mathlib.Algebra.Order.Field.Power
import Mathlib.Algebra.Order.Field.Rat
import Mathlib.Tactic.Linarith
import Mathlib.Tactic.NormNum
import Mathlib.Tactic.Positivity
import Mathlib.Tactic.Ring
import Chip8.Rounding

/-! Quotients rounded twice. What it is to round a rational number to the nearest natural one
(`RoundsTo`), and to fifty-three binary digits before that (`RoundsBinary`), is said by laws that
leave one result (`RoundsTo.unique`), and the quotients are rounded by these laws
(`roundsTo_nearest`, `roundsBinary_toNearest`). To round to so many binary places and then to a
natural number leads where rounding once does, if the places are finer than the denominator can
tell apart: a quotient that is no tie keeps its side of the middle, and a tie is met exactly
(`nearest_nearest`). Fifty-three digits leave enough places if the numerator has no more than
fifty-two (`toNearest_ofQuotient`). -/

namespace Chip8.Rounding

/-- The natural number next to a rational one, and of two that are equally near the even one. -/
structure RoundsTo (q : ℚ) (m : Nat) : Prop where
  near : |q - m| ≤ 1 / 2
  even : |q - m| = 1 / 2 → m % 2 = 0

/-- The number is first rounded to fifty-three significant binary digits. -/
def RoundsBinary (q : ℚ) (m : Nat) : Prop :=
  ∃ (significand : Nat) (exponent : ℤ),
    2 ^ 52 * 2 ^ exponent ≤ q ∧ q < 2 ^ 53 * 2 ^ exponent ∧
      RoundsTo (q / 2 ^ exponent) significand ∧ RoundsTo (significand * 2 ^ exponent) m

theorem RoundsTo.not_lt {q : ℚ} {m k : Nat} (first : RoundsTo q m) (second : RoundsTo q k) :
    ¬m < k := by
  intro less
  obtain ⟨-, up⟩ := abs_le.mp first.near
  obtain ⟨down, -⟩ := abs_le.mp second.near
  have apart : (m : ℚ) + 1 ≤ k := by exact_mod_cast less
  have middle : q - m = 1 / 2 := by linarith
  have other : q - k = -(1 / 2) := by linarith
  have next : k = m + 1 := by
    have next : (k : ℚ) = m + 1 := by linarith
    exact_mod_cast next
  have := first.even (by rw [middle]; norm_num)
  have := second.even (by rw [other]; norm_num)
  omega

theorem RoundsTo.unique {q : ℚ} {m k : Nat} (first : RoundsTo q m) (second : RoundsTo q k) :
    m = k :=
  Nat.le_antisymm (Nat.not_lt.mp (second.not_lt first)) (Nat.not_lt.mp (first.not_lt second))

variable {n d : Nat}

theorem tie_of_middle {q : Nat} (pos : 0 < d) (middle : 2 * n = 2 * (q * d) + d) :
    2 * (n % d) = d := by
  have split : n = d * q + (n - q * d) := by rw [Nat.mul_comm d q]; omega
  rw [split, Nat.mul_add_mod, Nat.mod_eq_of_lt (by omega)]
  omega

/-- Two numbers that are both near enough follow each other, and the quotient lies midway. -/
theorem midway_of_lt {m q : Nat} (pos : 0 < d) (below : 2 * n ≤ 2 * (m * d) + d)
    (above : 2 * (q * d) ≤ 2 * n + d) (less : m < q) : q = m + 1 ∧ 2 * (n % d) = d := by
  have step : (m + 1) * d ≤ q * d := Nat.mul_le_mul_right d less
  rw [Nat.succ_mul] at step
  have next : (m + 1) * d = q * d := by rw [Nat.succ_mul]; omega
  exact ⟨(Nat.eq_of_mul_eq_mul_right pos next).symm, tie_of_middle (q := m) pos (by omega)⟩

/-- The laws of rounding determine what is rounded to. -/
theorem nearest_eq {q : Nat} (pos : 0 < d) (above : 2 * (q * d) ≤ 2 * n + d)
    (below : 2 * n ≤ 2 * (q * d) + d) (even : 2 * (n % d) = d → q % 2 = 0) : nearest n d = q := by
  obtain ⟨near_above, near_below⟩ := nearest_near n d pos
  have near_even := nearest_even_of_tie n d
  rcases Nat.lt_trichotomy (nearest n d) q with less | same | more
  · obtain ⟨next, tie⟩ := midway_of_lt pos near_below above less
    have := even tie
    have := near_even tie
    omega
  · exact same
  · obtain ⟨next, tie⟩ := midway_of_lt pos below near_above more
    have := even tie
    have := near_even tie
    omega

/-- Rounding to a fraction of unity first does no harm if the denominator is smaller than that
of the fraction, which is even. -/
theorem nearest_nearest {half : Nat} (pos : 0 < d) (fine : d < 2 * half) :
    nearest (nearest (n * (2 * half)) d) (2 * half) = nearest n d := by
  obtain ⟨up, down⟩ := nearest_near (n * (2 * half)) d pos
  obtain ⟨above, below⟩ := nearest_near n d pos
  have even := nearest_even_of_tie n d
  generalize nearest (n * (2 * half)) d = s at *
  generalize nearest n d = m at *
  have above := Nat.mul_le_mul_right half above
  have below := Nat.mul_le_mul_right half below
  apply nearest_eq (by omega)
  · by_contra excess
    have excess : (s + half + 1) * d ≤ m * (2 * half) * d := Nat.mul_le_mul_right d (by omega)
    linarith
  · by_contra deficit
    have deficit : (m * (2 * half) + half + 1) * d ≤ s * d := Nat.mul_le_mul_right d (by omega)
    linarith
  · intro tie
    -- The fraction is a tie only if the quotient is one: it is too near not to be midway.
    have whole : 2 * half * (s / (2 * half)) + s % (2 * half) = s := Nat.div_add_mod ..
    generalize s / (2 * half) = q at whole
    have middle : 2 * half * q + half = s := by omega
    subst middle
    have lower : ¬2 * n < 2 * (q * d) + d := by
      intro less
      have less : (2 * n + 1) * half ≤ (2 * (q * d) + d) * half := Nat.mul_le_mul_right half less
      linarith
    have upper : ¬2 * (q * d) + d < 2 * n := by
      intro less
      have less : (2 * (q * d) + d + 1) * half ≤ 2 * n * half := Nat.mul_le_mul_right half less
      linarith
    exact even (tie_of_middle (q := q) pos (by omega))

theorem roundsTo_nearest (n : Nat) (pos : 0 < d) : RoundsTo (n / d) (nearest n d) := by
  have positive : (0 : ℚ) < d := by exact_mod_cast pos
  have whole : (n / d : ℚ) * d = n := div_mul_cancel₀ _ positive.ne'
  obtain ⟨above, below⟩ := nearest_near n d pos
  have even := nearest_even_of_tie n d
  generalize nearest n d = m at *
  generalize (n / d : ℚ) = q at *
  constructor
  · have above : 2 * (m * d) ≤ 2 * n + (d : ℚ) := by exact_mod_cast above
    have below : 2 * (n : ℚ) ≤ 2 * (m * d) + d := by exact_mod_cast below
    rw [abs_le]
    constructor
    · refine le_of_mul_le_mul_right ?_ positive
      linarith
    · refine le_of_mul_le_mul_right ?_ positive
      linarith
  · intro tie
    apply even
    rcases (abs_eq (by norm_num)).mp tie with more | less
    · have middle : 2 * (n : ℚ) = 2 * (m * d) + d := by
        rw [← whole, sub_eq_iff_eq_add.mp more]
        ring
      exact tie_of_middle pos (by exact_mod_cast middle)
    · have middle : 2 * (n : ℚ) + d = 2 * (m * d) := by
        rw [← whole, sub_eq_iff_eq_add.mp less]
        ring
      have middle : 2 * n + d = 2 * (m * d) := by exact_mod_cast middle
      -- Only a number above the quotient is meant, so it is not zero.
      cases m with
      | zero => omega
      | succ m =>
        rw [Nat.succ_mul m d] at middle
        exact tie_of_middle (q := m) pos (by omega)

namespace Binary

theorem power_ofNat (k : Nat) : power k = 2 ^ k := rfl

theorem power_neg (k : Nat) : power (-k) = 1 := by
  rw [power, show (-(k : Int)).toNat = 0 by omega]

theorem power_pos (exponent : Int) : 0 < power exponent := Nat.two_pow_pos _

/-- A power of two, with a denominator if its exponent is negative. -/
theorem power_div_power (exponent : Int) :
    (power exponent : ℚ) / power (-exponent) = 2 ^ exponent := by
  obtain ⟨k, rfl | rfl⟩ := exponent.eq_nat_or_neg
  · rw [power_neg, power_ofNat]
    simp
  · rw [power_neg, neg_neg, power_ofNat]
    simp

/-- The comparison of a quotient with a power of two, free of fractions. -/
theorem mul_power_le_iff (pos : 0 < d) (exponent : Int) :
    d * power exponent ≤ n * power (-exponent) ↔ (2 : ℚ) ^ exponent ≤ n / d := by
  have positive : (0 : ℚ) < d := by exact_mod_cast pos
  have denominator : (0 : ℚ) < power (-exponent) := by exact_mod_cast power_pos (-exponent)
  rw [← power_div_power, div_le_div_iff₀ denominator positive]
  norm_cast
  rw [Nat.mul_comm d]

/-- The logarithms of numerator and denominator leave two magnitudes to a quotient. -/
theorem log2_bounds (numerator : 0 < n) (pos : 0 < d) :
    (2 : ℚ) ^ ((n.log2 : Int) - d.log2 - 1) ≤ n / d ∧
      (n : ℚ) / d < 2 ^ ((n.log2 : Int) - d.log2 + 1) := by
  have n_above : (2 : ℚ) ^ n.log2 ≤ n := by exact_mod_cast Nat.log2_self_le numerator.ne'
  have n_below : (n : ℚ) < 2 ^ (n.log2 + 1) := by exact_mod_cast Nat.lt_log2_self
  have d_above : (2 : ℚ) ^ d.log2 ≤ d := by exact_mod_cast Nat.log2_self_le pos.ne'
  have d_below : (d : ℚ) < 2 ^ (d.log2 + 1) := by exact_mod_cast Nat.lt_log2_self
  have positive : (0 : ℚ) < d := by exact_mod_cast pos
  constructor
  · rw [sub_sub, zpow_sub₀ two_ne_zero]
    exact div_le_div₀ (by positivity) n_above positive (by exact_mod_cast d_below.le)
  · rw [sub_add_eq_add_sub, zpow_sub₀ two_ne_zero]
    exact div_lt_div₀ (by exact_mod_cast n_below) (by exact_mod_cast d_above)
      (zpow_nonneg zero_le_two _) (zpow_pos two_pos _)

theorem magnitude_bounds (numerator : 0 < n) (pos : 0 < d) :
    (2 : ℚ) ^ magnitude n d ≤ n / d ∧ (n : ℚ) / d < 2 ^ (magnitude n d + 1) := by
  obtain ⟨above, below⟩ := log2_bounds numerator pos
  have guessed := mul_power_le_iff (n := n) pos (n.log2 - d.log2)
  rw [magnitude]
  split
  · next less =>
    rw [sub_add_cancel]
    exact ⟨above, not_le.mp (mt guessed.mpr (Nat.not_le.mpr less))⟩
  · next enough => exact ⟨guessed.mp (Nat.not_lt.mp enough), below⟩

/-- The scale of a quotient is that of its greatest power of two. -/
theorem scale_eq (n d : Nat) (digits : ℤ) :
    (2 : ℚ) ^ digits * 2 ^ (ofQuotient n d).exponent = 2 ^ (magnitude n d + digits - 52) := by
  rw [← zpow_add₀ two_ne_zero]
  congr 1
  simp only [ofQuotient, precision]
  omega

/-- The way of a quotient by the binary numbers obeys the laws. -/
theorem roundsBinary_toNearest (numerator : 0 < n) (pos : 0 < d) :
    RoundsBinary (n / d) (ofQuotient n d).toNearest := by
  obtain ⟨above, below⟩ := magnitude_bounds numerator pos
  refine ⟨(ofQuotient n d).significand, (ofQuotient n d).exponent, ?_, ?_, ?_, ?_⟩
  · convert above using 1
    exact_mod_cast (scale_eq n d 52).trans (by rw [add_sub_cancel_right])
  · convert below using 1
    exact_mod_cast (scale_eq n d 53).trans (by congr 1; omega)
  · have scaled : (n / d : ℚ) / 2 ^ (ofQuotient n d).exponent =
        (n * power (-(ofQuotient n d).exponent) : Nat) /
          (d * power (ofQuotient n d).exponent : Nat) := by
      rw [← power_div_power, Nat.cast_mul, Nat.cast_mul, div_div_eq_mul_div, div_mul_eq_mul_div,
        div_div]
    rw [scaled]
    exact roundsTo_nearest _ (Nat.mul_pos pos (power_pos _))
  · have scaled : ((ofQuotient n d).significand : ℚ) * 2 ^ (ofQuotient n d).exponent =
        ((ofQuotient n d).significand * power (ofQuotient n d).exponent : Nat) /
          power (-(ofQuotient n d).exponent) := by
      rw [← power_div_power, Nat.cast_mul, mul_div_assoc]
    rw [scaled]
    exact roundsTo_nearest _ (power_pos _)

/-- Fifty-three digits leave enough binary places for the quotient of a numerator of this size,
so it is rounded to the nearest number at once. -/
theorem toNearest_ofQuotient (numerator : 0 < n) (pos : 0 < d) (moderate : n < 2 ^ 52) :
    (ofQuotient n d).toNearest = nearest n d := by
  have positive : (0 : ℚ) < d := by exact_mod_cast pos
  have fine : (d : ℚ) < 2 ^ (52 - magnitude n d) := by
    have reached := (le_div_iff₀ positive).mp (magnitude_bounds numerator pos).1
    rw [zpow_sub₀ two_ne_zero, lt_div_iff₀ (zpow_pos two_pos _), mul_comm]
    exact reached.trans_lt (by exact_mod_cast moderate)
  have some : 0 < 52 - magnitude n d := by
    have unity : (1 : ℚ) ≤ d := by exact_mod_cast pos
    exact (zpow_lt_zpow_iff_right₀ one_lt_two).mp ((zpow_zero 2).trans_lt (unity.trans_lt fine))
  obtain ⟨k, places⟩ : ∃ k : Nat, 52 - magnitude n d = (k + 1 : Nat) :=
    ⟨(51 - magnitude n d).toNat, by omega⟩
  have exponent : magnitude n d + 1 - precision = -(k + 1 : Nat) := by
    simp only [precision]
    omega
  rw [places, zpow_natCast] at fine
  rw [toNearest, ofQuotient, exponent, power_neg, neg_neg, power_ofNat, Nat.mul_one, Nat.mul_one,
    pow_succ']
  refine nearest_nearest pos ?_
  rw [← pow_succ']
  exact_mod_cast fine

end Binary

end Chip8.Rounding
