/-! Quotients rounded to the nearest: to a natural number, and to a binary number of
fifty-three significant digits. Of two that are equally near the even one is taken.
To round a quotient to a binary number first, and that to a natural one, may lead to
the other neighbour if the quotient is large and close to the middle between two. -/

namespace Chip8.Rounding

/-- The natural number nearest to a quotient. -/
def nearest (n d : Nat) : Nat :=
  let below := n / d
  let rest := n % d
  if 2 * rest < d then below
  else if d < 2 * rest then below + 1
  else below + below % 2

/-- What is rounded lies within half a unit. -/
theorem nearest_near (n d : Nat) (h : 0 < d) :
    2 * (nearest n d * d) ≤ 2 * n + d ∧ 2 * n ≤ 2 * (nearest n d * d) + d := by
  have whole : d * (n / d) + n % d = n := Nat.div_add_mod n d
  have rest : n % d < d := Nat.mod_lt n h
  have up : (n / d + 1) * d = d * (n / d) + d := by rw [Nat.add_mul, Nat.one_mul, Nat.mul_comm]
  have down : n / d * d = d * (n / d) := Nat.mul_comm ..
  simp only [nearest]
  split
  · omega
  · split
    · omega
    · rcases Nat.mod_two_eq_zero_or_one (n / d) with h0 | h1
      · rw [h0, Nat.add_zero]; omega
      · rw [h1]; omega

/-- Between two that are equally near, the even one is taken. -/
theorem nearest_even_of_tie (n d : Nat) (h : 2 * (n % d) = d) : nearest n d % 2 = 0 := by
  simp only [nearest, h, Nat.lt_irrefl, ↓reduceIte]
  omega

/-- The number `significand * 2 ^ exponent`. -/
structure Binary where
  significand : Nat
  exponent : Int
deriving DecidableEq, Repr

namespace Binary

/-- The significant digits of a binary number. -/
def precision : Nat := 53

/-- Binary numbers are below two to this power. -/
def range : Nat := 1024

/-- Two to an exponent; one if the exponent is negative. -/
def power (exponent : Int) : Nat := Nat.pow 2 exponent.toNat

/-- The exponent of the greatest power of two that is not above a positive quotient. -/
def magnitude (n d : Nat) : Int :=
  let guess : Int := n.log2 - d.log2
  if n * power (-guess) < d * power guess then guess - 1 else guess

/-- The nearest number whose significand has as many digits as it may have. Its
exponent is not limited. -/
def ofQuotient (n d : Nat) : Binary :=
  let exponent := magnitude n d + 1 - precision
  { significand := nearest (n * power (-exponent)) (d * power exponent), exponent }

/-- The natural number nearest to a binary one. -/
def toNearest (b : Binary) : Nat :=
  nearest (b.significand * power b.exponent) (power (-b.exponent))

end Binary

end Chip8.Rounding
