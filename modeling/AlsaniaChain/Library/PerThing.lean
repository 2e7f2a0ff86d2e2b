import Mathlib

/-! # Per-things and weight-to-fee polynomials

A per-thing of accuracy `acc` is a fraction `parts / acc` with `parts ≤ acc` (`Perbill` has
`acc = 10⁹`). The arithmetic follows the usual substrate definitions:

* `divRound n d r`: `n / d` rounded by `r`, from the floor and the remainder, as
  `rational_mul_correction` rounds;
* `PerThing.fromRational p q`: `p / q` rounded down, `one` when it is not a fraction;
* `PerThing.mul p x`: `x / acc * parts` plus the rounded share of the remainder
  (`overflow_prune_mul`), which is `x * parts / acc` rounded (`PerThing.mul_eq_divRound`);
* `weightToFee`: a polynomial with per-thing and integer coefficients, evaluated with saturating
  arithmetic below a bound.

Rounding a quotient does not change when numerator and denominator are scaled by the same
factor (`divRound_mul_right`).

`FeeArith` takes `from_rational` and `weight_to_fee` as parameters, `FeeArith.Laws` names what a
fee polynomial's results assume of them, and the definitions of this file satisfy it
(`FeeArith.model_laws`).
-/

namespace AlsaniaChain.Arithmetic
set_option autoImplicit false

/-- How a quotient is rounded. -/
inductive Rounding where
  | up
  | down
  | nearestPrefUp
  | nearestPrefDown
  deriving DecidableEq, Repr

/-- `n / d` rounded by `r`: the floor, plus one when the remainder asks for it. -/
def divRound (n d : ℕ) : Rounding → ℕ
  | .down => n / d
  | .up => n / d + if 0 < n % d then 1 else 0
  | .nearestPrefDown => n / d + if d / 2 < n % d then 1 else 0
  | .nearestPrefUp => n / d + if d / 2 + d % 2 ≤ n % d then 1 else 0

/-- A rounded quotient stays below any `b` with `n ≤ d * b`: it is rounded up only when there is a
remainder, and then the floor is below `b`. -/
theorem divRound_le_of_le_mul {n d b : ℕ} (hd : 0 < d) (h : n ≤ d * b) (r : Rounding) :
    divRound n d r ≤ b := by
  have hfloor : n / d ≤ b := Nat.div_le_of_le_mul h
  have hlt : 0 < n % d → n / d < b := by
    intro hrem
    by_contra hge
    have h1 : d * b ≤ d * (n / d) := Nat.mul_le_mul_left d (not_lt.mp hge)
    have h2 := Nat.div_add_mod n d
    omega
  cases r <;> simp only [divRound] <;> (try split_ifs) <;> omega

theorem divRound_mul_add {d : ℕ} (hd : 0 < d) (a b : ℕ) (r : Rounding) :
    divRound (a * d + b) d r = a + divRound b d r := by
  have hdiv : (a * d + b) / d = a + b / d := by
    rw [Nat.add_comm, Nat.add_mul_div_right _ _ hd, Nat.add_comm]
  have hmod : (a * d + b) % d = b % d := by
    rw [Nat.add_comm, Nat.add_mul_mod_self_right]
  cases r <;> simp only [divRound, hdiv, hmod] <;> omega

/-- Scaling numerator and denominator by the same factor keeps the rounded quotient. -/
theorem divRound_mul_right (x m : ℕ) {k : ℕ} (hk : 0 < k) (r : Rounding) :
    divRound (x * k) (m * k) r = divRound x m r := by
  have hdiv : x * k / (m * k) = x / m := Nat.mul_div_mul_right x m hk
  have hmod : x * k % (m * k) = x % m * k := Nat.mul_mod_mul_right k x m
  have hlt : ∀ a b : ℕ, a * k < b * k ↔ a < b := fun a b => Nat.mul_lt_mul_right hk
  have hle : ∀ a b : ℕ, a * k ≤ b * k ↔ a ≤ b := fun a b => Nat.mul_le_mul_right_iff hk
  cases r with
  | down => simp only [divRound, hdiv]
  | up =>
    have hpos : 0 < x % m * k ↔ 0 < x % m := by
      simpa using hlt 0 (x % m)
    simp only [divRound, hdiv, hmod, hpos]
  | nearestPrefDown =>
    have hhalf : m * k / 2 < x % m * k ↔ m / 2 < x % m := by
      have h1 : m * k / 2 < x % m * k ↔ m * k < 2 * (x % m) * k := by
        rw [Nat.mul_assoc 2]
        omega
      rw [h1, hlt]
      omega
    simp only [divRound, hdiv, hmod, hhalf]
  | nearestPrefUp =>
    have hhalf : m * k / 2 + m * k % 2 ≤ x % m * k ↔ m / 2 + m % 2 ≤ x % m := by
      have h1 : m * k / 2 + m * k % 2 ≤ x % m * k ↔ m * k ≤ 2 * (x % m) * k := by
        rw [Nat.mul_assoc 2]
        omega
      rw [h1, hle]
      omega
    simp only [divRound, hdiv, hmod, hhalf]

/-! ## Per-things -/

/-- A fraction `parts / acc`. -/
structure PerThing (acc : ℕ) where
  parts : ℕ
  parts_le : parts ≤ acc
  deriving DecidableEq, Repr

variable {acc : ℕ}

@[ext] theorem PerThing.ext {p p' : PerThing acc} (h : p.parts = p'.parts) : p = p' := by
  cases p
  cases p'
  subst h
  rfl

def PerThing.one : PerThing acc := ⟨acc, le_refl acc⟩

/-- `from_rational_with_rounding(p, q, r)`: no fraction when `q = 0` or `p > q`. -/
def PerThing.fromRationalWithRounding (p q : ℕ) (r : Rounding) : Option (PerThing acc) :=
  if h : q = 0 ∨ q < p then none
  else
    have hpq : p * acc ≤ q * acc := Nat.mul_le_mul_right _ (by omega)
    some ⟨divRound (p * acc) q r, divRound_le_of_le_mul (by omega) hpq r⟩

/-- `from_rational(p, q)`: rounded down, `one` when `p / q` is not a fraction. -/
def PerThing.fromRational (p q : ℕ) : PerThing acc :=
  (PerThing.fromRationalWithRounding p q .down).getD PerThing.one

/-- `rational_mul_correction(x, numer, denom, r)`: the rounded share of the remainder. -/
def rationalMulCorrection (x numer denom : ℕ) (r : Rounding) : ℕ :=
  divRound (x % denom * numer) denom r

/-- `overflow_prune_mul(x, part, r)`: the whole multiples of `acc` times the part, plus the
correction for the remainder. -/
def overflowPruneMul (x part acc : ℕ) (r : Rounding) : ℕ :=
  x / acc * part + rationalMulCorrection x part acc r

/-- `PerThing * N`: `overflow_prune_mul` rounding to the nearest, ties down. -/
def PerThing.mul (p : PerThing acc) (x : ℕ) : ℕ :=
  overflowPruneMul x p.parts acc .nearestPrefDown

theorem overflowPruneMul_eq_divRound {a : ℕ} (ha : 0 < a) (x part : ℕ) (r : Rounding) :
    overflowPruneMul x part a r = divRound (x * part) a r := by
  have hsplit : x * part = x / a * part * a + x % a * part := by
    have := Nat.div_add_mod x a
    calc x * part = (a * (x / a) + x % a) * part := by rw [this]
      _ = x / a * part * a + x % a * part := by ring
  rw [overflowPruneMul, rationalMulCorrection, hsplit, divRound_mul_add ha]

/-- Multiplying by a per-thing rounds `x * parts / acc` to the nearest, ties down. -/
theorem PerThing.mul_eq_divRound (hacc : 0 < acc) (p : PerThing acc) (x : ℕ) :
    p.mul x = divRound (x * p.parts) acc .nearestPrefDown :=
  overflowPruneMul_eq_divRound hacc x p.parts _

theorem PerThing.mul_le (hacc : 0 < acc) (p : PerThing acc) (x : ℕ) : p.mul x ≤ x := by
  rw [PerThing.mul_eq_divRound hacc]
  have hle : x * p.parts ≤ acc * x := by
    rw [Nat.mul_comm acc]
    exact Nat.mul_le_mul_left x p.parts_le
  exact divRound_le_of_le_mul hacc hle _

theorem PerThing.fromRational_of_le {p q : ℕ} (hq : 0 < q) (hpq : p ≤ q) :
    (PerThing.fromRational p q : PerThing acc).parts = p * acc / q := by
  have hnot : ¬ (q = 0 ∨ q < p) := by omega
  simp [PerThing.fromRational, PerThing.fromRationalWithRounding, hnot, divRound]

/-! ## Weight-to-fee polynomials -/

/-- `WeightToFeeCoefficient`: `(coeff_integer + coeff_frac) * w ^ degree`, added or taken away. -/
structure Coefficient (acc : ℕ) where
  coeffInteger : ℕ
  coeffFrac : PerThing acc
  negative : Bool
  degree : ℕ

/-- Saturating arithmetic of an unsigned type whose largest value is `bound`. -/
def satAdd (bound a b : ℕ) : ℕ := min (a + b) bound

def satMul (bound a b : ℕ) : ℕ := min (a * b) bound

def satPow (bound a n : ℕ) : ℕ := min (a ^ n) bound

/-- `WeightToFeePolynomial::weight_to_fee`: the terms folded into an accumulator from zero, each
added or subtracted with saturation. -/
def weightToFee (bound : ℕ) (poly : List (Coefficient acc)) (weight : ℕ) : ℕ :=
  poly.foldl (fun total args =>
    let w := satPow bound (min weight bound) args.degree
    let frac := args.coeffFrac.mul w
    let integer := satMul bound args.coeffInteger w
    if args.negative then total - frac - integer
    else satAdd bound (satAdd bound total frac) integer) 0

/-- A polynomial of one positive term of degree one with no integer part charges the per-thing
share of the weight, as long as the weight is below the bound. -/
theorem weightToFee_linear_frac {bound weight : ℕ} (hw : weight ≤ bound) (frac : PerThing acc)
    (hacc : 0 < acc) :
    weightToFee bound [⟨0, frac, false, 1⟩] weight =
      divRound (weight * frac.parts) acc .nearestPrefDown := by
  have hmul : frac.mul weight ≤ weight := PerThing.mul_le hacc frac weight
  have hmin : min weight bound = weight := min_eq_left hw
  simp only [weightToFee, List.foldl_cons, List.foldl_nil, satPow, hmin, pow_one, satMul, Nat.zero_mul, Nat.zero_le, min_eq_left, satAdd, Nat.zero_add,
    Nat.add_zero, Bool.false_eq_true, if_false]
  rw [min_eq_left (hmul.trans hw), min_eq_left (hmul.trans hw), PerThing.mul_eq_divRound hacc]

/-! ## The calls a fee polynomial makes -/

/-- The two calls of `sp_arithmetic` and `sp_weights` a runtime's fee polynomial makes, at
accuracy `acc` and for balances bounded by `bound`: `from_rational`, and
`WeightToFeePolynomial::weight_to_fee` over a list of coefficients. -/
structure FeeArith (acc bound : ℕ) where
  fromRational : ℕ → ℕ → PerThing acc
  weightToFee : List (Coefficient acc) → ℕ → ℕ

/-- What is assumed of them: `from_rational(p, q)` of a fraction rounds `p / q` down, and one
positive term of degree one with no integer part charges the per-thing's share of a weight below
the bound, rounded to the nearest with ties down (`PerThing * N`). -/
structure FeeArith.Laws {bound : ℕ} (a : FeeArith acc bound) : Prop where
  fromRational_parts : ∀ p q, 0 < q → p ≤ q → (a.fromRational p q).parts = p * acc / q
  weightToFee_linear : ∀ (frac : PerThing acc) (w : ℕ), w ≤ bound →
    a.weightToFee [⟨0, frac, false, 1⟩] w = divRound (w * frac.parts) acc .nearestPrefDown

/-- `from_rational` and `weight_to_fee` as this file defines them. -/
def FeeArith.model (acc bound : ℕ) : FeeArith acc bound :=
  ⟨PerThing.fromRational, Arithmetic.weightToFee bound⟩

theorem FeeArith.model_laws (hacc : 0 < acc) (bound : ℕ) : (FeeArith.model acc bound).Laws where
  fromRational_parts _ _ hq hpq := PerThing.fromRational_of_le hq hpq
  weightToFee_linear frac _ hw := weightToFee_linear_frac hw frac hacc

end AlsaniaChain.Arithmetic
