import AlsaniaChain.Library.PerThing
import AlsaniaChain.Runtime.Governance

/-! # The weight-to-fee polynomial

`WeightToFee` (`runtime/src/lib.rs`) is a polynomial of one term: with
`p = MILLICENTS / P_FACTOR` and `q = Q_FACTOR * ExtrinsicBaseWeight::get().ref_time()`, the
coefficient has integer part `p / q` and the `Perbill` fraction `from_rational(p % q, q)`, of
degree `POLY_DEGREE`. Here `p = 10⁸` and `q = 1.25 · 10¹⁰`, so the integer part is zero and the
fraction is `8 · 10⁶` parts per billion.

`from_rational` and `weight_to_fee` are the parameter `arith`; the results assume of them only
`FeeArith.Laws`, which the model of `Library/PerThing` satisfies.

`weightToFee_eq`: every weight is charged `(ref_time + 62) / 125`, its reference time divided by
125 and rounded to the nearest, ties down. The base extrinsic weight thus costs
`MILLICENTS / (P_FACTOR * Q_FACTOR) = 10⁶`, a thousandth of a millicent, where the comment on
`polynomial` speaks of a tenth.
-/

namespace AlsaniaChain.Fees
open Arithmetic Governance
set_option autoImplicit false

/-- `P_FACTOR`, `Q_FACTOR` and `POLY_DEGREE` of `runtime/src/constants.rs`. -/
def pFactor : ℕ := 10

def qFactor : ℕ := 100

def polyDegree : ℕ := 1

/-- `WEIGHT_REF_TIME_PER_NANOS`. -/
def weightRefTimePerNanos : ℕ := 1000

/-- The largest `u64` and the largest `u128`, where the saturating operations stop. -/
def u64Max : ℕ := 2 ^ 64 - 1

def u128Max : ℕ := 2 ^ 128 - 1

/-- `ExtrinsicBaseWeight`'s reference time: `WEIGHT_REF_TIME_PER_NANOS.saturating_mul(125_000)`. -/
def extrinsicBaseWeight : ℕ := satMul u64Max weightRefTimePerNanos 125000

/-- `Perbill`, parts per billion. -/
abbrev Perbill := PerThing 1000000000

section Polynomial
variable (arith : FeeArith 1000000000 u128Max)

/-- `WeightToFee::polynomial()`. -/
def WeightToFee.polynomial : List (Coefficient 1000000000) :=
  let p := millicents / pFactor
  let q := qFactor * extrinsicBaseWeight
  [{ degree := polyDegree, negative := false,
     coeffFrac := arith.fromRational (p % q) q, coeffInteger := p / q }]

/-- `WeightToFee::weight_to_fee` of a weight with reference time `refTime`, in `u128`. -/
def WeightToFee.weightToFee (refTime : UInt64) : ℕ :=
  arith.weightToFee (WeightToFee.polynomial arith) refTime.toNat

end Polynomial

/-- Eight million parts per billion, `1 / 125`. -/
def perbill8m : Perbill := ⟨8000000, by norm_num⟩

theorem extrinsicBaseWeight_eq : extrinsicBaseWeight = 125000000 := by
  simp [extrinsicBaseWeight, satMul, weightRefTimePerNanos, u64Max]

section Polynomial
variable {arith : FeeArith 1000000000 u128Max}

theorem polynomial_eq (harith : arith.Laws) :
    WeightToFee.polynomial arith = [⟨0, perbill8m, false, 1⟩] := by
  have hq : qFactor * extrinsicBaseWeight = 12500000000 := by
    rw [extrinsicBaseWeight_eq]
    rfl
  have hp : millicents / pFactor = 100000000 := rfl
  have hfrac : arith.fromRational (100000000 % 12500000000) 12500000000 = perbill8m := by
    ext
    rw [harith.fromRational_parts _ _ (by norm_num) (by norm_num)]
    rfl
  simp only [WeightToFee.polynomial, hq, hp, hfrac, polyDegree]

/-- Every weight is charged its reference time divided by 125, rounded to the nearest with ties
rounded down; the base extrinsic weight costs `MILLICENTS / (P_FACTOR * Q_FACTOR)`. -/
theorem weightToFee_eq (harith : arith.Laws) (refTime : UInt64) :
    WeightToFee.weightToFee arith refTime = (refTime.toNat + 62) / 125 ∧
      WeightToFee.weightToFee arith (UInt64.ofNat extrinsicBaseWeight) =
        millicents / (pFactor * qFactor) := by
  have hfee : ∀ w : UInt64, WeightToFee.weightToFee arith w = (w.toNat + 62) / 125 := by
    intro w
    have hw : w.toNat ≤ u128Max := by
      have := w.toNat_lt
      simp only [u128Max]
      omega
    rw [WeightToFee.weightToFee, polynomial_eq harith, harith.weightToFee_linear _ _ hw]
    have hscale : divRound (w.toNat * perbill8m.parts) 1000000000 .nearestPrefDown =
        divRound w.toNat 125 .nearestPrefDown :=
      divRound_mul_right w.toNat 125 (k := 8000000) (by norm_num) _
    rw [hscale]
    simp only [divRound]
    split_ifs <;> omega
  refine ⟨hfee refTime, ?_⟩
  rw [hfee, extrinsicBaseWeight_eq]
  rfl

end Polynomial

/-- Under the model of `sp_arithmetic` and `sp_weights`, the base extrinsic weight. -/
theorem weightToFee_eq_base :
    (FeeArith.model 1000000000 u128Max).Laws ∧
      WeightToFee.weightToFee (FeeArith.model 1000000000 u128Max) 125000000 =
          (125000000 + 62) / 125 ∧
        WeightToFee.weightToFee (FeeArith.model 1000000000 u128Max)
            (UInt64.ofNat extrinsicBaseWeight) =
          millicents / (pFactor * qFactor) := by
  have hlaws : (FeeArith.model 1000000000 u128Max).Laws := FeeArith.model_laws (by norm_num) _
  exact ⟨hlaws, weightToFee_eq hlaws 125000000⟩

end AlsaniaChain.Fees
