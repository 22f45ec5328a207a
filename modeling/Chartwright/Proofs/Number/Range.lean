import Chartwright.Number.Binary64
import Mathlib.Algebra.Group.Nat.Defs

/-!
The integers that are beyond all finite floating-point numbers: those at least as far from zero as
the middle between the greatest number and the power of two that would come next.
-/

namespace Chartwright
namespace Binary64

def halfUnit : Nat := 2 ^ 970

theorem half_unit_times (bits : Nat) : halfUnit * 2 ^ bits = 2 ^ (970 + bits) := by
  unfold halfUnit
  rw [Nat.pow_add]

theorem power_within {power bits : Nat} (within : power ≤ 970 + bits) :
    2 ^ power ≤ halfUnit * 2 ^ bits := by
  rw [half_unit_times]
  exact Nat.pow_le_pow_right (by decide) within

theorem power_beyond {power bits : Nat} (beyond : 970 + bits ≤ power) :
    halfUnit * 2 ^ bits ≤ 2 ^ power := by
  rw [half_unit_times]
  exact Nat.pow_le_pow_right (by decide) beyond

theorem half_unit_positive : 0 < halfUnit := by
  have one : 2 ^ 0 ≤ halfUnit * 2 ^ 0 := power_within (Nat.zero_le _)
  omega

/-- The middle between the greatest number, which has 53 bits, and the next power of two. -/
def overflowBound : Nat := halfUnit * (2 * 2 ^ 53 - 1)

-- The leading bit of an integer gives the exponent at once, so the guess is never corrected.
theorem exponent_of_integer (n : Nat) (positive : 0 < n) :
    exponentOf n 1 = (n.log2 : Int) - 52 := by
  have leading : 2 ^ n.log2 ≤ n := Nat.log2_self_le (by omega)
  have exact : ¬(scaled n 1 ((n.log2 : Int) - 52)).1 <
      (scaled n 1 ((n.log2 : Int) - 52)).2 * Nat.pow 2 52 := by
    unfold scaled
    by_cases small : (n.log2 : Int) - 52 < 0
    · have shift : 2 ^ n.log2 * 2 ^ (-((n.log2 : Int) - 52)).toNat = 2 ^ 52 := by
        rw [← Nat.pow_add]
        congr 1
        omega
      have grown := Nat.mul_le_mul_right (2 ^ (-((n.log2 : Int) - 52)).toNat) leading
      simp only [small, ↓reduceIte, Nat.pow_eq]
      omega
    · have shift : 2 ^ ((n.log2 : Int) - 52).toNat * 2 ^ 52 = 2 ^ n.log2 := by
        rw [← Nat.pow_add]
        congr 1
        omega
      simp only [small, ↓reduceIte, Nat.pow_eq]
      omega
  have guess : (n.log2 : Int) - (Nat.log2 1 : Nat) - 52 = (n.log2 : Int) - 52 := by
    rw [show Nat.log2 1 = 0 from by decide]
    omega
  simp only [exponentOf, guess, if_neg exact, minExponent]
  omega

/-- A quotient of 53 bits is rounded up to one of 54 exactly in the last half of the last unit. -/
theorem rounded_quotient_fills (n half : Nat) (positive : 0 < half)
    (below : n / (2 * half) < 2 ^ 53) :
    roundedQuotient n (2 * half) = 2 ^ 53 ↔ half * (2 * 2 ^ 53 - 1) ≤ n := by
  have parts := Nat.div_add_mod n (2 * half)
  have rest := Nat.mod_lt n (show 0 < 2 * half by omega)
  simp only [roundedQuotient]
  generalize n / (2 * half) = quotient at *
  generalize n % (2 * half) = remainder at *
  rw [Nat.mul_assoc] at parts
  by_cases last : quotient = 2 ^ 53 - 1
  · subst last
    by_cases lower : 2 * remainder < 2 * half
    · rw [if_pos lower]
      omega
    · rw [if_neg lower]
      split <;> omega
  · have short : half * quotient ≤ half * (2 ^ 53 - 2) := Nat.mul_le_mul_left half (by omega)
    by_cases lower : 2 * remainder < 2 * half
    · rw [if_pos lower]
      omega
    · rw [if_neg lower]
      split <;> omega

/-- A fraction of this exponent, with these parts after scaling, is finite unless it is too great or
its significand fills one bit too many. -/
theorem of_ratio_finite_iff (negative : Bool) {numerator denominator top bottom : Nat}
    {exponent : Int} (nonzero : ¬(numerator = 0 ∨ denominator = 0))
    (exact : exponentOf numerator denominator = exponent)
    (parts : scaled numerator denominator exponent = (top, bottom)) :
    (ofRatio negative numerator denominator).isFinite = true ↔
      exponent < maxExponent ∨
        (exponent = maxExponent ∧ roundedQuotient top bottom ≠ Nat.pow 2 53) := by
  unfold ofRatio
  rw [if_neg nonzero, exact]
  extract_lets same
  rw [show scaled numerator denominator same = (top, bottom) from parts]
  -- The powers are mere names from here on: the kernel must not compute with them.
  generalize Nat.pow 2 53 = full
  generalize Nat.pow 2 52 = leading
  dsimp only [same]
  by_cases filled : roundedQuotient top bottom = full
  · by_cases beyond : maxExponent < exponent + 1
    · have outside : ¬exponent < maxExponent := by omega
      simp [filled, beyond, outside, isFinite]
    · have inside : exponent < maxExponent := by omega
      simp [filled, beyond, inside, isFinite]
  · by_cases beyond : maxExponent < exponent
    · have outside : ¬exponent < maxExponent ∧ exponent ≠ maxExponent := by omega
      simp [filled, beyond, outside, isFinite]
    · have inside : exponent < maxExponent ∨ exponent = maxExponent := by omega
      simp [filled, beyond, inside, isFinite]

theorem scaled_up (n bits : Nat) : scaled n 1 (bits : Int) = (n, 2 ^ bits) := by
  have upward : ¬(bits : Int) < 0 := by omega
  simp [scaled, upward]

-- Only integers of 1024 bits are near the bound. They have the greatest exponent, so rounding
-- decides on them.
theorem of_integer_finite_iff (negative : Bool) (n : Nat) (positive : 0 < n) :
    (ofRatio negative n 1).isFinite = true ↔ n < overflowBound := by
  have nonzero : ¬(n = 0 ∨ 1 = 0) := by omega
  have lower : 2 ^ n.log2 ≤ n := Nat.log2_self_le (by omega)
  have upper : n < 2 ^ (n.log2 + 1) := Nat.lt_log2_self
  have unit := half_unit_positive
  unfold overflowBound
  rcases Nat.lt_trichotomy n.log2 1023 with small | middle | great
  · have bounded : 2 ^ (n.log2 + 1) ≤ halfUnit * 2 ^ 53 := power_within (by omega)
    rw [of_ratio_finite_iff negative nonzero (exponent_of_integer n positive) (Prod.eta _).symm]
    simp only [maxExponent]
    omega
  · have bounded : 2 ^ (n.log2 + 1) ≤ halfUnit * 2 ^ 54 := power_within (by omega)
    have parts : scaled n 1 ((970 + 1 : Nat) : Int) = (n, 2 * halfUnit) := by
      rw [scaled_up, ← half_unit_times 1, Nat.pow_one, Nat.mul_comm]
    have exponent : exponentOf n 1 = ((970 + 1 : Nat) : Int) := by
      rw [exponent_of_integer n positive]
      omega
    have short : n / (2 * halfUnit) < 2 ^ 53 := by
      rw [Nat.div_lt_iff_lt_mul (by omega)]
      omega
    rw [of_ratio_finite_iff negative nonzero exponent parts, Nat.pow_eq, ne_eq,
      rounded_quotient_fills n halfUnit unit short]
    simp [maxExponent]
  · have bounded : halfUnit * 2 ^ 54 ≤ 2 ^ n.log2 := power_beyond (by omega)
    rw [of_ratio_finite_iff negative nonzero (exponent_of_integer n positive) (Prod.eta _).symm]
    simp only [maxExponent]
    omega

/-- An integer has no floating-point number near it exactly if it is beyond the bound. -/
theorem of_int_none_iff (n : Int) : ofInt? n = none ↔ overflowBound ≤ n.natAbs := by
  have finite : ofInt? n = none ↔ ¬(ofInt n).isFinite = true := by
    unfold ofInt?
    cases ofInt n <;> simp [isFinite]
  rw [finite]
  rcases Nat.eq_zero_or_pos n.natAbs with zero | positive
  · have bound : 0 < overflowBound := Nat.mul_pos half_unit_positive (by decide)
    have ends : (ofInt n).isFinite = true := by
      unfold ofInt ofRatio
      rw [if_pos (.inl zero)]
      rfl
    simp only [ends, not_true_eq_false, false_iff]
    omega
  · unfold ofInt
    rw [of_integer_finite_iff _ _ positive]
    omega

end Binary64
end Chartwright
