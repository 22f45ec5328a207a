import Chartwright.Number.Binary64
import Mathlib.Algebra.Order.Field.Power
import Mathlib.Algebra.Field.Rat
import Mathlib.Algebra.Order.Ring.Rat
import Mathlib.Tactic.Ring

/-!
Numbers by what they stand for: a rational, an infinity or nothing. Two numbers coincide exactly
when they stand for the same, so coinciding is an equivalence. Finite numbers are ordered as the
rationals they stand for.
-/

namespace Chartwright
namespace Binary64

def rational (negative : Bool) (significand : Nat) (exponent : Int) : ℚ :=
  (if negative then -(significand : ℚ) else significand) * 2 ^ exponent

/-- What a number stands for. What is no number stands for its origin. -/
inductive Standing where
  | origin (payload : Nat)
  | infinite (negative : Bool)
  | rational (value : ℚ)

def standing : Binary64 → Standing
  | .nan payload => .origin payload
  | .infinite negative => .infinite negative
  | .finite negative significand exponent => .rational (rational negative significand exponent)

theorem shifted_significand (negative : Bool) (significand : Nat) (exponent base : Int)
    (below : base ≤ exponent) :
    (((if negative then -((significand * 2 ^ (exponent - base).toNat : Nat) : Int)
      else (significand * 2 ^ (exponent - base).toNat : Nat)) : Int) : ℚ) * 2 ^ base =
      rational negative significand exponent := by
  have shift : ((exponent - base).toNat : Int) = exponent - base := Int.toNat_of_nonneg (by omega)
  have power : (2 : ℚ) ^ (exponent - base).toNat * 2 ^ base = 2 ^ exponent := by
    rw [← zpow_natCast, shift, ← zpow_add₀ (by norm_num)]
    congr 1
    omega
  cases negative <;> simp [rational, mul_assoc, power]

theorem aligned_equal (signA : Bool) (a : Nat) (expA : Int) (signB : Bool) (b : Nat) (expB : Int) :
    (aligned signA a expA signB b expB).1 = (aligned signA a expA signB b expB).2 ↔
      rational signA a expA = rational signB b expB := by
  have left := shifted_significand signA a expA (min expA expB) (min_le_left _ _)
  have right := shifted_significand signB b expB (min expA expB) (min_le_right _ _)
  have nonzero : (2 : ℚ) ^ min expA expB ≠ 0 := zpow_ne_zero _ (by norm_num)
  rw [← left, ← right, mul_left_inj' nonzero, Int.cast_inj]
  rfl

/-- Numbers are equal by value exactly when they stand for the same and are numbers. -/
theorem same_iff (x y : Binary64) :
    x.same y = true ↔ x.isNan = false ∧ x.standing = y.standing := by
  cases x with
  | nan payload => cases y <;> simp [same, order?, isNan]
  | infinite negative =>
      cases y with
      | nan other => simp [same, order?, isNan, standing]
      | infinite other => cases negative <;> cases other <;> simp [same, order?, isNan, standing]
      | finite sign b expB => cases negative <;> simp [same, order?, isNan, standing]
  | finite signA a expA =>
      cases y with
      | nan other => simp [same, order?, isNan, standing]
      | infinite other => cases other <;> simp [same, order?, isNan, standing]
      | finite signB b expB =>
          simp [same, order?, isNan, standing, aligned_equal]

theorem coincides_iff (x y : Binary64) : x.coincides y = true ↔ x.standing = y.standing := by
  have byValue := same_iff x y
  cases x with
  | nan payload =>
      have apart : (Binary64.nan payload).same y = false := by
        cases y <;> rfl
      cases y <;> simp [coincides, apart, isNan, standing]
  | infinite negative => simpa [coincides, isNan] using byValue
  | finite sign significand exponent => simpa [coincides, isNan] using byValue

/-! The order of finite numbers. -/

theorem aligned_less (signA : Bool) (a : Nat) (expA : Int) (signB : Bool) (b : Nat) (expB : Int) :
    (aligned signA a expA signB b expB).1 < (aligned signA a expA signB b expB).2 ↔
      rational signA a expA < rational signB b expB := by
  have left := shifted_significand signA a expA (min expA expB) (min_le_left _ _)
  have right := shifted_significand signB b expB (min expA expB) (min_le_right _ _)
  have positive : (0 : ℚ) < 2 ^ min expA expB := zpow_pos (by norm_num) _
  rw [← left, ← right, mul_lt_mul_iff_left₀ positive, Int.cast_lt]
  rfl

/-- The rational that a finite number stands for; zero for all others. -/
def amount : Binary64 → ℚ
  | .finite negative significand exponent => rational negative significand exponent
  | _ => 0

theorem less_iff {x y : Binary64} (finiteX : x.isFinite = true) (finiteY : y.isFinite = true) :
    x.less y = true ↔ x.amount < y.amount := by
  cases x with
  | finite signA a expA =>
      cases y with
      | finite signB b expB => simp [less, order?, amount, compare_lt_iff_lt, aligned_less]
      | nan _ | infinite _ => cases finiteY
  | nan _ | infinite _ => cases finiteX

theorem same_amount_iff {x y : Binary64} (finiteX : x.isFinite = true)
    (finiteY : y.isFinite = true) : x.same y = true ↔ x.amount = y.amount := by
  cases x with
  | finite signA a expA =>
      cases y with
      | finite signB b expB => simp [same_iff, isNan, standing, amount]
      | nan _ | infinite _ => cases finiteY
  | nan _ | infinite _ => cases finiteX

theorem at_most_iff {x y : Binary64} (finiteX : x.isFinite = true) (finiteY : y.isFinite = true) :
    x.atMost y = true ↔ x.amount ≤ y.amount := by
  rw [atMost, Bool.or_eq_true, less_iff finiteX finiteY, same_amount_iff finiteX finiteY,
    le_iff_lt_or_eq]

end Binary64
end Chartwright
