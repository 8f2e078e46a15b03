import Mathlib.Algebra.Order.Field.Basic
import Mathlib.Data.Int.Log
import Mathlib.Data.Rat.Floor
import Mathlib.Tactic.Linarith
import Mathlib.Tactic.Positivity
import Mathlib.Tactic.Ring

namespace UavMonitoring.Rounding

/-- An arithmetic whose results are those of the field up to a relative error. -/
structure Arithmetic (K : Type) [Field K] [LinearOrder K] where
  round : K → K
  ε : K
  nonneg : 0 ≤ ε
  small : ε < 1
  close : ∀ x, |round x - x| ≤ ε * |x|

section General

variable {K : Type} [Field K] [LinearOrder K]

def Arithmetic.divError (r : Arithmetic K) : K := (1 + r.ε) * (1 + r.ε) / (1 - r.ε) - 1

variable [IsStrictOrderedRing K]

def unrounded : Arithmetic K where
  round := id
  ε := 0
  nonneg := le_rfl
  small := zero_lt_one
  close x := by simp

theorem divError_unrounded : (unrounded : Arithmetic K).divError = 0 := by
  simp [Arithmetic.divError, unrounded]

variable (r : Arithmetic K) {x y : K}

theorem Arithmetic.round_bounds (hx : 0 ≤ x) : (1 - r.ε) * x ≤ r.round x ∧ r.round x ≤ (1 + r.ε) * x := by
  have hclose := abs_le.mp (r.close x)
  rw [abs_of_nonneg hx] at hclose
  constructor <;> linarith [hclose.1, hclose.2]

theorem Arithmetic.round_zero : r.round 0 = 0 := by
  have hclose := r.close 0
  rwa [sub_zero, abs_zero, mul_zero, abs_nonpos_iff] at hclose

theorem Arithmetic.round_pos (hx : 0 < x) : 0 < r.round x :=
  (mul_pos (sub_pos.mpr r.small) hx).trans_le (r.round_bounds hx.le).1

theorem Arithmetic.div_mul_close (hx : 0 ≤ x) (hy : 0 < y) :
    |r.round (r.round x / r.round y) * y - x| ≤ r.divError * x := by
  have hlow : 0 < 1 - r.ε := sub_pos.mpr r.small
  have hhigh : 0 < 1 + r.ε := add_pos_of_pos_of_nonneg one_pos r.nonneg
  obtain ⟨hx₁, hx₂⟩ := r.round_bounds hx
  obtain ⟨hy₁, hy₂⟩ := r.round_bounds hy.le
  have hy' := r.round_pos hy
  have hx' : 0 ≤ r.round x := (mul_nonneg hlow.le hx).trans hx₁
  obtain ⟨hq₁, hq₂⟩ := r.round_bounds (div_nonneg hx' hy'.le)
  rw [Arithmetic.divError, abs_le]
  have hupper : r.round (r.round x / r.round y) * y ≤ (1 + r.ε) * (1 + r.ε) / (1 - r.ε) * x := by
    calc r.round (r.round x / r.round y) * y
        ≤ (1 + r.ε) * ((1 + r.ε) * x / ((1 - r.ε) * y)) * y := by
          gcongr
          exact hq₂.trans (by gcongr)
      _ = (1 + r.ε) * (1 + r.ε) / (1 - r.ε) * x := by field_simp
  have hlower : (1 - r.ε) * (1 - r.ε) / (1 + r.ε) * x ≤ r.round (r.round x / r.round y) * y := by
    calc (1 - r.ε) * (1 - r.ε) / (1 + r.ε) * x
        = (1 - r.ε) * ((1 - r.ε) * x / ((1 + r.ε) * y)) * y := by field_simp
      _ ≤ r.round (r.round x / r.round y) * y := by
          gcongr
          exact le_trans (by gcongr) hq₁
  -- the error below is no greater than the one above
  have hboth : 2 * x ≤ (1 - r.ε) * (1 - r.ε) / (1 + r.ε) * x + (1 + r.ε) * (1 + r.ε) / (1 - r.ε) * x := by
    rw [← add_mul]
    apply mul_le_mul_of_nonneg_right _ hx
    rw [div_add_div _ _ hhigh.ne' hlow.ne', le_div_iff₀ (mul_pos hhigh hlow)]
    nlinarith [sq_nonneg r.ε]
  constructor <;> linarith

end General

section Binary

def halfEven (x : ℚ) : ℤ :=
  if x - ⌊x⌋ < 1 / 2 ∨ x - ⌊x⌋ = 1 / 2 ∧ 2 ∣ ⌊x⌋ then ⌊x⌋ else ⌊x⌋ + 1

theorem abs_halfEven_sub_le (x : ℚ) : |halfEven x - x| ≤ 1 / 2 := by
  have hlow := Int.floor_le x
  have hhigh := Int.lt_floor_add_one x
  rw [halfEven, abs_le]
  split
  · next hdown => rcases hdown with hlt | ⟨heq, _⟩ <;> constructor <;> linarith
  · next hup =>
      have hge : 1 / 2 ≤ x - ⌊x⌋ := not_lt.mp fun hlt => hup (.inl hlt)
      push_cast
      constructor <;> linarith

/-- The last place of `x` when it is written with `p + 1` binary digits. -/
def ulp (p : Nat) (x : ℚ) : ℚ := 2 ^ (Int.log 2 |x| - p)

theorem ulp_le {p : Nat} {x : ℚ} (hx : x ≠ 0) : ulp p x ≤ |x| / 2 ^ p := by
  have hlog : (2 : ℚ) ^ Int.log 2 |x| ≤ |x| := Int.zpow_log_le_self one_lt_two (abs_pos.mpr hx)
  rw [ulp, zpow_sub₀ two_ne_zero, zpow_natCast]
  gcongr

def toBinary (p : Nat) (x : ℚ) : ℚ := halfEven (x / ulp p x) * ulp p x

theorem abs_toBinary_sub_le (p : Nat) (x : ℚ) : |toBinary p x - x| ≤ 1 / 2 ^ (p + 1) * |x| := by
  have hulp : 0 < ulp p x := zpow_pos two_pos _
  by_cases hx : x = 0
  · simp [toBinary, hx, halfEven]
  · calc |toBinary p x - x|
        = |halfEven (x / ulp p x) - x / ulp p x| * ulp p x := by
          rw [toBinary, ← abs_of_pos hulp, ← abs_mul, abs_of_pos hulp, sub_mul,
            div_mul_cancel₀ _ hulp.ne']
      _ ≤ 1 / 2 * (|x| / 2 ^ p) := by
          gcongr
          · exact abs_halfEven_sub_le _
          · exact ulp_le hx
      _ = 1 / 2 ^ (p + 1) * |x| := by
          rw [pow_succ]
          ring

/-- Rounding to `p + 1` binary digits, with exponents of any size. -/
def binary (p : Nat) : Arithmetic ℚ where
  round := toBinary p
  ε := 1 / 2 ^ (p + 1)
  nonneg := by positivity
  small := by
    rw [div_lt_one (by positivity)]
    exact one_lt_pow₀ one_lt_two p.succ_ne_zero
  close := abs_toBinary_sub_le p

/-- The arithmetic of a `double` that neither overflows nor underflows. -/
def binary64 : Arithmetic ℚ := binary 52

example : binary64.round (1 / 10) = 3602879701896397 / 2 ^ 55 := by
  decide +kernel

end Binary

end UavMonitoring.Rounding
