import Mathlib.Algebra.Order.Field.Basic
import Mathlib.Algebra.Order.Floor.Defs
import Mathlib.Data.Nat.Sqrt
import Mathlib.Data.Rat.Floor
import Mathlib.Tactic.Linarith
import Mathlib.Tactic.Positivity

namespace UavMonitoring.Basics

/-- Simulator time, counted in nanoseconds. -/
abbrev Time := Int

def seconds (n : Int) : Time := n * 1000000000

def minutes (n : Int) : Time := seconds (60 * n)

-- Numerals of `K` that several modules use, so that all that open this one find the same instance.
scoped instance atLeastTwo_two : Nat.AtLeastTwo 2 := ⟨by decide⟩

scoped instance atLeastTwo_eight : Nat.AtLeastTwo 8 := ⟨by decide⟩

scoped instance atLeastTwo_ten : Nat.AtLeastTwo 10 := ⟨by decide⟩

scoped instance atLeastTwo_thirty : Nat.AtLeastTwo 30 := ⟨by decide⟩

scoped instance atLeastTwo_thousand : Nat.AtLeastTwo 1000 := ⟨by decide⟩

scoped instance atLeastTwo_billion : Nat.AtLeastTwo 1000000000 := ⟨by decide⟩

variable {K : Type} [Field K]

def getSeconds (t : Time) : K := (t : K) / 1000000000

def getMilliSeconds (t : Time) : Int := t.tdiv 1000000

@[ext] structure Vector3D (K : Type) where
  x : K
  y : K
  z : K
deriving DecidableEq

instance : Zero (Vector3D K) := ⟨⟨0, 0, 0⟩⟩

instance : Add (Vector3D K) := ⟨fun a b => ⟨a.x + b.x, a.y + b.y, a.z + b.z⟩⟩

instance : Sub (Vector3D K) := ⟨fun a b => ⟨a.x - b.x, a.y - b.y, a.z - b.z⟩⟩

/-- The parts of the C mathematics library the program calls. Doubles are
taken as exact numbers of an ordered field. -/
structure CMath (K : Type) where
  sqrt : K → K
  atan2 : K → K → K
  pi : K

def CMath.SqrtPositive [LinearOrder K] (c : CMath K) : Prop :=
  ∀ x, 0 ≤ x → 0 ≤ c.sqrt x ∧ (c.sqrt x = 0 ↔ x = 0)

def CMath.SqrtExact [LinearOrder K] (c : CMath K) : Prop :=
  ∀ x, 0 ≤ x → 0 ≤ c.sqrt x ∧ c.sqrt x * c.sqrt x = x

theorem CMath.SqrtExact.positive [LinearOrder K] {c : CMath K} (h : c.SqrtExact) :
    c.SqrtPositive := by
  intro x hx
  obtain ⟨hnonneg, hsq⟩ := h x hx
  refine ⟨hnonneg, ?_⟩
  rw [← mul_self_eq_zero, hsq]

def getLength (c : CMath K) (v : Vector3D K) : K := c.sqrt (v.x * v.x + v.y * v.y + v.z * v.z)

def calculateDistance (c : CMath K) (a b : Vector3D K) : K := getLength c (b - a)

structure Metric [LinearOrder K] {P : Type} (dist : P → P → K) : Prop where
  nonneg : ∀ a b, 0 ≤ dist a b
  eq_zero_iff : ∀ a b, dist a b = 0 ↔ a = b
  symm : ∀ a b, dist a b = dist b a
  triangle : ∀ a b c, dist a c ≤ dist a b + dist b c

/-- The division of two doubles, `none` standing for an infinity or a NaN. -/
def divDouble [DecidableEq K] (a b : K) : Option K := if b = 0 then none else some (a / b)

/-- The conversion `(uint32_t) d` truncates; the language leaves the result
open, here `junk`, when `d` is not finite or out of range. -/
def toUint32 [LinearOrder K] [FloorRing K] (junk : UInt32) : Option K → UInt32
  | some d => if -1 < d ∧ d < 2 ^ 32 then UInt32.ofNat ⌊d⌋.toNat else junk
  | none => junk

@[simp] theorem zero_x : (0 : Vector3D K).x = 0 := rfl
@[simp] theorem zero_y : (0 : Vector3D K).y = 0 := rfl
@[simp] theorem zero_z : (0 : Vector3D K).z = 0 := rfl
@[simp] theorem add_x (a b : Vector3D K) : (a + b).x = a.x + b.x := rfl
@[simp] theorem add_y (a b : Vector3D K) : (a + b).y = a.y + b.y := rfl
@[simp] theorem add_z (a b : Vector3D K) : (a + b).z = a.z + b.z := rfl
@[simp] theorem sub_x (a b : Vector3D K) : (a - b).x = a.x - b.x := rfl
@[simp] theorem sub_y (a b : Vector3D K) : (a - b).y = a.y - b.y := rfl
@[simp] theorem sub_z (a b : Vector3D K) : (a - b).z = a.z - b.z := rfl

section Length

variable [LinearOrder K] [IsStrictOrderedRing K]

theorem squares_nonneg (v : Vector3D K) :
    0 ≤ v.x * v.x + v.y * v.y + v.z * v.z :=
  add_nonneg (add_nonneg (mul_self_nonneg _) (mul_self_nonneg _)) (mul_self_nonneg _)

theorem squares_eq_zero_iff (v : Vector3D K) :
    v.x * v.x + v.y * v.y + v.z * v.z = 0 ↔ v.x = 0 ∧ v.y = 0 ∧ v.z = 0 := by
  constructor
  · intro h
    have hx := mul_self_nonneg v.x
    have hy := mul_self_nonneg v.y
    have hz := mul_self_nonneg v.z
    refine ⟨mul_self_eq_zero.mp ?_, mul_self_eq_zero.mp ?_, mul_self_eq_zero.mp ?_⟩ <;> linarith
  · rintro ⟨hx, hy, hz⟩
    simp [hx, hy, hz]

theorem getLength_eq_zero_iff {c : CMath K} (hc : c.SqrtPositive) (v : Vector3D K) :
    getLength c v = 0 ↔ v.x = 0 ∧ v.y = 0 ∧ v.z = 0 := by
  rw [getLength, (hc _ (squares_nonneg v)).2, squares_eq_zero_iff]

theorem getLength_eq_zero {c : CMath K} (hc : c.SqrtPositive) (v : Vector3D K) :
    getLength c v = 0 ↔ v = 0 := by
  rw [getLength_eq_zero_iff hc, Vector3D.ext_iff]
  rfl

theorem getLength_zero {c : CMath K} (hc : c.SqrtPositive) : getLength c (0 : Vector3D K) = 0 :=
  (getLength_eq_zero hc 0).mpr rfl

end Length

section Grid

variable [LinearOrder K]

def gridDistance (a b : Vector3D K) : K := |a.x - b.x| + |a.y - b.y| + |a.z - b.z|

theorem gridDistance_metric [IsStrictOrderedRing K] : Metric (gridDistance (K := K)) where
  nonneg a b := by
    rw [gridDistance]
    positivity
  eq_zero_iff a b := by
    have hx := abs_nonneg (a.x - b.x)
    have hy := abs_nonneg (a.y - b.y)
    have hz := abs_nonneg (a.z - b.z)
    constructor
    · intro h
      rw [gridDistance] at h
      have hx' : |a.x - b.x| = 0 := by linarith
      have hy' : |a.y - b.y| = 0 := by linarith
      have hz' : |a.z - b.z| = 0 := by linarith
      rw [abs_eq_zero, sub_eq_zero] at hx' hy' hz'
      exact Vector3D.ext hx' hy' hz'
    · rintro rfl
      simp [gridDistance]
  symm a b := by
    rw [gridDistance, gridDistance, abs_sub_comm a.x, abs_sub_comm a.y, abs_sub_comm a.z]
  triangle a b c := by
    have hx := abs_sub_le a.x b.x c.x
    have hy := abs_sub_le a.y b.y c.y
    have hz := abs_sub_le a.z b.z c.z
    simp only [gridDistance]
    linarith

end Grid

def rationalRoot (q : ℚ) : ℚ := Nat.sqrt q.num.toNat / Nat.sqrt q.den

def rationalSqrt (q : ℚ) : ℚ :=
  if rationalRoot q * rationalRoot q = q then rationalRoot q else (1 + q) / 2

/-- A computable stand-in for the library on rationals: the root as above, and
angles in degrees, exact on the axes. -/
def rationalMath : CMath ℚ where
  sqrt := rationalSqrt
  atan2 y x := if y = 0 then (if 0 ≤ x then 0 else 180) else if 0 < y then 90 else -90
  pi := 180

theorem rationalMath_sqrtPositive : rationalMath.SqrtPositive := by
  intro q hq
  change 0 ≤ rationalSqrt q ∧ (rationalSqrt q = 0 ↔ q = 0)
  by_cases h : rationalRoot q * rationalRoot q = q
  · have hroot : 0 ≤ rationalRoot q := by unfold rationalRoot; positivity
    rw [rationalSqrt, if_pos h]
    exact ⟨hroot, by rw [← mul_self_eq_zero, h]⟩
  · have hne : q ≠ 0 := by
      rintro rfl
      exact h (by simp [rationalRoot])
    have hpos : 0 < (1 + q) / 2 := by linarith
    rw [rationalSqrt, if_neg h]
    exact ⟨hpos.le, iff_of_false hpos.ne' hne⟩

end UavMonitoring.Basics
