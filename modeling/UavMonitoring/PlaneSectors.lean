import Mathlib.Analysis.SpecialFunctions.Complex.Arg

namespace UavMonitoring.PlaneSectors

open Complex

variable {z w : ℂ}

theorem norm_pos_of_arg_pos (h : 0 < arg z) : 0 < ‖z‖ := by
  rw [norm_pos_iff]
  rintro rfl
  simp at h

theorem sin_lt_cos {θ : ℝ} (h : 0 ≤ θ) (h' : θ < Real.pi / 4) : Real.sin θ < Real.cos θ := by
  rw [← Real.cos_pi_div_two_sub]
  apply Real.cos_lt_cos_of_nonneg_of_le_pi h <;> linarith [Real.pi_pos]

theorem cos_lt_sin {θ : ℝ} (h : Real.pi / 4 < θ) (h' : θ ≤ Real.pi / 2) : Real.cos θ < Real.sin θ := by
  rw [← Real.cos_pi_div_two_sub]
  apply Real.cos_lt_cos_of_nonneg_of_le_pi <;> linarith [Real.pi_pos]

theorem of_arg_lt_pi_div_four (h : 0 < arg z) (h' : arg z < Real.pi / 4) :
    0 < z.im ∧ z.im < z.re := by
  have hpos := norm_pos_of_arg_pos h
  rw [← norm_mul_sin_arg z, ← norm_mul_cos_arg z]
  refine ⟨mul_pos hpos (Real.sin_pos_of_pos_of_lt_pi h ?_), ?_⟩
  · linarith [Real.pi_pos]
  · exact mul_lt_mul_of_pos_left (sin_lt_cos h.le h') hpos

theorem of_arg_eq_pi_div_four (h : arg z = Real.pi / 4) : z.re = z.im ∧ 0 < z.re := by
  have hpos := norm_pos_of_arg_pos (h.symm ▸ by positivity : 0 < arg z)
  rw [← norm_mul_sin_arg z, ← norm_mul_cos_arg z, h, Real.sin_pi_div_four, Real.cos_pi_div_four]
  exact ⟨rfl, by positivity⟩

theorem of_arg_le_pi_div_two (h : Real.pi / 4 < arg z) (h' : arg z ≤ Real.pi / 2) :
    0 ≤ z.re ∧ z.re < z.im := by
  have hpos := norm_pos_of_arg_pos (h.trans' (by positivity))
  rw [← norm_mul_sin_arg z, ← norm_mul_cos_arg z]
  refine ⟨mul_nonneg hpos.le (Real.cos_nonneg_of_mem_Icc ⟨?_, h'⟩), ?_⟩
  · linarith [Real.pi_pos]
  · exact mul_lt_mul_of_pos_left (cos_lt_sin h h') hpos

theorem of_arg_le_three_pi_div_four (h : Real.pi / 2 < arg z) (h' : arg z ≤ 3 * Real.pi / 4) :
    z.re < 0 ∧ -z.re ≤ z.im := by
  have hpos := norm_pos_of_arg_pos (h.trans' (by positivity))
  have hcos : -Real.cos (arg z) ≤ Real.sin (arg z) := by
    rw [← Real.cos_pi_sub, ← Real.cos_sub_pi_div_two]
    apply Real.cos_le_cos_of_nonneg_of_le_pi <;> linarith [Real.pi_pos]
  rw [← norm_mul_sin_arg z, ← norm_mul_cos_arg z, ← mul_neg]
  refine ⟨mul_neg_of_pos_of_neg hpos (Real.cos_neg_of_pi_div_two_lt_of_lt h ?_), ?_⟩
  · linarith [Real.pi_pos]
  · exact mul_le_mul_of_nonneg_left hcos hpos.le

theorem of_three_pi_div_four_lt_arg (h : 3 * Real.pi / 4 < arg z) : 0 ≤ z.im ∧ z.im < -z.re := by
  have hpos := norm_pos_of_arg_pos (h.trans' (by positivity))
  have hle := arg_le_pi z
  have hcos : Real.sin (arg z) < -Real.cos (arg z) := by
    rw [← Real.cos_pi_sub, ← Real.cos_sub_pi_div_two]
    apply Real.cos_lt_cos_of_nonneg_of_le_pi <;> linarith [Real.pi_pos]
  rw [← norm_mul_sin_arg z, ← norm_mul_cos_arg z, ← mul_neg]
  refine ⟨mul_nonneg hpos.le (Real.sin_nonneg_of_nonneg_of_le_pi ?_ hle), ?_⟩
  · linarith [Real.pi_pos]
  · exact mul_lt_mul_of_pos_left hcos hpos

def Aligned (z w : ℂ) : Prop := |z.re * w.im - z.im * w.re| ≤ z.re * w.re + z.im * w.im

/-- Vectors of the same eighth of the plane are aligned; by the symmetries of
the plane the eighth may be the one between the first axis and the diagonal. -/
theorem abs_cross_le_dot {p q p' q' : ℝ} (hp : 0 ≤ p) (hpq : p ≤ q) (hp' : 0 ≤ p') (hpq' : p' ≤ q') :
    |q * p' - p * q'| ≤ q * q' + p * p' := by
  have hq := hp.trans hpq
  have hq' := hp'.trans hpq'
  rw [abs_le]
  constructor
  · have h := mul_nonneg (sub_nonneg.mpr hpq) hq'
    have h₁ := mul_nonneg hp hp'
    have h₂ := mul_nonneg hq hp'
    linarith
  · have h := mul_nonneg hq (sub_nonneg.mpr hpq')
    have h₁ := mul_nonneg hp hp'
    have h₂ := mul_nonneg hp hq'
    linarith

end UavMonitoring.PlaneSectors
