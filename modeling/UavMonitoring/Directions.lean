import UavMonitoring.Clusters
import UavMonitoring.Headings
import UavMonitoring.PlaneSectors

namespace UavMonitoring.Directions

open Basics Clusters EdsMonitor Headings PlaneSectors

open Std (ExtTreeMap)

section Angles

open Complex

theorem degrees_lt_iff (θ k : ℝ) : θ * 180 / Real.pi < k ↔ θ < k * Real.pi / 180 := by
  rw [div_lt_iff₀ Real.pi_pos]
  constructor <;> intro h <;> linarith

theorem lt_degrees_iff (θ k : ℝ) : k < θ * 180 / Real.pi ↔ k * Real.pi / 180 < θ := by
  rw [lt_div_iff₀ Real.pi_pos]
  constructor <;> intro h <;> linarith

theorem degrees_le_iff (θ k : ℝ) : θ * 180 / Real.pi ≤ k ↔ θ ≤ k * Real.pi / 180 := by
  rw [div_le_iff₀ Real.pi_pos]
  constructor <;> intro h <;> linarith

/-- Where the vectors of a bucket head; the last bucket is for all that is left. -/
inductive Heads : Nat → ℂ → Prop
  | first (z : ℂ) (low : 0 < z.im) (high : z.im < z.re) : Heads 0 z
  | second (z : ℂ) (low : z.re < z.im) (high : 0 ≤ z.re) : Heads 1 z
  | third (z : ℂ) (low : z.re < 0) (high : -z.re ≤ z.im) : Heads 2 z
  | fourth (z : ℂ) (low : z.im < -z.re) (high : 0 ≤ z.im) : Heads 3 z
  | rest (z : ℂ) (south : z.im < 0 ∨ (z.im = 0 ∧ 0 ≤ z.re) ∨ (z.re = z.im ∧ 0 < z.re)) : Heads 7 z

theorem heads_direction (z : ℂ) : Heads (direction (arg z * 180 / Real.pi)) z := by
  have hpi := Real.pi_pos
  have hle := arg_le_pi z
  rw [direction]
  simp only [degrees_lt_iff, lt_degrees_iff, degrees_le_iff]
  split_ifs with h₀ h₁ h₂ h₃ h₄ h₅ h₆
  · obtain ⟨low, high⟩ := of_arg_lt_pi_div_four (z := z) (by linarith) (by linarith)
    exact .first z low high
  · obtain ⟨high, low⟩ := of_arg_le_pi_div_two (z := z) (by linarith) (by linarith)
    exact .second z low high
  · obtain ⟨low, high⟩ := of_arg_le_three_pi_div_four (z := z) (by linarith) (by linarith)
    exact .third z low high
  · obtain ⟨high, low⟩ := of_three_pi_div_four_lt_arg (z := z) (by linarith)
    exact .fourth z low high
  · linarith
  · linarith
  · linarith
  · apply Heads.rest
    rcases lt_trichotomy (arg z) 0 with hneg | hzero | hpos
    · exact .inl (arg_neg_iff.mp hneg)
    · obtain ⟨hre, him⟩ := arg_eq_zero_iff.mp hzero
      exact .inr (.inl ⟨him, hre⟩)
    · refine .inr (.inr (of_arg_eq_pi_div_four ?_))
      by_contra hne
      rcases lt_or_gt_of_ne hne with hlt | hgt
      · exact h₀ ⟨by linarith, by linarith⟩
      · have hright : Real.pi / 2 < arg z := by
          by_contra hn
          exact h₁ ⟨by linarith, by linarith⟩
        have hleft : 3 * Real.pi / 4 < arg z := by
          by_contra hn
          exact h₂ ⟨by linarith, by linarith⟩
        exact h₃ ⟨by linarith, by linarith⟩

end Angles

section Buckets

noncomputable def heading (q : List (EdsEntry ℝ)) : ℂ :=
  ⟨(backOf q).x - (frontOf q).x, (backOf q).y - (frontOf q).y⟩

theorem heads_directionOf (q : List (EdsEntry ℝ)) : Heads (directionOf realMath q) (heading q) :=
  heads_direction (heading q)

def LeftOver (z : ℂ) : Prop := z.im < 0 ∨ (z.im = 0 ∧ 0 < z.re) ∨ (z.re = z.im ∧ 0 < z.re)

theorem leftOver_of_heads {z : ℂ} (h : Heads 7 z) (hz : z ≠ 0) : LeftOver z := by
  cases h with
  | rest _ south =>
      rcases south with hsouth | ⟨him, hre⟩ | hdiagonal
      · exact .inl hsouth
      · exact .inr (.inl ⟨him, hre.lt_of_ne' fun h => hz (Complex.ext h him)⟩)
      · exact .inr (.inr hdiagonal)

theorem eq_seven_of_leftOver {i : Nat} {z : ℂ} (h : Heads i z) (hz : LeftOver z) : i = 7 := by
  cases h with
  | rest => rfl
  | first _ low high | second _ low high | third _ low high | fourth _ low high =>
      rcases hz with hsouth | ⟨him, hre⟩ | ⟨hdiagonal, hre⟩ <;> linarith

theorem aligned_of_heads {i : Nat} {z w : ℂ} (hz : Heads i z) (hw : Heads i w) (hi : i ≠ 7) :
    Aligned z w := by
  rw [Aligned]
  cases hz with
  | rest => exact absurd rfl hi
  | first _ low high =>
      cases hw with
      | first _ low' high' => exact abs_cross_le_dot low.le high.le low'.le high'.le
  | second _ low high =>
      cases hw with
      | second _ low' high' =>
          rw [abs_sub_comm, add_comm]
          exact abs_cross_le_dot high low.le high' low'.le
  | third _ low high =>
      cases hw with
      | third _ low' high' =>
          have h := abs_cross_le_dot (neg_nonneg.mpr low.le) high (neg_nonneg.mpr low'.le) high'
          rwa [mul_neg, neg_mul, neg_mul_neg, sub_neg_eq_add, neg_add_eq_sub,
            add_comm (z.im * w.im)] at h
  | fourth _ low high =>
      cases hw with
      | fourth _ low' high' =>
          have h := abs_cross_le_dot high low.le high' low'.le
          rwa [abs_sub_comm, mul_neg, neg_mul, neg_mul_neg, sub_neg_eq_add, neg_add_eq_sub] at h

theorem mem_directionCluster_iff {c : CMath ℝ} (m : Monitor ℝ) (i id : Nat) (q : List (EdsEntry ℝ)) :
    (directionCluster c m i)[id]? = some q ↔
      m.edsLost[id]? = some q ∧ 2 ≤ q.length ∧ directionOf c q = i := by
  rw [directionCluster, ExtTreeMap.getElem?_filter', Option.filter_eq_some_iff]
  simp

/-- The buckets hold the lost devices with two fixes, each once, and all
devices of a bucket that moved head the same way. -/
structure Grouped (m : Monitor ℝ) : Prop where
  once : ∀ (id : Nat) (q : List (EdsEntry ℝ)), m.edsLost[id]? = some q → 2 ≤ q.length →
    ∃! i, i < 8 ∧ (directionCluster realMath m i)[id]? = some q
  only : ∀ (i id : Nat) (q : List (EdsEntry ℝ)), (directionCluster realMath m i)[id]? = some q →
    m.edsLost[id]? = some q ∧ 2 ≤ q.length
  alike : ∀ (i id₁ id₂ : Nat) (q₁ q₂ : List (EdsEntry ℝ)),
    (directionCluster realMath m i)[id₁]? = some q₁ →
    (directionCluster realMath m i)[id₂]? = some q₂ → heading q₁ ≠ 0 → heading q₂ ≠ 0 →
    Aligned (heading q₁) (heading q₂)

theorem directionOf_lt (q : List (EdsEntry ℝ)) : directionOf realMath q < 8 := by
  have h := heads_directionOf q
  generalize directionOf realMath q = i at h ⊢
  cases h <;> decide

theorem existsUnique_bucket {m : Monitor ℝ} {id : Nat} {q : List (EdsEntry ℝ)}
    (hq : m.edsLost[id]? = some q) (htwo : 2 ≤ q.length) :
    ∃! i, i < 8 ∧ (directionCluster realMath m i)[id]? = some q := by
  refine ⟨directionOf realMath q, ⟨directionOf_lt q, ?_⟩, fun j hj => ?_⟩
  · exact (mem_directionCluster_iff m _ id q).mpr ⟨hq, htwo, rfl⟩
  · exact ((mem_directionCluster_iff m j id q).mp hj.2).2.2.symm

theorem bucket_of_leftOver {q : List (EdsEntry ℝ)} (h : LeftOver (heading q)) :
    directionOf realMath q = 7 ∧ heading q ≠ 0 := by
  refine ⟨eq_seven_of_leftOver (heads_directionOf q) h, fun hzero => ?_⟩
  rw [hzero] at h
  simp [LeftOver] at h

/-- The buckets group like directions exactly when the devices left over for
the last of them happen to. -/
theorem grouped_iff (m : Monitor ℝ) : Grouped m ↔
    ∀ (id₁ id₂ : Nat) (q₁ q₂ : List (EdsEntry ℝ)), m.edsLost[id₁]? = some q₁ →
      m.edsLost[id₂]? = some q₂ → 2 ≤ q₁.length → 2 ≤ q₂.length →
      LeftOver (heading q₁) → LeftOver (heading q₂) → Aligned (heading q₁) (heading q₂) := by
  constructor
  · rintro ⟨_, _, halike⟩ id₁ id₂ q₁ q₂ hq₁ hq₂ htwo₁ htwo₂ hleft₁ hleft₂
    obtain ⟨hseven₁, hne₁⟩ := bucket_of_leftOver hleft₁
    obtain ⟨hseven₂, hne₂⟩ := bucket_of_leftOver hleft₂
    exact halike 7 id₁ id₂ q₁ q₂ ((mem_directionCluster_iff m 7 id₁ q₁).mpr ⟨hq₁, htwo₁, hseven₁⟩)
      ((mem_directionCluster_iff m 7 id₂ q₂).mpr ⟨hq₂, htwo₂, hseven₂⟩) hne₁ hne₂
  · intro h
    refine ⟨fun _ _ => existsUnique_bucket, fun i id q hq => ?_,
      fun i id₁ id₂ q₁ q₂ hq₁ hq₂ hne₁ hne₂ => ?_⟩
    · obtain ⟨hlost, htwo, _⟩ := (mem_directionCluster_iff m i id q).mp hq
      exact ⟨hlost, htwo⟩
    · obtain ⟨hlost₁, htwo₁, rfl⟩ := (mem_directionCluster_iff m i id₁ q₁).mp hq₁
      obtain ⟨hlost₂, htwo₂, hsame⟩ := (mem_directionCluster_iff m _ id₂ q₂).mp hq₂
      have hheads₁ := heads_directionOf q₁
      have hheads₂ := heads_directionOf q₂
      rw [hsame] at hheads₂
      by_cases hseven : directionOf realMath q₁ = 7
      · rw [hseven] at hheads₁ hheads₂
        exact h id₁ id₂ q₁ q₂ hlost₁ hlost₂ htwo₁ htwo₂ (leftOver_of_heads hheads₁ hne₁)
          (leftOver_of_heads hheads₂ hne₂)
      · exact aligned_of_heads hheads₁ hheads₂ hseven

noncomputable def movedTo (x y : ℝ) : List (EdsEntry ℝ) := [⟨0, 0, 0⟩, ⟨x, y, seconds 10⟩]

theorem heading_movedTo (x y : ℝ) : heading (movedTo x y) = ⟨x, y⟩ := by
  simp [heading, movedTo, frontOf, backOf]

noncomputable def opposed : Monitor ℝ :=
  ⟨∅, [], ∅, ((∅ : HistoryMap ℝ).insert 1 (movedTo 1 0)).insert 2 (movedTo (-1) (-1))⟩

theorem opposed_together : ¬ ∀ m : Monitor ℝ, Grouped m := by
  intro h
  have hlast (x y : ℝ) (hleft : LeftOver ⟨x, y⟩) : directionOf realMath (movedTo x y) = 7 :=
    eq_seven_of_leftOver (heads_directionOf _) (by rwa [heading_movedTo])
  have heast : (directionCluster realMath opposed 7)[1]? = some (movedTo 1 0) := by
    refine (mem_directionCluster_iff opposed 7 1 _).mpr ⟨?_, le_rfl, hlast 1 0 (by simp [LeftOver])⟩
    rw [opposed, ExtTreeMap.getElem?_insert, if_neg (by decide), ExtTreeMap.getElem?_insert_self]
  have hsouthwest : (directionCluster realMath opposed 7)[2]? = some (movedTo (-1) (-1)) := by
    refine (mem_directionCluster_iff opposed 7 2 _).mpr
      ⟨?_, le_rfl, hlast (-1) (-1) (by simp [LeftOver])⟩
    rw [opposed, ExtTreeMap.getElem?_insert_self]
  have halike := (h opposed).alike 7 1 2 _ _ heast hsouthwest
  rw [heading_movedTo, heading_movedTo] at halike
  have haligned := halike (by simp [Complex.ext_iff]) (by simp [Complex.ext_iff])
  norm_num [Aligned] at haligned

end Buckets

end UavMonitoring.Directions
