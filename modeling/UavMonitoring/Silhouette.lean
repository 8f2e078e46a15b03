import Mathlib.Algebra.Order.BigOperators.Group.List
import Mathlib.Algebra.Order.Field.Basic
import Mathlib.Data.List.Basic
import Mathlib.Order.Bounds.Basic
import Mathlib.Tactic.Linarith

namespace UavMonitoring.Silhouette

variable {K P κ : Type} [Field K] [LinearOrder K] [DecidableEq κ]

def mean (ds : List K) : K := ds.sum / ds.length

/-- The value of a point with the mean distances `a` to its own group and `b`
to the nearest other one; it is zero when both are. -/
def silhouette (a b : K) : K := (b - a) / max a b

section Score

variable (dist : P → P → K) (label : P → κ) (xs : List P) (groups : List κ)

/-- The distances of a point to the others of its group. A point comes with its
index, as two of them may coincide. -/
def ownDistances (p : P × Nat) : List K :=
  (xs.zipIdx.filter fun q => decide (p.2 ≠ q.2 ∧ label p.1 = label q.1)).map fun q => dist q.1 p.1

def distancesTo (p : P) (g : κ) : List K :=
  (xs.filter fun q => decide (label q = g)).map fun q => dist q p

def own (p : P × Nat) : K := mean (ownDistances dist label xs p)

def otherMeans (p : P) : List K :=
  (groups.filter fun g => decide (g ≠ label p)).map fun g => mean (distancesTo dist label xs p g)

def nearestOther (p : P) : K := (otherMeans dist label xs groups p).min?.getD 0

def score (p : P × Nat) : K :=
  if ownDistances dist label xs p = [] then 0
  else silhouette (own dist label xs p) (nearestOther dist label xs groups p.1)

def averageScore : K := mean (xs.zipIdx.map (score dist label xs groups))

end Score

section Mean

variable [IsStrictOrderedRing K]

theorem sum_mem_Icc {lo hi : K} {ds : List K} (h : ∀ d ∈ ds, lo ≤ d ∧ d ≤ hi) :
    ds.length * lo ≤ ds.sum ∧ ds.sum ≤ ds.length * hi := by
  induction ds with
  | nil => simp
  | cons d ds ih =>
      obtain ⟨hd, hds⟩ := List.forall_mem_cons.mp h
      have hsum := ih hds
      rw [List.sum_cons, List.length_cons, Nat.cast_add, Nat.cast_one]
      constructor <;> linarith

theorem mean_mem_Icc {lo hi : K} {ds : List K} (hne : ds ≠ []) (h : ∀ d ∈ ds, lo ≤ d ∧ d ≤ hi) :
    lo ≤ mean ds ∧ mean ds ≤ hi := by
  have hpos : (0 : K) < ds.length := Nat.cast_pos.mpr (List.length_pos_iff.mpr hne)
  obtain ⟨hlo, hhi⟩ := sum_mem_Icc h
  rw [mean]
  exact ⟨(le_div_iff₀' hpos).mpr hlo, (div_le_iff₀' hpos).mpr hhi⟩

theorem mean_nonneg {ds : List K} (h : ∀ d ∈ ds, 0 ≤ d) : 0 ≤ mean ds :=
  div_nonneg (List.sum_nonneg h) (Nat.cast_nonneg _)

end Mean

section Value

variable [IsStrictOrderedRing K] {a b : K}

omit [IsStrictOrderedRing K] in
theorem silhouette_of_le (hb : 0 < b) (h : a ≤ b) : silhouette a b = 1 - a / b := by
  rw [silhouette, max_eq_right h, sub_div, div_self hb.ne']

theorem silhouette_mem_Icc (ha : 0 ≤ a) (hb : 0 ≤ b) : -1 ≤ silhouette a b ∧ silhouette a b ≤ 1 := by
  have hmax : 0 ≤ max a b := ha.trans (le_max_left a b)
  rcases hmax.eq_or_lt with hzero | hpos
  · rw [silhouette, ← hzero, div_zero]
    exact ⟨neg_nonpos.mpr zero_le_one, zero_le_one⟩
  · have hla := le_max_left a b
    have hlb := le_max_right a b
    rw [silhouette, le_div_iff₀ hpos, div_le_iff₀ hpos]
    constructor <;> linarith

end Value

section Bounds

variable {dist : P → P → K} {label : P → κ} {xs : List P} {groups : List κ}

omit [LinearOrder K] in
theorem own_of_alone {p : P × Nat} (h : ownDistances dist label xs p = []) :
    own dist label xs p = 0 := by
  rw [own, h, mean, List.sum_nil, zero_div]

theorem nearestOther_isLeast {p : P} (h : ∃ g ∈ groups, g ≠ label p) :
    IsLeast {d | d ∈ otherMeans dist label xs groups p} (nearestOther dist label xs groups p) := by
  obtain ⟨g, hg, hne⟩ := h
  have hmem : mean (distancesTo dist label xs p g) ∈ otherMeans dist label xs groups p :=
    List.mem_map_of_mem (List.mem_filter.mpr ⟨hg, decide_eq_true hne⟩)
  obtain ⟨m, hm⟩ := Option.isSome_iff_exists.mp (List.isSome_min?_of_mem hmem)
  rw [nearestOther, hm]
  exact List.min?_eq_some_iff.mp hm

variable [IsStrictOrderedRing K] (hdist : ∀ p q, 0 ≤ dist p q)

include hdist

theorem own_nonneg (p : P × Nat) : 0 ≤ own dist label xs p := by
  apply mean_nonneg
  rw [ownDistances, List.forall_mem_map]
  exact fun q _ => hdist q.1 p.1

theorem otherMeans_nonneg (p : P) : ∀ d ∈ otherMeans dist label xs groups p, 0 ≤ d := by
  rw [otherMeans, List.forall_mem_map]
  intro g _
  apply mean_nonneg
  rw [distancesTo, List.forall_mem_map]
  exact fun q _ => hdist q p

theorem nearestOther_nonneg {p : P} (h : ∃ g ∈ groups, g ≠ label p) :
    0 ≤ nearestOther dist label xs groups p :=
  otherMeans_nonneg hdist p _ (nearestOther_isLeast h).1

theorem score_mem_Icc {p : P × Nat} (h : ∃ g ∈ groups, g ≠ label p.1) :
    -1 ≤ score dist label xs groups p ∧ score dist label xs groups p ≤ 1 := by
  rw [score]
  split
  · exact ⟨neg_nonpos.mpr zero_le_one, zero_le_one⟩
  · exact silhouette_mem_Icc (own_nonneg hdist p) (nearestOther_nonneg hdist h)

theorem averageScore_mem_Icc (hne : xs ≠ []) (h : ∀ p ∈ xs, ∃ g ∈ groups, g ≠ label p) :
    -1 ≤ averageScore dist label xs groups ∧ averageScore dist label xs groups ≤ 1 := by
  apply mean_mem_Icc
  · simpa using hne
  · rw [List.forall_mem_map]
    intro p hp
    exact score_mem_Icc hdist (h p.1 (List.fst_mem_of_mem_zipIdx hp))

end Bounds

end UavMonitoring.Silhouette
