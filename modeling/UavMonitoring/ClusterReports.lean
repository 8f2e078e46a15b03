import Mathlib.Algebra.BigOperators.Ring.Finset
import UavMonitoring.Clusters
import UavMonitoring.LeastSquares
import UavMonitoring.Tally

namespace UavMonitoring.ClusterReports

open Basics Clusters CounterLoop EdsMonitor LeastSquares Tally

variable {K : Type} [Field K]

def labelled (k : Nat) (p : Point K) : Point K := if k = 1 then { p with group := 0 } else p

/-- `info` gives the number and the mean of the points of a group that has some. -/
structure Reports (pt : List (Point K)) (g : Nat) (info : ClusterInfo K) : Prop where
  nonempty : 1 ≤ (members Point.group pt g).length
  weight : info.weight = (members Point.group pt g).length
  lastPosition : info.lastPosition =
    ⟨groupMean Point.group Point.x pt g, groupMean Point.group Point.y pt g, 0⟩

structure Reported [LE K] (pt : List (Point K)) (k : Nat) (clusters : List (ClusterInfo K)) :
    Prop where
  groups : ∃ gs, gs.Sublist (List.range k) ∧ List.Forall₂ (Reports pt) gs clusters
  total : (clusters.map ClusterInfo.weight).sum ≤ pt.length

def fixes (lost : HistoryMap K) (pt : List (Point K)) (k : Nat) : List (List (EdsEntry K)) :=
  (members Point.group pt k).filterMap fun p => lost[p.id]?

def moved (lost : HistoryMap K) (pt : List (Point K)) (k : Nat) : List (List (EdsEntry K)) :=
  (fixes lost pt k).filter fun q => decide (2 ≤ q.length)

def heardOnce (lost : HistoryMap K) (pt : List (Point K)) (k : Nat) : List (List (EdsEntry K)) :=
  (fixes lost pt k).filter fun q => !decide (2 ≤ q.length)

def total (fix : List (EdsEntry K) → EdsEntry K) (qs : List (List (EdsEntry K))) : Vector3D K :=
  ⟨(qs.map fun q => (fix q).x).sum, (qs.map fun q => (fix q).y).sum, 0⟩

def displacement (qs : List (List (EdsEntry K))) : Vector3D K :=
  ⟨(qs.map fun q => (backOf q).x - (frontOf q).x).sum / qs.length,
    (qs.map fun q => (backOf q).y - (frontOf q).y).sum / qs.length, 0⟩

/-- What `ComputeClustersInfo` takes for the velocity of a cluster. -/
def clusterVelocity [LinearOrder K] (c : CMath K) (lost : HistoryMap K) (pt : List (Point K)) (k : Nat) :
    Option (Vector3D K) :=
  (computeClusterCenter pt k).bind (computeCenterMassVel c lost pt k)

variable {lost : HistoryMap K} {pt : List (Point K)} {k : Nat}

omit [Field K] in
theorem regroup_eq (hlen : pt.length < 2 ^ 16) (k : Nat) :
    regroup pt k = some (pt.map (labelled k)) := by
  rw [regroup]
  by_cases hk : k = 1
  · have hall : (labelled k : Point K → Point K) = fun p => { p with group := 0 } :=
      funext fun _ => if_pos hk
    rw [if_pos hk, accumulate_of_short hlen, foldl_collect, List.nil_append, hall]
  · have hall : (labelled k : Point K → Point K) = id := funext fun _ => if_neg hk
    rw [if_neg hk, hall, List.map_id]

theorem foldl_centerStep (pt : List (Point K)) (g : Nat) (s : Nat × Vector3D K) :
    pt.foldl (centerStep g) s = (s.1 + (members Point.group pt g).length,
      ⟨s.2.x + ((members Point.group pt g).map Point.x).sum,
        s.2.y + ((members Point.group pt g).map Point.y).sum, s.2.z⟩) := by
  induction pt generalizing s with
  | nil => simp [members]
  | cons p pt ih =>
      rw [List.foldl_cons, ih]
      by_cases hg : p.group = g
      · rw [members_cons_of_eq hg, centerStep, if_pos hg, List.map_cons, List.map_cons, List.sum_cons,
          List.sum_cons, List.length_cons, Nat.add_assoc, Nat.add_comm 1, add_assoc, add_assoc]
      · rw [members_cons_of_ne hg, centerStep, if_neg hg]

theorem computeClusterCenter_eq (hlen : pt.length < 2 ^ 16) (g : Nat) :
    computeClusterCenter pt g =
      some ⟨groupMean Point.group Point.x pt g, groupMean Point.group Point.y pt g, 0⟩ := by
  rw [computeClusterCenter, accumulate_of_short hlen, foldl_centerStep]
  simp only [Option.map_some, groupMean, zero_x, zero_y, zero_z, zero_add]

omit [Field K] in
theorem clusterMembers_eq (hlen : pt.length < 2 ^ 16) :
    clusterMembers pt = some fun g => (members Point.group pt g).length := by
  rw [clusterMembers, accumulate_of_short hlen,
    foldl_update Point.group (fun n _ => n + 1) pt fun _ => 0]
  simp only [foldl_succ, Nat.zero_add, members]

omit [Field K] in
theorem fixes_cons (lost : HistoryMap K) (p : Point K) (pt : List (Point K)) (k : Nat) :
    fixes lost (p :: pt) k = (if p.group = k then lost[p.id]?.toList else []) ++ fixes lost pt k := by
  rw [fixes, fixes]
  by_cases hk : p.group = k
  · rw [members_cons_of_eq hk, if_pos hk, List.filterMap_cons]
    cases lost[p.id]? <;> rfl
  · rw [members_cons_of_ne hk, if_neg hk, List.nil_append]

@[simp] theorem total_z (fix : List (EdsEntry K) → EdsEntry K) (qs : List (List (EdsEntry K))) :
    (total fix qs).z = 0 := rfl

theorem total_cons (fix : List (EdsEntry K) → EdsEntry K) (q : List (EdsEntry K))
    (qs : List (List (EdsEntry K))) (v : Vector3D K) :
    v + total fix (q :: qs) = v + ⟨(fix q).x, (fix q).y, 0⟩ + total fix qs := by
  ext <;> simp [total, add_assoc]

theorem foldl_previousStep (lost : HistoryMap K) (pt : List (Point K)) (k : Nat) (s : Nat × Vector3D K) :
    pt.foldl (previousStep lost k) s =
      (s.1 + (moved lost pt k).length, s.2 + total frontOf (moved lost pt k)) := by
  induction pt generalizing s with
  | nil =>
      apply Prod.ext
      · rfl
      · ext <;> simp [total, moved, fixes, members]
  | cons p pt ih =>
      rw [List.foldl_cons, ih, previousStep, moved, moved, fixes_cons, List.filter_append]
      by_cases hk : p.group = k
      · rw [if_pos hk, if_pos hk]
        cases hq : lost[p.id]? with
        | none => rfl
        | some q =>
            by_cases htwo : q.length < 2
            · simp [htwo, Nat.not_le.mpr htwo]
            · have hone : [q].filter (fun q => decide (2 ≤ q.length)) = [q] := by simp; omega
              rw [Option.toList_some, hone, List.singleton_append, total_cons, List.length_cons]
              simp only [if_neg htwo, Nat.add_assoc, Nat.add_comm 1]
      · rw [if_neg hk, if_neg hk, List.filter_nil, List.nil_append]

omit [Field K] in
theorem map_members {β : Type} {u : Point K → β} {u' : List (EdsEntry K) → β}
    (h : ∀ p ∈ pt, ∃ q, lost[p.id]? = some q ∧ u p = u' q) :
    (members Point.group pt k).map u = (fixes lost pt k).map u' := by
  rw [fixes, List.map_filterMap, ← List.filterMap_eq_map]
  apply List.filterMap_congr
  intro p hp
  obtain ⟨q, hq, hu⟩ := h p (List.mem_of_mem_filter hp)
  rw [hq, Function.comp_apply, hu, Option.map_some]

theorem sum_fixes (u : List (EdsEntry K) → K) : ((fixes lost pt k).map u).sum =
    ((moved lost pt k).map u).sum + ((heardOnce lost pt k).map u).sum := by
  rw [← List.sum_append, ← List.map_append]
  exact ((List.filter_append_perm _ _).symm.map u).sum_eq

theorem displacement_eq (qs : List (List (EdsEntry K))) : displacement qs =
    ⟨((total backOf qs).x - (total frontOf qs).x) / qs.length,
      ((total backOf qs).y - (total frontOf qs).y) / qs.length, 0⟩ := by
  have hsub (u u' : List (EdsEntry K) → K) :
      (qs.map fun q => u q - u' q).sum = (qs.map u).sum - (qs.map u').sum := by
    induction qs with
    | nil => simp
    | cons q qs ih =>
        simp only [List.map_cons, List.sum_cons, ih]
        ring
  rw [displacement, hsub, hsub]
  rfl

variable [LinearOrder K] [IsStrictOrderedRing K] {c : CMath K}

theorem mean_eq_iff {n n' : Nat} (hn : n ≠ 0) (a a' b : K) :
    (a + a') / (n + n' : Nat) - b / n = (a - b) / n ↔ n * a' = n' * a := by
  have hn₁ : (n : K) ≠ 0 := Nat.cast_ne_zero.mpr hn
  have hn₂ : ((n + n' : Nat) : K) ≠ 0 := Nat.cast_ne_zero.mpr (by omega)
  rw [sub_div, sub_left_inj, div_eq_div_iff hn₂ hn₁, Nat.cast_add]
  constructor <;> intro h <;> linarith

theorem computeCenterMassVel_eq (hc : c.SqrtPositive) (hlen : pt.length < 2 ^ 16)
    (lost : HistoryMap K) (g : Nat) (cur : Vector3D K) :
    computeCenterMassVel c lost pt g cur =
      let qs := moved lost pt g
      some (if total frontOf qs = 0 then 0 else
        cur - ⟨(total frontOf qs).x / qs.length, (total frontOf qs).y / qs.length, 0⟩) := by
  have hstart (qs : List (List (EdsEntry K))) : 0 + total frontOf qs = total frontOf qs := by
    ext <;> simp
  rw [computeCenterMassVel, accumulate_of_short hlen, foldl_previousStep, Option.map_some]
  simp only [hstart, getLength_eq_zero hc, Nat.zero_add]
  rfl

theorem getLength_of_empty (hc : c.SqrtPositive) (hlen : pt.length < 2 ^ 16) {g : Nat}
    {cur v : Vector3D K} (hempty : members Point.group pt g = [])
    (hv : computeCenterMassVel c lost pt g cur = some v) : getLength c v = 0 := by
  have hmoved : moved lost pt g = [] := by rw [moved, fixes, hempty, List.filterMap_nil, List.filter_nil]
  have hzero : total frontOf ([] : List (List (EdsEntry K))) = 0 := rfl
  rw [computeCenterMassVel_eq hc hlen, hmoved, Option.some.injEq] at hv
  rw [← hv, if_pos hzero]
  exact getLength_zero hc

theorem clusterInfo_reports (hc : c.SqrtPositive) (hlen : pt.length < 2 ^ 16) (draw : Nat → Nat)
    (lost : HistoryMap K) (n g : Nat) :
    ∃ o, clusterInfo c draw lost pt (fun g => (members Point.group pt g).length) n g = some o ∧
      ∀ info ∈ o, Reports pt g info := by
  obtain ⟨v, hv⟩ : ∃ v, computeCenterMassVel c lost pt g
      ⟨groupMean Point.group Point.x pt g, groupMean Point.group Point.y pt g, 0⟩ = some v :=
    ⟨_, computeCenterMassVel_eq hc hlen lost g _⟩
  have htime : getLastTimeOf lost pt g = some (pt.foldl (lastTimeStep lost g) (seconds 0)) :=
    accumulate_of_short hlen _ _
  simp only [clusterInfo, computeClusterCenter_eq hlen, hv, htime, Option.bind_eq_bind,
    Option.bind_some]
  split
  · next hpos =>
      refine ⟨_, rfl, ?_⟩
      rintro info ⟨⟩
      refine ⟨List.length_pos_iff.mpr fun hempty => ?_, rfl, rfl⟩
      exact hpos.ne' (getLength_of_empty hc hlen hempty hv)
  · exact ⟨none, rfl, by simp⟩

theorem foldlM_clusterInfo (hc : c.SqrtPositive) (hlen : pt.length < 2 ^ 16) (draw : Nat → Nat)
    (lost : HistoryMap K) (is : List Nat) (clusters : List (ClusterInfo K)) :
    ∃ new, is.foldlM (fun clusters i => do
        let info ← clusterInfo c draw lost pt (fun g => (members Point.group pt g).length)
          clusters.length i
        some (clusters ++ info.toList)) clusters = some (clusters ++ new) ∧
      ∃ gs, gs.Sublist is ∧ List.Forall₂ (Reports pt) gs new := by
  induction is generalizing clusters with
  | nil => exact ⟨[], by simp, [], List.Sublist.refl _, .nil⟩
  | cons i is ih =>
      obtain ⟨o, ho, hreports⟩ := clusterInfo_reports hc hlen draw lost clusters.length i
      obtain ⟨new, hnew, gs, hgs, hall⟩ := ih (clusters ++ o.toList)
      rw [List.foldlM_cons, ho]
      refine ⟨o.toList ++ new, by rw [← List.append_assoc]; exact hnew, ?_⟩
      cases o with
      | none => exact ⟨gs, hgs.cons i, hall⟩
      | some info => exact ⟨i :: gs, hgs.cons_cons i, .cons (hreports info rfl) hall⟩

theorem sum_weights_le (hlabel : ∀ p ∈ pt, p.group < k) {gs : List Nat} {clusters : List (ClusterInfo K)}
    (hgs : gs.Sublist (List.range k)) (hall : List.Forall₂ (Reports pt) gs clusters) :
    (clusters.map ClusterInfo.weight).sum ≤ pt.length := by
  have hweights : clusters.map ClusterInfo.weight =
      gs.map fun g => ((members Point.group pt g).length : K) := by
    clear hgs
    induction hall with
    | nil => rfl
    | cons h _ ih => rw [List.map_cons, List.map_cons, h.weight, ih]
  have htotal : ((List.range k).map fun g => (members Point.group pt g).length).sum = pt.length := by
    have hcount := sum_countP_keys (List.nodup_range (n := k)) Point.group (fun _ => true) (l := pt)
      fun p hp => List.mem_range.mpr (hlabel p hp)
    simpa [members, List.countP_eq_length_filter] using hcount
  have hle : (gs.map fun g => (members Point.group pt g).length).sum ≤ pt.length := by
    rw [← htotal]
    exact (hgs.map _).sum_le_sum fun _ _ => Nat.zero_le _
  rw [hweights]
  calc (gs.map fun g => ((members Point.group pt g).length : K)).sum
      = ((gs.map fun g => (members Point.group pt g).length).sum : Nat) := by
        rw [Nat.cast_list_sum, List.map_map]
        rfl
    _ ≤ pt.length := Nat.cast_le.mpr hle

theorem computeClustersInfo_reported (hc : c.SqrtPositive) (hlen : pt.length < 2 ^ 16)
    (draw : Nat → Nat) (m : Monitor K) (hk : 1 ≤ k) (hlabel : 2 ≤ k → ∀ p ∈ pt, p.group < k) :
    ∃ clusters, computeClustersInfo c draw m pt k = some clusters ∧
      Reported (pt.map (labelled k)) k clusters := by
  have hlen' : (pt.map (labelled k)).length < 2 ^ 16 := by rwa [List.length_map]
  have hlabel' : ∀ p ∈ pt.map (labelled k), p.group < k := by
    rw [List.forall_mem_map]
    intro p hp
    rw [labelled]
    split
    · exact hk
    · exact hlabel (by omega) p hp
  obtain ⟨clusters, hrun, gs, hgs, hall⟩ :=
    foldlM_clusterInfo hc hlen' draw m.edsLost (List.range k) []
  refine ⟨clusters, ?_, ⟨gs, hgs, hall⟩, sum_weights_le hlabel' hgs hall⟩
  rw [computeClustersInfo, if_neg (by omega), regroup_eq hlen]
  simp only [Option.bind_eq_bind, Option.bind_some, clusterMembers_eq hlen']
  exact hrun

end UavMonitoring.ClusterReports
