import UavMonitoring.ClusterReports
import UavMonitoring.DeadReckoning

namespace UavMonitoring.TeamSummaries

open Basics Clusters ClusterReports CounterLoop DeadReckoning EdsMonitor LeastSquares SeedsManager
  SpringForces VirtualSprings

open Std (ExtTreeMap)

variable {K : Type} [Field K]

section Weight

variable [LinearOrder K]

def Pulls (cfg : Config K) (info : ClusterInfo K) (w : K) : Prop :=
  ∀ now now' : Time, now ≤ now' → now' ≤ now + minutes 10 →
    ∃ seed, seedsAfter now' (generateTokens cfg now [info]) = some [seed] ∧ seed.weight = w

def PullsWithSize (c : CMath K) (cfg : Config K) (m : Monitor K) : Prop :=
  ∀ info ∈ getClusterInfo c m,
    Pulls cfg info (directionCluster c m info.id.toNat).size ∧
      4 ≤ (directionCluster c m info.id.toNat).size

theorem pulls_iff (cfg : Config K) (info : ClusterInfo K) (w : K) :
    Pulls cfg info w ↔ info.weight = w := by
  have hseeds {now now' : Time} (h : now' ≤ now + minutes 10) :
      seedsAfter now' (generateTokens cfg now [info]) =
        some [seedOf now' (tokenOf cfg now info)] := by
    have hshort : (generateTokens cfg now [info]).length < 2 ^ 16 := by simp [generateTokens]
    have hfresh : seedAt now' (tokenOf cfg now info) = some (seedOf now' (tokenOf cfg now info)) :=
      if_neg h.not_gt
    have hstored : FirstMatch.putAll near (generateTokens cfg now [info]) = [tokenOf cfg now info] := rfl
    rw [seedsAfter_of_short now' hshort, hstored, List.filterMap_cons_some hfresh, List.filterMap_nil]
  constructor
  · intro h
    obtain ⟨seed, hseed, rfl⟩ := h 0 0 le_rfl (by decide)
    rw [hseeds (by decide), Option.some.injEq, List.cons.injEq] at hseed
    rw [← hseed.1]
    rfl
  · rintro rfl now now' _ h
    exact ⟨_, hseeds h, rfl⟩

theorem pulls_of_reports {pt : List (Point K)} {g : Nat} {info : ClusterInfo K}
    (h : Reports pt g info) (cfg : Config K) :
    Pulls cfg info (members Point.group pt g).length :=
  (pulls_iff cfg info _).mpr h.weight

theorem mem_getClusterInfo_iff {c : CMath K} {m : Monitor K} {info : ClusterInfo K} :
    info ∈ getClusterInfo c m ↔ ∃ i < 8, directionInfo i (directionCluster c m i) = some info := by
  simp [getClusterInfo]

omit [LinearOrder K] in
theorem directionInfo_isSome_iff (i : Nat) (cluster : HistoryMap K) :
    (directionInfo i cluster).isSome ↔ 4 ≤ cluster.size := by
  rw [directionInfo]
  split
  · next h => simpa using h
  · next h =>
      have hsome : cluster.toList.head?.isSome := by
        rw [List.isSome_head?, ← List.length_pos_iff, ExtTreeMap.length_toList]
        omega
      simpa [hsome] using h

omit [LinearOrder K] in
theorem id_weight_of_directionInfo {i : Nat} {cluster : HistoryMap K} {info : ClusterInfo K}
    (h : directionInfo i cluster = some info) : info.id = UInt16.ofNat i ∧ info.weight = 0 := by
  rw [directionInfo] at h
  split at h
  · cases h
  · obtain ⟨e, _, rfl⟩ := Option.map_eq_some_iff.mp h
    exact ⟨rfl, rfl⟩

/-- No direction summary is given a weight, so the seeds pull as they should
only where there is nothing to summarise. -/
theorem pullsWithSize_iff [IsStrictOrderedRing K] (c : CMath K) (cfg : Config K) (m : Monitor K) :
    PullsWithSize c cfg m ↔ ∀ i < 8, (directionCluster c m i).size < 4 := by
  constructor
  · intro h i hi
    by_contra hlarge
    have hsome := (directionInfo_isSome_iff i (directionCluster c m i)).mpr (by omega)
    obtain ⟨info, hinfo⟩ := Option.isSome_iff_exists.mp hsome
    obtain ⟨hpulls, hfour⟩ := h info (mem_getClusterInfo_iff.mpr ⟨i, hi, hinfo⟩)
    rw [pulls_iff, (id_weight_of_directionInfo hinfo).2, eq_comm, Nat.cast_eq_zero] at hpulls
    omega
  · intro h info hinfo
    obtain ⟨i, hi, hinfo⟩ := mem_getClusterInfo_iff.mp hinfo
    have hfour := (directionInfo_isSome_iff i _).mp (Option.isSome_iff_exists.mpr ⟨info, hinfo⟩)
    exact absurd (h i hi) (by omega)

def lostTeam : Monitor ℚ :=
  let north (x : ℚ) : List (EdsEntry ℚ) := [⟨x, 0, seconds 10⟩, ⟨x, 5, seconds 20⟩]
  { (EdsMonitor.empty : Monitor ℚ) with
    edsLost := ((((∅ : HistoryMap ℚ).insert 1 (north 0)).insert 2 (north 10)).insert 3
      (north 20)).insert 4 (north 30) }

theorem pullsWithSize_iff_lostTeam : PullsWithSize rationalMath carrier lostTeam ↔
    ∀ i < 8, (directionCluster rationalMath lostTeam i).size < 4 :=
  pullsWithSize_iff rationalMath carrier lostTeam

theorem lostTeam_weightless : ¬ ∀ m : Monitor ℚ, PullsWithSize rationalMath carrier m := by
  intro h
  have hinfo : (⟨1, seconds 20, ⟨0, 5, 0⟩, ⟨0, 5, 0⟩, 0⟩ : ClusterInfo ℚ) ∈
      getClusterInfo rationalMath lostTeam := by decide +kernel
  obtain ⟨hpulls, hfour⟩ := h lostTeam _ hinfo
  have hsize : ((directionCluster rationalMath lostTeam 1).size : ℚ) = 0 :=
    ((pulls_iff carrier _ _).mp hpulls).symm
  rw [Nat.cast_eq_zero] at hsize
  change 4 ≤ (directionCluster rationalMath lostTeam 1).size at hfour
  omega

end Weight

section Displacement

variable [LinearOrder K] [IsStrictOrderedRing K] {c : CMath K}
  {lost : HistoryMap K} {pt : List (Point K)} {k : Nat}

def SameMean (qs qs' : List (List (EdsEntry K))) : Prop :=
  qs.length * (total backOf qs').x = qs'.length * (total backOf qs).x ∧
    qs.length * (total backOf qs').y = qs'.length * (total backOf qs).y

/-- What the two averages of a cluster must meet for their difference to be a
displacement: earlier positions that cancel out count as no positions at all. -/
def Comparable (qs qs' : List (List (EdsEntry K))) : Prop :=
  if total frontOf qs = 0 then total backOf qs = 0 else SameMean qs qs'

/-- The velocity of a cluster is the displacement of its devices exactly when
those heard only once do not shift its centre and no positions cancel out. -/
theorem clusterVelocity_eq_iff (hc : c.SqrtPositive) (hbuilt : BuiltFrom lost pt)
    (hmoved : moved lost pt k ≠ []) :
    clusterVelocity c lost pt k = some (displacement (moved lost pt k)) ↔
      pt.length < 2 ^ 16 ∧ Comparable (moved lost pt k) (heardOnce lost pt k) := by
  by_cases hlen : pt.length < 2 ^ 16
  · have hne : (moved lost pt k).length ≠ 0 := by rwa [ne_eq, List.length_eq_zero_iff]
    have hcast : ((moved lost pt k).length : K) ≠ 0 := Nat.cast_ne_zero.mpr hne
    rw [clusterVelocity_eq hc hlen hbuilt, displacement_eq, Comparable]
    simp only [hlen, true_and, Option.some.injEq]
    split
    · next hzero =>
        have hx : (total frontOf (moved lost pt k)).x = 0 := by rw [hzero, zero_x]
        have hy : (total frontOf (moved lost pt k)).y = 0 := by rw [hzero, zero_y]
        rw [hx, hy, sub_zero, sub_zero, eq_comm, Vector3D.ext_iff, Vector3D.ext_iff]
        simp only [zero_x, zero_y, zero_z, total_z, div_eq_zero_iff, hcast, or_false]
    · rw [Vector3D.mk.injEq, mean_eq_iff hne, mean_eq_iff hne, SameMean]
      simp only [and_true]
  · have hnone : computeClusterCenter pt k = none := by
      rw [computeClusterCenter, accumulate, forEach_of_long (Nat.le_of_not_lt hlen), Option.map_none]
    rw [clusterVelocity, hnone]
    exact iff_of_false (by simp) fun h => hlen h.1

theorem clusterVelocity_eq_iff_walker :
    clusterVelocity rationalMath walker.edsLost (points walker) 0 =
        some (displacement (moved walker.edsLost (points walker) 0)) ↔
      (points walker).length < 2 ^ 16 ∧ Comparable (moved walker.edsLost (points walker) 0)
        (heardOnce walker.edsLost (points walker) 0) :=
  clusterVelocity_eq_iff rationalMath_sqrtPositive (builtFrom_points walker) (by decide +kernel)

def followed : Monitor ℚ :=
  { walker with edsLost := walker.edsLost.insert 8 [⟨200, 0, seconds 20⟩] }

theorem followed_hastened :
    ¬ ∀ (m : Monitor ℚ) (pt : List (Point ℚ)) (k : Nat), BuiltFrom m.edsLost pt →
      moved m.edsLost pt k ≠ [] →
      clusterVelocity rationalMath m.edsLost pt k = some (displacement (moved m.edsLost pt k)) := by
  intro h
  have hvel := h followed (points followed) 0 (builtFrom_points followed) (by decide +kernel)
  exact absurd hvel (by decide +kernel)

end Displacement

end UavMonitoring.TeamSummaries
