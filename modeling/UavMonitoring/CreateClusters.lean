import UavMonitoring.AverageSilhoutte
import UavMonitoring.ClusterReports
import UavMonitoring.KMeans

namespace UavMonitoring.CreateClusters

open Basics EdsMonitor AverageSilhoutte ClusterReports KMeans WhileLoop

variable {K : Type} [Field K] [LinearOrder K]

section Program

variable (dist : Vector3D K → Vector3D K → K) (chance : Nat → Chance K) (fuel : Nat)
  (m : Monitor K)

/-- The loop over `m_eds_lost`, for fewer than `2 ^ 16` devices, which the
`uint16_t` index counts. The group of a new point is not initialised. -/
def fill (h : Chance K) : List (Clusters.Point K) := Clusters.setGroups (Clusters.points m) h.group

def round (kMax : Nat) (s : Nat × List (Clusters.Point K)) :
    Option ((Nat × List (Clusters.Point K)) ⊕ (Nat × List (Clusters.Point K))) :=
  let j := s.1
  if kMax < j then some (.inl (1, s.2))
  else
    let pt := fill m (chance j)
    let next := (j + 1) % 2 ^ 16
    if j ≤ m.edsLost.size then do
      let pt ← lloyd (chance j) fuel pt j
      let sil ← computeAverageSilhoutte dist pt j
      if 8 / 10 < sil then some (.inl (j, pt)) else some (.inr (next, pt))
    else some (.inr (next, pt))

/-- The number of clusters, and `pt` as the call leaves it; `chance j` is what
the call of `lloyd` for `j` clusters meets. -/
def createClusters (pt : List (Clusters.Point K)) (kMax : Nat) :
    Option (Nat × List (Clusters.Point K)) :=
  if m.edsLost.size = 0 then some (0, pt) else loop (round dist chance fuel m kMax) fuel (2, pt)

def Accepted (j : Nat) : Prop :=
  ∃ pt sil, lloyd (chance j) fuel (fill m (chance j)) j = some pt ∧
    computeAverageSilhoutte dist pt j = some sil ∧ 8 / 10 < sil

end Program

/-- Every lost device stands once in `pt`, where it was heard last. -/
structure Listed (m : Monitor K) (pt : List (Clusters.Point K)) : Prop where
  nodup : (pt.map Clusters.Point.id).Nodup
  mem : ∀ id, id ∈ pt.map Clusters.Point.id ↔ id ∈ m.edsLost
  latest : ∀ p ∈ pt, ∃ q, m.edsLost[p.id]? = some q ∧
    p.x = (Clusters.backOf q).x ∧ p.y = (Clusters.backOf q).y

structure Sound (m : Monitor K) (kMax : Nat) (r : Nat × List (Clusters.Point K)) : Prop where
  range : 1 ≤ r.1 ∧ r.1 ≤ kMax
  length : r.2.length = m.edsLost.size
  listed : Listed m r.2
  labelled : 2 ≤ r.1 → ∀ p ∈ r.2, p.group < r.1
  reported : ∀ (c : CMath K) (draw : Nat → Nat), c.SqrtPositive → ∃ clusters,
    Clusters.computeClustersInfo c draw m r.2 r.1 = some clusters ∧
      Reported (r.2.map (ClusterReports.labelled r.1)) r.1 clusters

section Filling

variable {m : Monitor K} {pt : List (Clusters.Point K)}

def Filled (m : Monitor K) (pt : List (Clusters.Point K)) : Prop :=
  pt.map ungroup = (Clusters.points m).map ungroup

omit [LinearOrder K] in
theorem fill_filled (h : Chance K) : Filled m (fill m h) := by
  rw [Filled, fill, Clusters.setGroups, List.mapIdx_eq_zipIdx_map, List.map_map]
  conv_rhs => rw [← List.zipIdx_map_fst 0 (Clusters.points m), List.map_map]
  rfl

omit [LinearOrder K] in
theorem Filled.length (h : Filled m pt) : pt.length = m.edsLost.size := by
  have hlength := congrArg List.length h
  rwa [List.length_map, List.length_map, Clusters.points, List.length_map,
    Std.ExtTreeMap.length_toList] at hlength

omit [LinearOrder K] in
theorem Filled.listed (h : Filled m pt) : Listed m pt := by
  have hids : pt.map Clusters.Point.id = m.edsLost.toList.map Prod.fst := by
    have hmap := congrArg (List.map Clusters.Point.id) h
    rw [List.map_map, List.map_map, Clusters.points, List.map_map] at hmap
    exact hmap
  refine ⟨hids ▸ Tally.nodup_keys m.edsLost, ?_, ?_⟩
  · intro id
    rw [hids, Std.ExtTreeMap.map_fst_toList_eq_keys, Std.ExtTreeMap.mem_keys]
  · intro p hp
    have hmem : ungroup p ∈ (Clusters.points m).map ungroup := h ▸ List.mem_map_of_mem hp
    rw [Clusters.points, List.map_map] at hmem
    obtain ⟨e, he, heq⟩ := List.mem_map.mp hmem
    have hid : e.1 = p.id := congrArg Clusters.Point.id heq
    rw [← hid]
    exact ⟨e.2, Std.ExtTreeMap.mem_toList_iff_getElem?_eq_some.mp he,
      (congrArg Clusters.Point.x heq).symm, (congrArg Clusters.Point.y heq).symm⟩

theorem Filled.sound [IsStrictOrderedRing K] (h : Filled m pt) (hlen : m.edsLost.size < 2 ^ 16)
    {kMax k : Nat} (hk : 1 ≤ k ∧ k ≤ kMax) (hlabel : 2 ≤ k → ∀ p ∈ pt, p.group < k) :
    Sound m kMax (k, pt) where
  range := hk
  length := h.length
  listed := h.listed
  labelled := hlabel
  reported _ draw hc := computeClustersInfo_reported hc (by rwa [h.length]) draw m hk.1 hlabel

end Filling

section Loop

variable (dist : Vector3D K → Vector3D K → K) (chance : Nat → Chance K) {fuel : Nat}
  {m : Monitor K} {kMax : Nat}

theorem tried [IsStrictOrderedRing K] (hne : 0 < m.edsLost.size) (hlen : m.edsLost.size < 2 ^ 16)
    (hfuel : kMax ^ m.edsLost.size ≤ fuel) {j : Nat} (hj : 2 ≤ j) (hmax : j ≤ kMax) :
    ∃ pt sil, lloyd (chance j) fuel (fill m (chance j)) j = some pt ∧ Filled m pt ∧
      (∀ p ∈ pt, p.group < j) ∧ computeAverageSilhoutte dist pt j = some sil := by
  have hfill : Filled m (fill m (chance j)) := fill_filled (chance j)
  have hnil : fill m (chance j) ≠ [] := by
    intro h
    rw [← hfill.length, h] at hne
    exact absurd hne (lt_irrefl 0)
  have hfuel' : j ^ (fill m (chance j)).length ≤ fuel := by
    rw [hfill.length]
    exact (Nat.pow_le_pow_left hmax _).trans hfuel
  obtain ⟨pt, hrun, hpt, hlabel⟩ := lloyd_returns (chance j) (by omega) hnil hfuel'
  have hpt : Filled m pt := hpt.trans hfill
  exact ⟨pt, _, hrun, hpt, hlabel, computeAverageSilhoutte_eq (by rwa [hpt.length]) hlabel⟩

theorem round_spec [IsStrictOrderedRing K] (hne : 0 < m.edsLost.size) (hlen : m.edsLost.size < 2 ^ 16)
    (hfuel : kMax ^ m.edsLost.size ≤ fuel) {j : Nat} (hj : 2 ≤ j) (hmax : j ≤ kMax)
    (pt₀ : List (Clusters.Point K)) : ∃ pt, Filled m pt ∧
      ((round dist chance fuel m kMax (j, pt₀) = some (.inl (j, pt)) ∧ ∀ p ∈ pt, p.group < j) ∨
        (round dist chance fuel m kMax (j, pt₀) = some (.inr ((j + 1) % 2 ^ 16, pt)) ∧
          ¬ (j ≤ m.edsLost.size ∧ Accepted dist chance fuel m j))) := by
  obtain ⟨pt, sil, hrun, hpt, hlabel, hsil⟩ :=
    tried dist chance hne hlen hfuel hj hmax
  rw [round]
  dsimp only
  rw [if_neg hmax.not_gt]
  by_cases hsize : j ≤ m.edsLost.size
  · rw [if_pos hsize]
    refine ⟨pt, hpt, ?_⟩
    simp only [hrun, hsil, Option.bind_eq_bind, Option.bind_some]
    split
    · exact .inl ⟨rfl, hlabel⟩
    · next hlow =>
        refine .inr ⟨rfl, ?_⟩
        rintro ⟨_, pt', sil', hrun', hsil', hhigh⟩
        obtain rfl := Option.some.inj (hrun.symm.trans hrun')
        obtain rfl := Option.some.inj (hsil.symm.trans hsil')
        exact hlow hhigh
  · rw [if_neg hsize]
    exact ⟨_, fill_filled (chance j), .inr ⟨rfl, fun h => hsize h.1⟩⟩

variable {dist chance}

theorem loop_sound [IsStrictOrderedRing K] (hne : 0 < m.edsLost.size)
    (hlen : m.edsLost.size < 2 ^ 16) (hkMax : 2 ≤ kMax) (hfuel : kMax ^ m.edsLost.size ≤ fuel)
    {last : Nat} (hlast : last < 2 ^ 16)
    (hend : last = kMax + 1 ∨ 2 ≤ last ∧ last ≤ kMax ∧ last ≤ m.edsLost.size ∧
      Accepted dist chance fuel m last) (pt : List (Clusters.Point K)) :
    ∃ r, loop (round dist chance fuel m kMax) fuel (2, pt) = some r ∧ Sound m kMax r := by
  apply loop_returns (fun s => 2 ≤ s.1 ∧ s.1 ≤ last ∧ (s.1 = 2 ∨ Filled m s.2)) fun s => last - s.1
  · rintro ⟨j, pt⟩ ⟨hj, hle, hfilled⟩
    dsimp only at hj hle hfilled ⊢
    by_cases hmax : j ≤ kMax
    · obtain ⟨pt', hpt', ⟨hr, hlabel⟩ | ⟨hr, hrejected⟩⟩ :=
        round_spec dist chance hne hlen hfuel hj hmax pt
      · exact .inl ⟨_, hr, hpt'.sound hlen ⟨by omega, hmax⟩ fun _ => hlabel⟩
      · have hlt : j < last := by
          rcases hend with rfl | ⟨_, _, hsize, haccepted⟩
          · omega
          · refine lt_of_le_of_ne hle ?_
            rintro rfl
            exact hrejected ⟨hsize, haccepted⟩
        have hnext : (j + 1) % 2 ^ 16 = j + 1 := Nat.mod_eq_of_lt (by omega)
        rw [hnext] at hr
        refine .inr ⟨_, hr, ⟨?_, ?_, .inr hpt'⟩, ?_⟩ <;> dsimp only <;> omega
    · have hr : round dist chance fuel m kMax (j, pt) = some (.inl (1, pt)) := by
        rw [round]
        exact if_pos (not_le.mp hmax)
      have hpt : Filled m pt := hfilled.resolve_left (by omega)
      exact .inl ⟨_, hr, hpt.sound hlen ⟨le_rfl, by omega⟩ fun h => absurd h (by omega)⟩
  · refine ⟨le_rfl, ?_, .inl rfl⟩
    dsimp only
    omega
  · have hpow : kMax ≤ kMax ^ m.edsLost.size := Nat.le_self_pow hne.ne' kMax
    dsimp only
    omega

/-- With the greatest `kMax` there is, and no clusters good enough, `j` comes
round to zero and `lloyd` is asked for no clusters at all. -/
theorem createClusters_never (hne : 0 < m.edsLost.size)
    (hrejected : ∀ j, 2 ≤ j → j ≤ m.edsLost.size → ¬ Accepted dist chance fuel m j)
    (pt : List (Clusters.Point K)) : createClusters dist chance fuel m pt 65535 = none := by
  rw [createClusters, if_neg hne.ne']
  apply loop_never fun s => s.1 = 0 ∨ 2 ≤ s.1 ∧ s.1 ≤ 65535
  · rintro ⟨j, pt⟩ hj
    dsimp only at hj
    rcases hj with rfl | ⟨hj, hmax⟩
    · left
      have hzero (h : Chance K) (pts : List (Clusters.Point K)) : lloyd h fuel pts 0 = none := rfl
      simp [round, hzero]
    · have hnext : (j + 1) % 2 ^ 16 = 0 ∨ 2 ≤ (j + 1) % 2 ^ 16 ∧ (j + 1) % 2 ^ 16 ≤ 65535 := by omega
      rw [round]
      dsimp only
      rw [if_neg hmax.not_gt]
      split
      · next hsize =>
          cases hrun : lloyd (chance j) fuel (fill m (chance j)) j with
          | none => exact .inl rfl
          | some pt' =>
              cases hsil : computeAverageSilhoutte dist pt' j with
              | none => exact .inl (by simp [hsil])
              | some sil =>
                  have hlow : ¬ 8 / 10 < sil :=
                    fun h => hrejected j hj hsize ⟨pt', sil, hrun, hsil, h⟩
                  simp only [Option.bind_eq_bind, Option.bind_some, hsil, if_neg hlow]
                  exact .inr ⟨_, rfl, hnext⟩
      · exact .inr ⟨_, rfl, hnext⟩
  · exact .inr ⟨le_rfl, Nat.le_of_ble_eq_true rfl⟩

end Loop

section Instance

variable (dist : Vector3D K → Vector3D K → K) (chance : Nat → Chance K) (fuel : Nat) (m : Monitor K)

def groupsOf (pt : List (Clusters.Point K)) (i : Nat) : Nat := (pt[i]?.map Clusters.Point.group).getD 0

def clustering (draw : Nat → Nat) : Clusters.Clustering K where
  lloyd _ j := (lloyd (chance j) fuel (fill m (chance j)) j).map groupsOf
  silhoutte := computeAverageSilhoutte dist
  draw := draw

variable {dist chance fuel m} {kMax : Nat}

omit [LinearOrder K] in
theorem setGroups_groupsOf {pt : List (Clusters.Point K)} (h : Filled m pt) :
    Clusters.setGroups (Clusters.points m) (groupsOf pt) = pt := by
  rw [Clusters.setGroups, List.mapIdx_eq_iff]
  intro i
  have hi := congrArg (fun qs : List (Clusters.Point K) => qs[i]?) h
  simp only [List.getElem?_map] at hi
  cases hp : pt[i]? with
  | none =>
      rw [hp, Option.map_none, eq_comm, Option.map_eq_none_iff] at hi
      rw [hi, Option.map_none]
  | some p =>
      rw [hp, Option.map_some, eq_comm, Option.map_eq_some_iff] at hi
      obtain ⟨q, hq, heq⟩ := hi
      rw [hq, Option.map_some, groupsOf, hp]
      cases p
      cases q
      simp_all [ungroup]

theorem tryClusters_cons [IsStrictOrderedRing K] (hne : 0 < m.edsLost.size)
    (hlen : m.edsLost.size < 2 ^ 16) (hfuel : kMax ^ m.edsLost.size ≤ fuel) {j : Nat} (hj : 2 ≤ j)
    (hmax : j ≤ kMax) (draw : Nat → Nat) (js : List Nat) (pt₀ : List (Clusters.Point K)) :
    (∃ pt, round dist chance fuel m kMax (j, pt₀) = some (.inl (j, pt)) ∧
      Clusters.tryClusters (clustering dist chance fuel m draw) (Clusters.points m) (j :: js) =
        some (j, pt)) ∨
    ∃ pt, Filled m pt ∧ round dist chance fuel m kMax (j, pt₀) = some (.inr ((j + 1) % 2 ^ 16, pt)) ∧
      Clusters.tryClusters (clustering dist chance fuel m draw) (Clusters.points m) (j :: js) =
        Clusters.tryClusters (clustering dist chance fuel m draw) (Clusters.points m) js := by
  obtain ⟨pt, sil, hrun, hpt, _, hsil⟩ :=
    tried dist chance hne hlen hfuel hj hmax
  have hlength : (Clusters.points m).length = m.edsLost.size := by
    rw [Clusters.points, List.length_map, Std.ExtTreeMap.length_toList]
  rw [round, Clusters.tryClusters, hlength]
  dsimp only
  rw [if_neg hmax.not_gt]
  by_cases hsize : j ≤ m.edsLost.size
  · rw [if_pos hsize, if_pos hsize]
    simp only [clustering, hrun, Option.map_some, setGroups_groupsOf hpt, hsil, Option.bind_eq_bind,
      Option.bind_some]
    by_cases hhigh : 8 / 10 < sil
    · rw [if_pos hhigh, if_pos hhigh]
      exact .inl ⟨pt, rfl, rfl⟩
    · rw [if_neg hhigh, if_neg hhigh]
      exact .inr ⟨pt, hpt, rfl, rfl⟩
  · rw [if_neg hsize, if_neg hsize]
    exact .inr ⟨_, fill_filled (chance j), rfl, rfl⟩

/-- The clusters of the model that takes `lloyd` and the silhouette from
outside are those of the code, but for the groups of a single cluster, which
its summary does not look at. -/
theorem createClusters_instance [IsStrictOrderedRing K] (hne : 0 < m.edsLost.size)
    (hlen : m.edsLost.size < 2 ^ 16) (hkMax : 2 ≤ kMax) (hmax : kMax < 65535)
    (hfuel : kMax ^ m.edsLost.size ≤ fuel) (draw : Nat → Nat) (pt : List (Clusters.Point K)) :
    ∃ r, createClusters dist chance fuel m pt kMax = some r ∧ ∃ pt',
      Clusters.createClusters (clustering dist chance fuel m draw) kMax m = some (r.1, pt') ∧
      r.2.map (ClusterReports.labelled r.1) = pt'.map (ClusterReports.labelled r.1) := by
  have hrange : (List.range (kMax + 1)).drop 2 = List.range' 2 (kMax + 1 - 2) := by
    rw [List.range_eq_range', List.drop_range']
  rw [createClusters, if_neg hne.ne', Clusters.createClusters, if_neg hne.ne', hrange]
  -- the run of the other model has the same numbers of clusters still to try
  apply loop_returns (fun s => 2 ≤ s.1 ∧ s.1 ≤ kMax + 1 ∧ (s.1 = 2 ∨ Filled m s.2) ∧
    Clusters.tryClusters (clustering dist chance fuel m draw) (Clusters.points m)
        (List.range' 2 (kMax + 1 - 2)) =
      Clusters.tryClusters (clustering dist chance fuel m draw) (Clusters.points m)
        (List.range' s.1 (kMax + 1 - s.1))) fun s => kMax + 1 - s.1
  · rintro ⟨j, pt⟩ ⟨hj, hle, hfilled, hsame⟩
    dsimp only at hj hle hfilled hsame ⊢
    rw [hsame]
    by_cases hjmax : j ≤ kMax
    · rw [show kMax + 1 - j = kMax + 1 - (j + 1) + 1 by omega, List.range'_succ]
      rcases tryClusters_cons hne hlen hfuel hj hjmax draw
        (List.range' (j + 1) (kMax + 1 - (j + 1))) pt with ⟨pt', hr, htry⟩ | ⟨pt', hpt', hr, htry⟩
      · exact .inl ⟨_, hr, pt', htry, rfl⟩
      · rw [Nat.mod_eq_of_lt (by omega)] at hr
        refine .inr ⟨_, hr, ⟨?_, ?_, .inr hpt', htry⟩, ?_⟩ <;> dsimp only <;> omega
    · have hr : round dist chance fuel m kMax (j, pt) = some (.inl (1, pt)) := by
        rw [round]
        exact if_pos (not_le.mp hjmax)
      have hpt : Filled m pt := hfilled.resolve_left (by omega)
      rw [show kMax + 1 - j = 0 by omega]
      exact .inl ⟨_, hr, Clusters.points m, rfl, hpt⟩
  · exact ⟨le_rfl, by dsimp only; omega, .inl rfl, rfl⟩
  · have hpow : kMax ≤ kMax ^ m.edsLost.size := Nat.le_self_pow hne.ne' kMax
    dsimp only
    omega

end Instance

section Main

variable [IsStrictOrderedRing K] {dist : Vector3D K → Vector3D K → K} {chance : Nat → Chance K}
  {fuel : Nat} {m : Monitor K} {kMax : Nat}

/-- The call ends with consistent labels, unless `kMax` is the greatest
`uint16_t` and no number of clusters is good enough. -/
theorem createClusters_sound_iff (hne : 0 < m.edsLost.size) (hlen : m.edsLost.size < 2 ^ 16)
    (hkMax : 2 ≤ kMax) (hmax : kMax < 2 ^ 16) (hfuel : kMax ^ m.edsLost.size ≤ fuel)
    (pt : List (Clusters.Point K)) :
    (∃ r, createClusters dist chance fuel m pt kMax = some r ∧ Sound m kMax r) ↔
      kMax < 65535 ∨ ∃ j, 2 ≤ j ∧ j ≤ m.edsLost.size ∧ Accepted dist chance fuel m j := by
  constructor
  · rintro ⟨r, hr, _⟩
    by_contra hnot
    rw [not_or, not_exists] at hnot
    obtain ⟨hge, hrejected⟩ := hnot
    obtain rfl : kMax = 65535 := by omega
    have hnever := createClusters_never hne
      (fun j hj hsize haccepted => hrejected j ⟨hj, hsize, haccepted⟩) pt
    rw [hnever] at hr
    exact absurd hr (by simp)
  · intro h
    rw [createClusters, if_neg hne.ne']
    by_cases hlt : kMax < 65535
    · exact loop_sound hne hlen hkMax hfuel (by omega) (.inl rfl) pt
    · obtain ⟨j, hj, hsize, haccepted⟩ := h.resolve_left hlt
      exact loop_sound hne hlen hkMax hfuel (by omega)
        (.inr ⟨hj, by omega, hsize, haccepted⟩) pt

end Main

def idle : Chance ℚ := ⟨fun _ => 0, 32767, fun _ => 0, fun _ => none⟩

def lostMonitor (lost : HistoryMap ℚ) : Monitor ℚ := ⟨∅, [], ∅, lost⟩

theorem createClusters_sound_iff_two :
    let m := lostMonitor (((∅ : HistoryMap ℚ).insert 4 [⟨0, 0, 1⟩]).insert 9 [⟨50, 0, 2⟩, ⟨60, 0, 3⟩])
    (∃ r, createClusters gridDistance (fun _ => idle) 9 m [] 3 = some r ∧ Sound m 3 r) ↔
      3 < 65535 ∨ ∃ j, 2 ≤ j ∧ j ≤ m.edsLost.size ∧ Accepted gridDistance (fun _ => idle) 9 m j :=
  createClusters_sound_iff (by decide) (by decide) (by decide) (by decide) (by decide) []

theorem single_never :
    ¬ ∀ (dist : Vector3D ℚ → Vector3D ℚ → ℚ) (chance : Nat → Chance ℚ) (m : Monitor ℚ)
      (pt : List (Clusters.Point ℚ)) (kMax : Nat), 0 < m.edsLost.size → m.edsLost.size < 2 ^ 16 →
      2 ≤ kMax → kMax < 2 ^ 16 →
      ∃ fuel r, createClusters dist chance fuel m pt kMax = some r ∧ Sound m kMax r := by
  intro h
  have hsize : (lostMonitor ((∅ : HistoryMap ℚ).insert 4 [⟨0, 0, 1⟩])).edsLost.size = 1 := by decide
  obtain ⟨fuel, r, hr, _⟩ := h gridDistance (fun _ => idle)
    (lostMonitor ((∅ : HistoryMap ℚ).insert 4 [⟨0, 0, 1⟩])) [] 65535 (by omega) (by omega) (by omega)
    (by omega)
  rw [createClusters_never (by omega) (fun j hj hle => absurd hj (by omega))] at hr
  exact absurd hr (by simp)

end UavMonitoring.CreateClusters
