import UavMonitoring.BestScan
import UavMonitoring.ControlSteps
import UavMonitoring.CreateClusters
import Mathlib.Data.Finset.Max

namespace UavMonitoring.RedundantGroup

open Std Basics BestScan EdsMonitor CounterLoop SeedsManager SpringForces VirtualSprings ControlSteps

variable {K : Type} [Field K] [LinearOrder K]

section Neighbours

variable (cfg : Config K) (w : World K)

def oneHop : List Nat :=
  w.entries.flatMap fun e =>
    cfg.ataNodes.filter fun j => decide (w.address j = e.destAddr) && decide (e.distance = 1)

omit [Field K] [LinearOrder K] in
theorem mem_oneHop_iff (j : Nat) : j ∈ oneHop cfg w ↔
    j ∈ cfg.ataNodes ∧ ∃ e ∈ w.entries, w.address j = e.destAddr ∧ e.distance = 1 := by
  simp only [oneHop, List.mem_flatMap, List.mem_filter, Bool.and_eq_true, decide_eq_true_eq]
  constructor
  · rintro ⟨e, he, hj, h⟩
    exact ⟨hj, e, he, h⟩
  · rintro ⟨hj, e, he, h⟩
    exact ⟨e, he, hj, h⟩

def anyHop : List Nat :=
  w.entries.flatMap fun e => cfg.ataNodes.filter fun j =>
    decide (w.address j = e.destAddr) && decide (0 < (w.coverage j).size ∨ e.distance = 1)

omit [Field K] [LinearOrder K] in
theorem foldl_neighbourStep (e : RoutingTableEntry) (js : List Nat) (s : List Nat × List Nat) :
    js.foldl (neighbourStep w e) s =
      (s.1 ++ js.filter fun j => decide (w.address j = e.destAddr) && decide (e.distance = 1),
        s.2 ++ js.filter fun j =>
          decide (w.address j = e.destAddr) && decide (0 < (w.coverage j).size ∨ e.distance = 1)) := by
  induction js generalizing s with
  | nil => simp
  | cons j js ih =>
      rw [List.foldl_cons, ih]
      by_cases ha : w.address j = e.destAddr <;> by_cases hd : e.distance = 1 <;>
        by_cases hc : 0 < (w.coverage j).size <;> simp [neighbourStep, ha, hd, hc]

omit [Field K] [LinearOrder K] in
theorem setNeighboursList_eq {s : List Nat × List Nat} (h : setNeighboursList cfg w = some s) :
    s = (oneHop cfg w, anyHop cfg w) := by
  rw [setNeighboursList, forEach_of_short (forEach_short h)] at h
  suffices hgen : ∀ (es : List RoutingTableEntry) (s r : List Nat × List Nat),
      es.foldlM (fun s e => accumulate 16 cfg.ataNodes (neighbourStep w e) s) s = some r →
      r = (s.1 ++ es.flatMap fun e => cfg.ataNodes.filter fun j =>
          decide (w.address j = e.destAddr) && decide (e.distance = 1),
        s.2 ++ es.flatMap fun e => cfg.ataNodes.filter fun j =>
          decide (w.address j = e.destAddr) && decide (0 < (w.coverage j).size ∨ e.distance = 1)) by
    simpa [oneHop, anyHop] using hgen w.entries ([], []) _ h
  intro es
  induction es with
  | nil =>
      intro s r hr
      cases hr
      simp
  | cons e es ih =>
      intro s r hr
      rw [List.foldlM_cons] at hr
      obtain ⟨s', hs', hr⟩ := Option.bind_eq_some_iff.mp hr
      obtain ⟨_, rfl⟩ := (accumulate_eq_some_iff _ _ _ _ _).mp hs'
      rw [ih _ _ hr, foldl_neighbourStep, List.flatMap_cons, List.flatMap_cons, List.append_assoc,
        List.append_assoc]

omit [Field K] [LinearOrder K] in
theorem setNeighboursList_fst {neighbours allNeighbours : List Nat}
    (h : setNeighboursList cfg w = some (neighbours, allNeighbours)) : neighbours = oneHop cfg w :=
  congrArg Prod.fst (setNeighboursList_eq cfg w h)

end Neighbours

section Sharing

variable (w : World K)

omit [Field K] [LinearOrder K] in
theorem size_eq_card {eds : EdsMap K} {E : Finset Nat} (h : ∀ ed, ed ∈ eds ↔ ed ∈ E) :
    eds.size = E.card := by
  have hset : eds.keys.toFinset = E := by
    ext ed
    rw [List.mem_toFinset, ExtTreeMap.mem_keys, h]
  rw [← ExtTreeMap.length_keys, ← hset, List.toFinset_card_of_nodup ExtTreeMap.nodup_keys]

omit [Field K] [LinearOrder K] in
theorem numSharedEds_eq (eds : EdsMap K) (j : Nat) :
    numSharedEds w eds j = ((w.coverage j).keys.filter (· ∈ eds)).length := by
  have hfold (xs : List (Nat × EdsEntry K)) (n : Nat) :
      xs.foldl (fun n x => if x.1 ∈ eds then n + 1 else n) n =
        n + ((xs.map Prod.fst).filter (· ∈ eds)).length := by
    induction xs generalizing n with
    | nil => simp
    | cons x xs ih =>
        rw [List.foldl_cons, ih]
        by_cases hx : x.1 ∈ eds <;> simp [hx]
        omega
  rw [numSharedEds, ExtTreeMap.foldl_eq_foldl_toList, hfold, Nat.zero_add,
    ExtTreeMap.map_fst_toList_eq_keys]

omit [Field K] [LinearOrder K] in
theorem numSharedEds_eq_card {eds : EdsMap K} {E : Finset Nat} (h : ∀ ed, ed ∈ eds ↔ ed ∈ E) (j : Nat) :
    numSharedEds w eds j = (E.filter (· ∈ w.coverage j)).card := by
  have hset : ((w.coverage j).keys.filter (· ∈ eds)).toFinset = E.filter (· ∈ w.coverage j) := by
    ext ed
    simp [ExtTreeMap.mem_keys, h, and_comm]
  rw [numSharedEds_eq, ← hset, List.toFinset_card_of_nodup (ExtTreeMap.nodup_keys.filter _)]

end Sharing

section Similarity

variable (w : World K) (eds : EdsMap K)

def sharedEds (j : Nat) : Finset Nat := eds.keys.toFinset.filter (· ∈ w.coverage j)

/-- What the similar node of a neighbourhood is: none when nobody shares half
of the devices, else the greatest of those that share most. -/
structure MostSimilar (neighbours : List Nat) (node : Nat) : Prop where
  nobody : node = 0 ↔ ∀ j ∈ neighbours, ¬ eds.size ≤ 2 * (sharedEds w eds j).card
  best : node ≠ 0 → node ∈ neighbours ∧ ∀ j ∈ neighbours,
    (sharedEds w eds j).card < (sharedEds w eds node).card ∨
      (sharedEds w eds j).card = (sharedEds w eds node).card ∧ j ≤ node

variable {w eds} {neighbours : List Nat}

omit [Field K] [LinearOrder K] in
theorem numSharedEds_eq_sharedEds : numSharedEds w eds = fun j => (sharedEds w eds j).card := by
  funext j
  exact numSharedEds_eq_card w (by simp [ExtTreeMap.mem_keys]) j

omit [Field K] [LinearOrder K] in
theorem MostSimilar.unique {node node' : Nat} (h : MostSimilar w eds neighbours node)
    (h' : MostSimilar w eds neighbours node') : node = node' := by
  have hzero : node = 0 ↔ node' = 0 := h.nobody.trans h'.nobody.symm
  by_cases h0 : node = 0
  · rw [h0, hzero.mp h0]
  · obtain ⟨hmem, hbest⟩ := h.best h0
    obtain ⟨hmem', hbest'⟩ := h'.best (fun he => h0 (hzero.mpr he))
    have hle := hbest node' hmem'
    have hge := hbest' node hmem
    omega

omit [Field K] [LinearOrder K] in
theorem MostSimilar.perm {node : Nat} {neighbours' : List Nat} (hp : neighbours'.Perm neighbours)
    (h : MostSimilar w eds neighbours node) : MostSimilar w eds neighbours' node := by
  obtain ⟨hnobody, hbest⟩ := h
  constructor <;> simpa only [hp.mem_iff]

variable [IsStrictOrderedRing K]

theorem below_half_iff {n size : Nat} (hsize : 0 < size) :
    (n : K) / size < 1 / 2 ↔ ¬ size ≤ 2 * n := by
  have hpos : (0 : K) < size := Nat.cast_pos.mpr hsize
  rw [div_lt_div_iff₀ hpos two_pos, one_mul, Nat.not_le, mul_comm]
  norm_cast

theorem findMostSimilarNode_returns (heds : 0 < eds.size) (hlen : neighbours.length < 2 ^ 16)
    (hids : ∀ j ∈ neighbours, j ≠ 0) :
    ∃ node, findMostSimilarNode w neighbours eds = some node ∧ MostSimilar w eds neighbours node := by
  have hscan : Best (numSharedEds w eds) (0, 0) neighbours
      (neighbours.foldl (similarStep w eds) (0, 0)) := foldl_better _ _
  rw [findMostSimilarNode, accumulate_of_short hlen, Option.map_some]
  generalize neighbours.foldl (similarStep w eds) (0, 0) = s at hscan
  obtain ⟨hupper, hsource⟩ := hscan
  have hne : (eds.size : K) ≠ 0 := Nat.cast_ne_zero.mpr heds.ne'
  simp only [numSharedEds_eq_sharedEds] at hupper hsource
  simp only [divDouble, if_neg hne, below_half_iff heds]
  refine ⟨_, rfl, ?_⟩
  rcases hsource with rfl | ⟨hmem, hmax⟩
  · -- the scan has found nobody: there is no neighbour at all
    have hnil : neighbours = [] := by
      apply List.eq_nil_iff_forall_not_mem.mpr
      intro j hj
      have hj0 := hids j hj
      have hup := hupper j hj
      dsimp only at hup
      omega
    rw [if_pos (by dsimp only; omega), hnil]
    exact ⟨by simp, fun h => absurd rfl h⟩
  · split
    · next hfew =>
        refine ⟨iff_of_true rfl fun j hj => ?_, fun h => absurd rfl h⟩
        have hup := hupper j hj
        omega
    · next hmany =>
        refine ⟨iff_of_false (hids _ hmem) fun hall => ?_, fun _ => ⟨hmem, fun j hj => ?_⟩⟩
        · exact hall _ hmem (hmax ▸ not_not.mp hmany)
        · rw [hmax]
          exact hupper j hj

/-- Nothing but the set of neighbours decides which node is found. -/
theorem findMostSimilarNode_spec (heds : 0 < eds.size) (hlen : neighbours.length < 65536)
    (hids : ∀ j ∈ neighbours, j ≠ 0) :
    ∃ node, MostSimilar w eds neighbours node ∧ ∀ neighbours' : List Nat,
      neighbours'.Perm neighbours → findMostSimilarNode w neighbours' eds = some node := by
  obtain ⟨node, _, hnode⟩ := findMostSimilarNode_returns (w := w) heds hlen hids
  refine ⟨node, hnode, fun neighbours' hp => ?_⟩
  obtain ⟨node', hfound, hnode'⟩ := findMostSimilarNode_returns (w := w) heds
    (hp.length_eq.trans_lt hlen) fun j hj => hids j (hp.mem_iff.mp hj)
  rw [hfound, hnode'.unique (hnode.perm hp)]

end Similarity

/-- UAV `i` of a group `S` whose members all cover the devices `E`: it has no
route to the base station, still persists, has all others of the group one hop
away, and shares fewer devices with any further neighbour. -/
structure Member (S E : Finset Nat) (i : Nat) (cfg : Config K) (w : World K) (now : Time) (u : Uav K) :
    Prop where
  id : cfg.id = i
  noRoute : ∀ e, w.entries.find? (fun e => decide (e.destAddr = cfg.bsAddr)) = some e → e.distance = 0
  going : 0 < u.persist
  covered : ∀ ed, ed ∈ setEdsList now u ↔ ed ∈ E
  reported : ∀ j ∈ S, j ≠ i → ∀ ed, ed ∈ w.coverage j ↔ ed ∈ E
  others : ∀ j ∈ S, j ≠ i → j ∈ oneHop cfg w
  further : ∀ j ∈ oneHop cfg w, j ∉ S ∨ j = i → ∃ ed ∈ E, ed ∉ w.coverage j

section Group

variable {S E : Finset Nat} {i : Nat} {c : CMath K} {cfg : Config K} {w : World K} {now : Time}
  {u : Uav K}

omit [Field K] [LinearOrder K] in
theorem numSharedEds_other (h : Member S E i cfg w now u) {j : Nat} (hj : j ∈ S) (hne : j ≠ i) :
    numSharedEds w (setEdsList now u) j = E.card := by
  rw [numSharedEds_eq_card w h.covered, Finset.filter_true_of_mem]
  exact fun ed hed => (h.reported j hj hne ed).mpr hed

omit [Field K] [LinearOrder K] in
theorem numSharedEds_further (h : Member S E i cfg w now u) {j : Nat} (hj : j ∈ oneHop cfg w)
    (hfurther : j ∉ S ∨ j = i) : numSharedEds w (setEdsList now u) j < E.card := by
  obtain ⟨ed, hed, hnot⟩ := h.further j hj hfurther
  rw [numSharedEds_eq_card w h.covered]
  exact Finset.card_lt_card (Finset.filter_ssubset.mpr ⟨ed, hed, hnot⟩)

omit [Field K] [LinearOrder K] in
theorem hasPathToBs_far
    (hroute : ∀ e, w.entries.find? (fun e => decide (e.destAddr = cfg.bsAddr)) = some e →
      e.distance = 0)
    {entry : RoutingTableEntry} (h : hasPathToBs cfg w = some entry) : entry.distance = 0 := by
  rw [hasPathToBs] at h
  split at h
  · cases h
  · next i hs =>
      obtain ⟨_, hi, hp, hn⟩ := (search_hit_iff _ _ _ _).mp hs
      rw [List.getElem?_eq_getElem hi, Option.some.injEq] at h
      subst h
      refine hroute _ (List.find?_eq_some_iff_getElem.mpr ⟨hp, i, hi, rfl, fun j hj => ?_⟩)
      simpa using hn j hj
  · cases h; rfl

variable [IsStrictOrderedRing K]

theorem findMostSimilarNode_member (h : Member S E i cfg w now u) (hE : E.Nonempty) {m : Nat}
    (hm : m ∈ S) (hne : m ≠ i) (hmax : ∀ j ∈ S, j ≠ i → j ≤ m) {simNode : Nat}
    (hsim : findMostSimilarNode w (oneHop cfg w) (setEdsList now u) = some simNode) : simNode = m := by
  obtain ⟨s, hs, rfl⟩ := Option.map_eq_some_iff.mp hsim
  obtain ⟨_, rfl⟩ := (accumulate_eq_some_iff _ _ _ _ _).mp hs
  have hshared := numSharedEds_other h hm hne
  have hpos : 0 < E.card := hE.card_pos
  have hscan : (oneHop cfg w).foldl (similarStep w (setEdsList now u)) (0, 0) = (E.card, m) := by
    rw [← hshared]
    apply foldl_better_eq (h.others m hm hne) (by simpa only [hshared] using hpos)
    intro j hj
    rw [hshared]
    by_cases hgroup : j ∈ S ∧ j ≠ i
    · exact .inr ⟨numSharedEds_other h hgroup.1 hgroup.2, hmax j hgroup.1 hgroup.2⟩
    · exact .inl (numSharedEds_further h hj (by tauto))
  have hsize : (setEdsList now u).size = E.card := size_eq_card h.covered
  have hcard : (E.card : K) ≠ 0 := Nat.cast_ne_zero.mpr hpos.ne'
  rw [hscan, hsize, divDouble, if_neg hcard]
  simp only [div_self hcard]
  exact if_neg (by norm_num)

theorem member_effect [FloorRing K] (h : Member S E i cfg w now u) (hE : E.Nonempty) (h0 : 0 ∉ S)
    {m : Nat} (hm : m ∈ S) (hne : m ≠ i) (hmax : ∀ j ∈ S, j ≠ i → j ≤ m) {u' : Uav K} {calls : List (Call K)}
    (hstep : doInitializePrivate c cfg w now u = some (u', calls)) :
    u'.persist = (if m < i then u.persist / 2 else u.persist * 2) ∧ u'.lastNode = false := by
  have hgoing : u.persist ≠ 0 := UInt32.pos_iff_ne_zero.mp h.going
  have hm0 : m ≠ 0 := fun he => h0 (he ▸ hm)
  cases doInitializePrivate_effect hstep with
  | connected entry path near _ _ => exact absurd (hasPathToBs_far h.noRoute path) near
  | gaveUp _ _ _ spent _ _ _ => exact absurd spent hgoing
  | waited _ _ _ _ alone _ _ _ =>
      rw [size_eq_card h.covered] at alone
      exact absurd alone hE.card_pos.ne'
  | compared _ _ _ _ _ neighbours _ list simNode similar flag counter _ =>
      rw [setNeighboursList_fst cfg w list] at similar
      obtain rfl := findMostSimilarNode_member h hE hm hne hmax similar
      rw [counter, flag, h.id]
      simp [hm0]

/-- Every list that the step scans with a 16-bit index is short enough, in the
modes with prediction with the tokens that the step itself issues. -/
structure Short (cfg : Config K) (w : World K) (now : Time) (u : Uav K) : Prop where
  entries : w.entries.length < 2 ^ 16
  nodes : cfg.ataNodes.length < 2 ^ 16
  neighbours : (oneHop cfg w).length < 2 ^ 16
  tokens : cfg.predictionMode = 2 ∨ cfg.predictionMode = 3 → u.tokens.length + 8 ≤ 2 ^ 16
  lost : cfg.predictionMode = 3 → getEdsLostSize (swept cfg now u.monitor) < 2 ^ 16

/-- The clusters are those of the program: `lloyd` on the devices that are
lost, run to its end, and the average silhouette. -/
def RunsKMeans (m : Monitor K) (g : Clusters.Clustering K) : Prop :=
  ∃ dist chance draw, g = CreateClusters.clustering dist chance (3 ^ getEdsLostSize m) m draw

theorem clusters_returns {m : Monitor K} {g : Clusters.Clustering K} (hlen : getEdsLostSize m < 2 ^ 16)
    (hmeans : RunsKMeans m g) :
    ∃ numClust pt clusters, numClust ≤ 3 ∧ Clusters.createClusters g 3 m = some (numClust, pt) ∧
      Clusters.computeClustersInfo c g.draw m pt numClust = some clusters ∧
        clusters.length ≤ numClust := by
  suffices h : ∃ numClust pt, numClust ≤ 3 ∧ pt.length ≤ getEdsLostSize m ∧
      Clusters.createClusters g 3 m = some (numClust, pt) by
    obtain ⟨numClust, pt, hnum, hpt, hcreate⟩ := h
    obtain ⟨clusters, hclusters, hle⟩ :=
      Clusters.computeClustersInfo_returns c g.draw m (hpt.trans_lt hlen) numClust
    exact ⟨numClust, pt, clusters, hnum, hcreate, hclusters, hle⟩
  obtain ⟨dist, chance, draw, rfl⟩ := hmeans
  by_cases hempty : m.edsLost.size = 0
  · exact ⟨0, [], by omega, Nat.zero_le _, by rw [Clusters.createClusters, if_pos hempty]⟩
  have hne : 0 < m.edsLost.size := Nat.pos_of_ne_zero hempty
  have hlow : 2 ≤ 3 := by omega
  have hhigh : 3 < 65535 := by omega
  obtain ⟨r, hr, hsound⟩ : ∃ r, CreateClusters.createClusters dist chance (3 ^ m.edsLost.size) m [] 3 =
      some r ∧ CreateClusters.Sound m 3 r :=
    (CreateClusters.createClusters_sound_iff hne hlen hlow (by omega) le_rfl []).mpr (.inl hhigh)
  obtain ⟨r', hr', pt', hcreate, hgroups⟩ :=
    CreateClusters.createClusters_instance hne hlen hlow hhigh le_rfl draw []
  obtain rfl := Option.some.inj (hr.symm.trans hr')
  have hlength := congrArg List.length hgroups
  rw [List.length_map, List.length_map, hsound.length] at hlength
  exact ⟨r.1, pt', hsound.range.2, hlength.ge, hcreate⟩

theorem checkLostClusters_returns (hshort : Short cfg w now u)
    (hmeans : cfg.predictionMode = 3 → RunsKMeans (swept cfg now u.monitor) w.clustering) (v : Uav K)
    (hv : v.tokens = u.tokens) (hm : v.monitor = u.monitor) :
    ∃ s, checkLostClusters c cfg w now v = some s := by
  have hissue (infos : List (Clusters.ClusterInfo K)) (hinfos : infos.length ≤ 8)
      (htokens : u.tokens.length + 8 ≤ 2 ^ 16) (m : Monitor K) (calls : List (Call K)) :
      ∃ s, issueTokens cfg w (generateTokens cfg now infos) ({ v with monitor := m }, calls) = some s := by
    have hlen : (generateTokens cfg now infos).length = infos.length := List.length_map _
    refine issueTokens_returns cfg w hshort.entries hshort.nodes (by omega) ?_
    dsimp only
    rw [hv]
    omega
  rw [checkLostClusters]
  by_cases h2 : cfg.predictionMode = 2
  · rw [if_pos h2]
    refine hissue _ ?_ (hshort.tokens (.inl h2)) _ _
    exact (List.length_filterMap_le _ _).trans_eq List.length_range
  · by_cases h3 : cfg.predictionMode = 3
    · have hswept : swept cfg now u.monitor =
          filterLostEds now (seconds 40) (minutes 3) (updateLostEds now (minutes 3) u.monitor) := by
        rw [swept, if_neg h2, if_pos h3]
      obtain ⟨numClust, pt, clusters, hnum, hcreate, hclusters, hle⟩ :=
        clusters_returns (c := c) (hshort.lost h3) (hmeans h3)
      rw [if_neg h2, if_pos h3, hm, ← hswept]
      simp only [Option.bind_eq_bind, hcreate, Option.bind_some, hclusters]
      exact hissue clusters (by omega) (hshort.tokens (.inr h3)) _ _
    · exact ⟨_, by rw [if_neg h2, if_neg h3]⟩

theorem observe_returns (hshort : Short cfg w now u)
    (hmeans : cfg.predictionMode = 3 → RunsKMeans (swept cfg now u.monitor) w.clustering) :
    ∃ s, observe c cfg w now u = some s := by
  obtain ⟨⟨neighbours, allNeighbours⟩, hlist⟩ :=
    setNeighboursList_returns cfg w hshort.entries hshort.nodes
  rw [observe, hlist]
  exact checkLostClusters_returns hshort hmeans _ rfl rfl

theorem member_returns [FloorRing K] (h : Member S E i cfg w now u) (hE : E.Nonempty)
    (hshort : Short cfg w now u)
    (hmeans : cfg.predictionMode = 3 → RunsKMeans (swept cfg now u.monitor) w.clustering) :
    ∃ s, doInitializePrivate c cfg w now u = some s := by
  obtain ⟨⟨u₁, seen⟩, hobs⟩ : ∃ s, observe c cfg w now u = some s := observe_returns hshort hmeans
  obtain ⟨entry, hpath⟩ := hasPathToBs_returns cfg w hshort.entries
  have hfar := hasPathToBs_far h.noRoute hpath
  obtain ⟨neighbours, allNeighbours, hlist, ⟨tokens, hu₁⟩, _⟩ := observe_sent hobs
  dsimp only at hu₁
  have hneighbours : u₁.neighbours.length < 2 ^ 16 := by
    rw [hu₁]
    exact setNeighboursList_fst cfg w hlist ▸ hshort.neighbours
  have heds : u₁.eds.size ≠ 0 := by
    rw [hu₁]
    exact (size_eq_card h.covered).trans_ne hE.card_pos.ne'
  have hpersist : u₁.persist ≠ 0 := by
    rw [hu₁]
    exact UInt32.pos_iff_ne_zero.mp h.going
  obtain ⟨s, hs⟩ := persistOnRoute_returns c cfg w now hneighbours heds
  have hact : act c cfg w now entry u₁ = some s := by
    rw [act, if_pos hfar, disconnected, if_neg hpersist, hs]
  exact ⟨(s.1, seen ++ s.2), by rw [doInitializePrivate, hobs]; simp [hpath, hact]⟩

end Group

theorem exists_greatest_other {S : Finset Nat} (hcard : 2 ≤ S.card) {i : Nat} (hi : i ∈ S) :
    ∃ m ∈ S, m ≠ i ∧ ∀ j ∈ S, j ≠ i → j ≤ m := by
  have hne : (S.erase i).Nonempty := by
    rw [← Finset.card_pos, Finset.card_erase_of_mem hi]
    omega
  obtain ⟨hm, hmem⟩ := Finset.mem_erase.mp ((S.erase i).max'_mem hne)
  exact ⟨_, hmem, hm, fun j hj hji => (S.erase i).le_max' j (Finset.mem_erase.mpr ⟨hji, hj⟩)⟩

section Crowd

def crowd (n : Nat) : Finset Nat := (List.range' 1 n).toFinset

def crowdConfig (n i : Nat) : Config ℚ := ⟨i, 17, 30, 1 / 2, 10, 10, 0, 0, 0, true, List.range' 1 n⟩

def crowdWorld (n i : Nat) : World ℚ where
  position := ⟨200, 0, 0⟩
  entries := ((List.range' 1 n).erase i).map fun j => ⟨j, 1⟩
  address j := j
  positionOf _ := ⟨100, 0, 0⟩
  coverage _ := (∅ : EdsMap ℚ).insert 5 ⟨200, 50, 0⟩
  ataLinkBudget _ := 20
  atgLinkBudget _ := 20
  clustering := ⟨fun _ _ => some fun _ => 0, fun _ _ => none, fun _ => 0⟩
  junkRatio := 0
  junkPause := 0
  junkEntry := ⟨0, 0, 0⟩
  junkToken := ⟨0, 0, 0, 0, 0, 0⟩

def crowdUav : Uav ℚ :=
  let u : Uav ℚ := doInitialize ⟨0, 0, 0, 0, 0, 0⟩
  { u with persist := 4, monitor := { u.monitor with eds := u.monitor.eds.insert 5 ⟨200, 50, 0⟩ } }

theorem findMostSimilarNode_spec_crowd :
    ∃ node, MostSimilar (crowdWorld 3 1) ((∅ : EdsMap ℚ).insert 5 ⟨200, 50, 0⟩) [2, 3] node ∧
      ∀ neighbours' : List Nat, neighbours'.Perm [2, 3] → findMostSimilarNode (crowdWorld 3 1)
        neighbours' ((∅ : EdsMap ℚ).insert 5 ⟨200, 50, 0⟩) = some node :=
  findMostSimilarNode_spec (by decide) (by decide) (by decide)

theorem mem_crowd_iff (n i : Nat) : i ∈ crowd n ↔ 1 ≤ i ∧ i < 1 + n := by
  simp [crowd, List.mem_range'_1]

theorem crowd_member (n i : Nat) :
    Member (crowd n) {5} i (crowdConfig n i) (crowdWorld n i) 0 crowdUav where
  id := rfl
  noRoute e he := by
    have hmem := List.mem_of_find?_eq_some he
    have haddr := List.find?_some he
    obtain ⟨j, hj, rfl⟩ := List.mem_map.mp hmem
    have hj := List.mem_range'_1.mp (List.mem_of_mem_erase hj)
    have : j = 0 := by simpa [crowdConfig] using haddr
    omega
  going := by decide
  covered ed := by
    have hget : (setEdsList 0 crowdUav)[ed]? = if 5 = ed then some ⟨200, 50, 0⟩ else none := by
      rw [setEdsList, getEdsList, ExtTreeMap.getElem?_filter']
      by_cases hed : 5 = ed
      · subst hed
        decide +kernel
      · simp [crowdUav, doInitialize, EdsMonitor.empty, hed]
    rw [ExtTreeMap.mem_iff_isSome_getElem?, hget, Finset.mem_singleton]
    by_cases hed : 5 = ed
    · simp [hed]
    · simp [hed, Ne.symm hed]
  reported j hj hne ed := by
    simp only [crowdWorld, ExtTreeMap.mem_insert, ExtTreeMap.not_mem_empty, or_false,
      LawfulEqCmp.compare_eq_iff_eq, Finset.mem_singleton]
    exact eq_comm
  others j hj hne := by
    have hr : j ∈ List.range' 1 n := List.mem_toFinset.mp hj
    rw [mem_oneHop_iff]
    refine ⟨hr, ⟨j, 1⟩, List.mem_map.mpr ⟨j, ?_, rfl⟩, rfl, rfl⟩
    exact (List.mem_erase_of_ne hne).mpr hr
  further j hj h := by
    obtain ⟨hr, e, he, haddr, _⟩ := (mem_oneHop_iff _ _ j).mp hj
    obtain ⟨k, hk, rfl⟩ := List.mem_map.mp he
    obtain rfl : j = k := haddr
    have hji : j ≠ i := ((List.Nodup.mem_erase_iff (List.nodup_range' 1)).mp hk).1
    exact absurd (List.mem_toFinset.mpr hr) (h.resolve_right hji)

def trackingConfig (n i : Nat) : Config ℚ := { crowdConfig n i with predictionMode := 3 }

def trackingUav : Uav ℚ :=
  let lost := ((∅ : HistoryMap ℚ).insert 7 [⟨0, 0, 1⟩]).insert 9 [⟨50, 0, 2⟩, ⟨60, 0, 3⟩]
  { crowdUav with monitor := { crowdUav.monitor with edsLost := lost } }

def trackingWorld (n i : Nat) : World ℚ :=
  let m := swept (trackingConfig n i) 0 trackingUav.monitor
  { crowdWorld n i with
    clustering := CreateClusters.clustering gridDistance (fun _ => CreateClusters.idle)
      (3 ^ getEdsLostSize m) m fun _ => 0 }

theorem tracking_member (n i : Nat) :
    Member (crowd n) {5} i (trackingConfig n i) (trackingWorld n i) 0 trackingUav :=
  let h := crowd_member n i
  ⟨h.id, h.noRoute, h.going, h.covered, h.reported, h.others, h.further⟩

end Crowd

end UavMonitoring.RedundantGroup
