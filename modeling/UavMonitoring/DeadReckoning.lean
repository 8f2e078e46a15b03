import UavMonitoring.ClusterReports
import UavMonitoring.VirtualSprings

namespace UavMonitoring.DeadReckoning

open Std Basics Clusters ClusterReports CounterLoop EdsMonitor LeastSquares SeedsManager SpringForces
  VirtualSprings

variable {K : Type} [Field K] [LinearOrder K]

section Groups

/-- The device moves with velocity `v`, in metres per second, and was last
heard at `t₁` and `t₂`. -/
def Uniform (lost : HistoryMap K) (v : Vector3D K) (t₁ t₂ : Time) (id : Nat) : Prop :=
  ∃ x y : K, lost[id]? = some [⟨x, y, t₁⟩,
    ⟨x + v.x * getSeconds (t₂ - t₁), y + v.y * getSeconds (t₂ - t₁), t₂⟩]

def BuiltFrom (lost : HistoryMap K) (pt : List (Point K)) : Prop :=
  ∀ p ∈ pt, ∃ q, lost[p.id]? = some q ∧ p.x = (backOf q).x ∧ p.y = (backOf q).y

variable {lost : HistoryMap K} {pt : List (Point K)} {v : Vector3D K} {t₁ t₂ : Time} {k : Nat}

omit [LinearOrder K] in
theorem length_members (hbuilt : BuiltFrom lost pt) : (members Point.group pt k).length =
    (moved lost pt k).length + (heardOnce lost pt k).length := by
  have h : (members Point.group pt k).map (fun _ => ()) = (fixes lost pt k).map fun _ => () :=
    map_members fun p hp => (hbuilt p hp).imp fun q hq => ⟨hq.1, rfl⟩
  rw [← List.length_append, ← List.length_map fun _ => (), h, List.length_map]
  exact (List.filter_append_perm _ _).symm.length_eq

omit [LinearOrder K] in
theorem clusterCenter_eq (hlen : pt.length < 2 ^ 16) (hbuilt : BuiltFrom lost pt) :
    computeClusterCenter pt k = some
      ⟨((total backOf (moved lost pt k)).x + (total backOf (heardOnce lost pt k)).x) /
          ((moved lost pt k).length + (heardOnce lost pt k).length : Nat),
        ((total backOf (moved lost pt k)).y + (total backOf (heardOnce lost pt k)).y) /
          ((moved lost pt k).length + (heardOnce lost pt k).length : Nat), 0⟩ := by
  have hx : (members Point.group pt k).map Point.x = (fixes lost pt k).map fun q => (backOf q).x :=
    map_members fun p hp => (hbuilt p hp).imp fun q hq => ⟨hq.1, hq.2.1⟩
  have hy : (members Point.group pt k).map Point.y = (fixes lost pt k).map fun q => (backOf q).y :=
    map_members fun p hp => (hbuilt p hp).imp fun q hq => ⟨hq.1, hq.2.2⟩
  rw [computeClusterCenter_eq hlen, groupMean, groupMean, hx, hy, sum_fixes, sum_fixes,
    length_members hbuilt]
  rfl

theorem clusterVelocity_eq [IsStrictOrderedRing K] {c : CMath K} (hc : c.SqrtPositive)
    (hlen : pt.length < 2 ^ 16) (hbuilt : BuiltFrom lost pt) : clusterVelocity c lost pt k =
      let qs := moved lost pt k
      let qs' := heardOnce lost pt k
      some (if total frontOf qs = 0 then 0 else
        ⟨((total backOf qs).x + (total backOf qs').x) / (qs.length + qs'.length : Nat) -
            (total frontOf qs).x / qs.length,
          ((total backOf qs).y + (total backOf qs').y) / (qs.length + qs'.length : Nat) -
            (total frontOf qs).y / qs.length, 0⟩) := by
  rw [clusterVelocity, clusterCenter_eq hlen hbuilt, Option.bind_some, computeCenterMassVel_eq hc hlen]
  dsimp only
  congr 2
  ext <;> simp

omit [LinearOrder K] in
theorem fixes_of_uniform (hgroup : ∀ p ∈ pt, p.group = k → Uniform lost v t₁ t₂ p.id) :
    ∀ q ∈ fixes lost pt k, q.length = 2 ∧
      (backOf q).x - (frontOf q).x = v.x * getSeconds (t₂ - t₁) ∧
      (backOf q).y - (frontOf q).y = v.y * getSeconds (t₂ - t₁) := by
  intro q hq
  obtain ⟨p, hp, hq⟩ := List.mem_filterMap.mp hq
  obtain ⟨x, y, hfixes⟩ := hgroup p (List.mem_of_mem_filter hp) (label_of_mem_members hp)
  obtain rfl := Option.some.inj (hfixes.symm.trans hq)
  refine ⟨rfl, ?_, ?_⟩ <;> simp [backOf, frontOf]

theorem clusterVelocity_eq_displacement [IsStrictOrderedRing K] {c : CMath K} (hc : c.SqrtPositive)
    (hlen : pt.length < 2 ^ 16) (hbuilt : BuiltFrom lost pt) (honce : heardOnce lost pt k = [])
    (hfront : total frontOf (moved lost pt k) ≠ 0) :
    clusterVelocity c lost pt k = some (displacement (moved lost pt k)) := by
  have hne : (moved lost pt k).length ≠ 0 := by
    rw [ne_eq, List.length_eq_zero_iff]
    intro hempty
    exact hfront (by rw [hempty]; rfl)
  have hmean (a b : K) : (a + 0) / ((moved lost pt k).length + 0 : Nat) - b / (moved lost pt k).length =
      (a - b) / (moved lost pt k).length := (mean_eq_iff hne a 0 b).mpr (by simp)
  rw [clusterVelocity_eq hc hlen hbuilt, honce, displacement_eq]
  dsimp only
  rw [if_neg hfront, ← hmean, ← hmean]
  rfl

theorem displacement_of_uniform [IsStrictOrderedRing K] {qs : List (List (EdsEntry K))} (hne : qs ≠ [])
    {dx dy : K} (hx : ∀ q ∈ qs, (backOf q).x - (frontOf q).x = dx)
    (hy : ∀ q ∈ qs, (backOf q).y - (frontOf q).y = dy) : displacement qs = ⟨dx, dy, 0⟩ := by
  have hcast : (qs.length : K) ≠ 0 := Nat.cast_ne_zero.mpr (by rwa [ne_eq, List.length_eq_zero_iff])
  have hmean {u : List (EdsEntry K) → K} {d : K} (h : ∀ q ∈ qs, u q = d) :
      (qs.map u).sum / qs.length = d := by
    rw [List.map_congr_left h, List.map_const', List.sum_replicate, nsmul_eq_mul,
      mul_div_cancel_left₀ _ hcast]
  rw [displacement, hmean hx, hmean hy]

theorem velocity_of_uniform [IsStrictOrderedRing K] {c : CMath K} (hc : c.SqrtPositive)
    (hlen : pt.length < 2 ^ 16) (hbuilt : BuiltFrom lost pt)
    (hgroup : ∀ p ∈ pt, p.group = k → Uniform lost v t₁ t₂ p.id) {vel : Vector3D K}
    (hvel : clusterVelocity c lost pt k = some vel) (hpos : 0 < getLength c vel) :
    vel = ⟨v.x * getSeconds (t₂ - t₁), v.y * getSeconds (t₂ - t₁), 0⟩ := by
  have huniform := fixes_of_uniform hgroup
  have honce : heardOnce lost pt k = [] :=
    List.filter_eq_nil_iff.mpr fun q hq => by simp [(huniform q hq).1]
  by_cases hzero : total frontOf (moved lost pt k) = 0
  -- earlier positions that cancel out leave the cluster without a summary
  · rw [clusterVelocity_eq hc hlen hbuilt, Option.some.injEq] at hvel
    rw [← hvel, if_pos hzero, getLength_zero hc] at hpos
    exact absurd hpos (lt_irrefl 0)
  · rw [clusterVelocity_eq_displacement hc hlen hbuilt honce hzero, Option.some.injEq] at hvel
    rw [← hvel]
    apply displacement_of_uniform
    · intro hempty
      exact hzero (by rw [hempty]; rfl)
    · exact fun q hq => (huniform q (List.mem_of_mem_filter hq)).2.1
    · exact fun q hq => (huniform q (List.mem_of_mem_filter hq)).2.2

omit [LinearOrder K] in
theorem lastTime_of_uniform (hgroup : ∀ p ∈ pt, p.group = k → Uniform lost v t₁ t₂ p.id) (s : Time)
    (hs : s ≤ t₂) : pt.foldl (lastTimeStep lost k) s =
      if 0 < pt.countP (fun p => decide (p.group = k)) then t₂ else s := by
  induction pt generalizing s with
  | nil => rfl
  | cons p pt ih =>
      have ih := ih fun p hp => hgroup p (List.mem_cons_of_mem _ hp)
      rw [List.foldl_cons]
      by_cases hk : p.group = k
      · obtain ⟨x, y, hq⟩ := hgroup p List.mem_cons_self hk
        have hstep : lastTimeStep lost k s p = t₂ := by
          rcases hs.lt_or_eq with hlt | rfl
          · simp [lastTimeStep, hk, hq, backOf, hlt]
          · simp [lastTimeStep, hk, hq, backOf]
        rw [hstep, ih t₂ le_rfl, ite_self, List.countP_cons_of_pos (by simpa using hk),
          if_pos (by omega)]
      · have hstep : lastTimeStep lost k s p = s := if_neg hk
        rw [hstep, ih s hs, List.countP_cons_of_neg (by simpa using hk)]

theorem clusterInfo_of_uniform [IsStrictOrderedRing K] {c : CMath K} (hc : c.SqrtPositive)
    (hbuilt : BuiltFrom lost pt) (hgroup : ∀ p ∈ pt, p.group = k → Uniform lost v t₁ t₂ p.id)
    (ht : 0 ≤ t₂) {draw members : Nat → Nat} {n : Nat} {info : ClusterInfo K}
    (h : clusterInfo c draw lost pt members n k = some (some info)) :
    info.velocity = ⟨v.x * getSeconds (t₂ - t₁), v.y * getSeconds (t₂ - t₁), 0⟩ ∧
      info.lastTime = t₂ := by
  obtain ⟨center, hcenter, h⟩ := Option.bind_eq_some_iff.mp h
  obtain ⟨vel, hvel, h⟩ := Option.bind_eq_some_iff.mp h
  obtain ⟨lastTime, htime, h⟩ := Option.bind_eq_some_iff.mp h
  obtain ⟨hlen, rfl⟩ := (accumulate_eq_some_iff _ _ _ _ _).mp htime
  rw [lastTime_of_uniform hgroup (seconds 0) ht] at h
  split at h
  · next hpos =>
      cases h
      have hmembers : 0 < pt.countP (fun p => decide (p.group = k)) := by
        rw [List.countP_eq_length_filter, List.length_pos_iff]
        intro hempty
        exact hpos.ne' (getLength_of_empty hc hlen hempty hvel)
      exact ⟨velocity_of_uniform hc hlen hbuilt hgroup
        (Option.bind_eq_some_iff.mpr ⟨center, hcenter, hvel⟩) hpos, if_pos hmembers⟩
  · cases h

end Groups

section Summaries

inductive SummaryOf (c : CMath K) (m : Monitor K) (info : ClusterInfo K) : (Nat → Prop) → Prop
  | computeClustersInfo (draw : Nat → Nat) (pt pt' : List (Point K)) (k : Nat)
      (clusters : List (ClusterInfo K)) (members : Nat → Nat) (n i : Nat)
      (built : BuiltFrom m.edsLost pt) (grouped : regroup pt k = some pt')
      (returned : computeClustersInfo c draw m pt k = some clusters) (mem : info ∈ clusters)
      (made : clusterInfo c draw m.edsLost pt' members n i = some (some info)) :
      SummaryOf c m info (fun id => ∃ p ∈ pt', p.id = id ∧ p.group = i)
  | getClusterInfo (i : Nat) (mem : info ∈ getClusterInfo c m)
      (made : directionInfo i (directionCluster c m i) = some info) :
      SummaryOf c m info (fun id => id ∈ directionCluster c m i)

variable {c : CMath K} {m : Monitor K} {info : ClusterInfo K}

omit [LinearOrder K] in
theorem builtFrom_of_same {lost : HistoryMap K} {pt pt' : List (Point K)} (h : BuiltFrom lost pt)
    (hsame : ∀ p' ∈ pt', ∃ p ∈ pt, p'.id = p.id ∧ p'.x = p.x ∧ p'.y = p.y) : BuiltFrom lost pt' := by
  intro p' hp'
  obtain ⟨p, hp, hid, hx, hy⟩ := hsame p' hp'
  rw [hid, hx, hy]
  exact h p hp

omit [LinearOrder K] in
theorem builtFrom_regroup {lost : HistoryMap K} {pt pt' : List (Point K)} {k : Nat}
    (h : BuiltFrom lost pt) (hgroup : regroup pt k = some pt') : BuiltFrom lost pt' := by
  rw [regroup] at hgroup
  split at hgroup
  · apply builtFrom_of_same h
    obtain ⟨_, rfl⟩ := (accumulate_eq_some_iff _ _ _ _ _).mp hgroup
    intro p' hp'
    rw [foldl_collect, List.nil_append] at hp'
    obtain ⟨p, hp, rfl⟩ := List.mem_map.mp hp'
    exact ⟨p, hp, rfl, rfl, rfl⟩
  · cases hgroup
    exact h

omit [LinearOrder K] in
theorem builtFrom_setGroups {lost : HistoryMap K} {pt : List (Point K)} (h : BuiltFrom lost pt)
    (groups : Nat → Nat) : BuiltFrom lost (setGroups pt groups) := by
  apply builtFrom_of_same h
  intro p' hp'
  obtain ⟨i, hi, rfl⟩ := List.mem_mapIdx.mp hp'
  exact ⟨pt[i], List.getElem_mem hi, rfl, rfl, rfl⟩

theorem builtFrom_tryClusters {g : Clustering K} {lost : HistoryMap K} {pt pt' : List (Point K)}
    (h : BuiltFrom lost pt) {js : List Nat} {k : Nat} (hrun : tryClusters g pt js = some (k, pt')) :
    BuiltFrom lost pt' := by
  induction js with
  | nil =>
      cases hrun
      exact h
  | cons j js ih =>
      rw [tryClusters] at hrun
      split at hrun
      · split at hrun
        · cases hrun
        · next groups _ =>
            dsimp only at hrun
            split at hrun
            · split at hrun
              · cases hrun
                exact builtFrom_setGroups h groups
              · exact ih hrun
            · exact ih hrun
      · exact ih hrun

omit [LinearOrder K] in
theorem builtFrom_points (m : Monitor K) : BuiltFrom m.edsLost (points m) := by
  intro p hp
  obtain ⟨⟨id, q⟩, hmem, rfl⟩ := List.mem_map.mp hp
  exact ⟨q, ExtTreeMap.mem_toList_iff_getElem?_eq_some.mp hmem, rfl, rfl⟩

theorem builtFrom_createClusters {g : Clustering K} {kMax k : Nat} {pt : List (Point K)}
    (h : createClusters g kMax m = some (k, pt)) : BuiltFrom m.edsLost pt := by
  rw [createClusters] at h
  split at h
  · cases h
    intro p hp
    simp at hp
  · exact builtFrom_tryClusters (builtFrom_points m) h

theorem summaryOf_of_mem_getClusterInfo (h : info ∈ getClusterInfo c m) :
    ∃ i, SummaryOf c m info (fun id => id ∈ directionCluster c m i) := by
  obtain ⟨i, _, hi⟩ := List.mem_filterMap.mp h
  exact ⟨i, .getClusterInfo i h hi⟩

theorem summaryOf_of_mem_computeClustersInfo {draw : Nat → Nat} {pt : List (Point K)} {k : Nat}
    {clusters : List (ClusterInfo K)} (hbuilt : BuiltFrom m.edsLost pt)
    (hrun : computeClustersInfo c draw m pt k = some clusters) (hinfo : info ∈ clusters) :
    ∃ g, SummaryOf c m info g := by
  have hrun' := hrun
  rw [computeClustersInfo] at hrun'
  split at hrun'
  · cases hrun'
    simp at hinfo
  · obtain ⟨pt', hgroup, hrun'⟩ := Option.bind_eq_some_iff.mp hrun'
    obtain ⟨members, _, hrun'⟩ := Option.bind_eq_some_iff.mp hrun'
    have hmade := foldlM_invariant
      (fun clusters => ∀ info ∈ clusters, ∃ n i,
        clusterInfo c draw m.edsLost pt' members n i = some (some info)) ?_ (by simp) hrun'
    · obtain ⟨n, i, hmade⟩ := hmade info hinfo
      exact ⟨_, .computeClustersInfo draw pt pt' k clusters members n i hbuilt hgroup hrun hinfo hmade⟩
    · intro clusters i clusters' hclusters hstep
      obtain ⟨made, hmade, hstep⟩ := Option.bind_eq_some_iff.mp hstep
      cases hstep
      intro info hinfo
      rcases List.mem_append.mp hinfo with hinfo | hinfo
      · exact hclusters info hinfo
      · rw [Option.mem_toList] at hinfo
        exact ⟨clusters.length, i, by rw [hmade, hinfo]⟩

omit [LinearOrder K] in
theorem directionInfo_of_uniform {cluster lost : HistoryMap K} {v : Vector3D K} {t₁ t₂ : Time} {i : Nat}
    (hsub : ∀ (id : Nat) q, cluster[id]? = some q → lost[id]? = some q)
    (hgroup : ∀ id, id ∈ cluster → Uniform lost v t₁ t₂ id) (h : directionInfo i cluster = some info) :
    info.velocity = ⟨v.x * getSeconds (t₂ - t₁), v.y * getSeconds (t₂ - t₁), 0⟩ ∧
      info.lastTime = t₂ := by
  rw [directionInfo] at h
  split at h
  · cases h
  · obtain ⟨⟨id, q⟩, hhead, rfl⟩ := Option.map_eq_some_iff.mp h
    have hq : cluster[id]? = some q :=
      ExtTreeMap.mem_toList_iff_getElem?_eq_some.mp (List.mem_of_head? hhead)
    have hmem : id ∈ cluster := ExtTreeMap.mem_iff_isSome_getElem?.mpr (by rw [hq]; rfl)
    obtain ⟨x, y, hlost⟩ := hgroup id hmem
    obtain rfl := Option.some.inj (hlost.symm.trans (hsub id q hq))
    simp [frontOf, backOf]

theorem summary_of_uniform [IsStrictOrderedRing K] (hc : c.SqrtPositive) {g : Nat → Prop}
    (h : SummaryOf c m info g) {v : Vector3D K} {t₁ t₂ : Time} (ht : 0 ≤ t₂)
    (hgroup : ∀ id, g id → Uniform m.edsLost v t₁ t₂ id) :
    info.velocity = ⟨v.x * getSeconds (t₂ - t₁), v.y * getSeconds (t₂ - t₁), 0⟩ ∧
      info.lastTime = t₂ := by
  cases h with
  | computeClustersInfo draw pt pt' k clusters members n i built grouped _ _ made =>
      exact clusterInfo_of_uniform hc (builtFrom_regroup built grouped)
        (fun p hp hi => hgroup p.id ⟨p, hp, rfl, hi⟩) ht made
  | getClusterInfo i _ made =>
      refine directionInfo_of_uniform (fun id q hq => ?_) hgroup made
      rw [directionCluster, ExtTreeMap.getElem?_filter', Option.filter_eq_some_iff] at hq
      exact hq.1

end Summaries

section Tokens

/-- At every time from `now` on until it expires, in whatever store holds it,
the token gives a seed that has moved on from its last position with velocity
`v` since `t₂`. -/
def Exact (v : Vector3D K) (t₂ now : Time) (token : Token K) : Prop :=
  ∀ t, now ≤ t → t ≤ token.expires →
    ∀ pre post : List (Token K), (pre ++ token :: post).length < 2 ^ 16 →
    ∃ before σ after, computeSeeds t pre = some before ∧ computeSeeds t post = some after ∧
      computeSeeds t (pre ++ token :: post) = some (before ++ σ :: after) ∧
      σ.pos = ⟨token.lastPos.x + v.x * getSeconds (t - t₂),
        token.lastPos.y + v.y * getSeconds (t - t₂), 0⟩

omit [LinearOrder K] in
theorem exact_iff_seedOf (v : Vector3D K) (t₂ now : Time) (token : Token K) :
    Exact v t₂ now token ↔ ∀ t, now ≤ t → t ≤ token.expires → (seedOf t token).pos =
      ⟨token.lastPos.x + v.x * getSeconds (t - t₂), token.lastPos.y + v.y * getSeconds (t - t₂), 0⟩ := by
  have hseed {t : Time} (ht : t ≤ token.expires) : seedAt t token = some (seedOf t token) :=
    if_neg ht.not_gt
  constructor
  · intro h t hnow ht
    obtain ⟨before, σ, after, hbefore, hafter, hseeds, hpos⟩ := h t hnow ht [] [] (by simp)
    have hempty : computeSeeds t ([] : List (Token K)) = some [] := getSeeds_of_short t (by simp)
    obtain rfl := Option.some.inj (hempty.symm.trans hbefore)
    obtain rfl := Option.some.inj (hempty.symm.trans hafter)
    have hone : computeSeeds t [token] = some [seedOf t token] := by
      have hshort : [token].length < 2 ^ 16 := by simp
      have hseeds' := getSeeds_of_short t hshort
      rwa [List.filterMap_cons_some (hseed ht)] at hseeds'
    have hσ := hone.symm.trans hseeds
    simp only [List.nil_append, Option.some.injEq, List.cons.injEq, and_true] at hσ
    rw [hσ]
    exact hpos
  · intro h t hnow ht pre post hshort
    have hlen : pre.length < 2 ^ 16 ∧ post.length < 2 ^ 16 := by
      rw [List.length_append, List.length_cons] at hshort
      omega
    refine ⟨_, seedOf t token, _, getSeeds_of_short t hlen.1, getSeeds_of_short t hlen.2, ?_,
      h t hnow ht⟩
    have := getSeeds_of_short t hshort
    rwa [List.filterMap_append, List.filterMap_cons_some (hseed ht)] at this

theorem getSeconds_eq_one_iff [IsStrictOrderedRing K] (t : Time) :
    (getSeconds t : K) = 1 ↔ t = seconds 1 := by
  have hne : (1000000000 : K) ≠ 0 := by norm_num
  rw [getSeconds, div_eq_one_iff_eq hne]
  exact_mod_cast Iff.rfl

/-- Dead reckoning of a uniform group is exact precisely when its receptions are
one second apart. -/
theorem exact_iff [IsStrictOrderedRing K] {c : CMath K} (hc : c.SqrtPositive) (m : Monitor K)
    (info : ClusterInfo K) (g : Nat → Prop) (hsum : SummaryOf c m info g) (v : Vector3D K) (t₁ t₂ : Time)
    (hv : v.x ≠ 0 ∨ v.y ≠ 0) (ht : 0 ≤ t₁) (hlt : t₁ < t₂)
    (hgroup : ∀ id, g id → Uniform m.edsLost v t₁ t₂ id) (cfg : Config K) (now : Time)
    (hnow : t₂ ≤ now) :
    Exact v t₂ now (tokenOf cfg now info) ↔ t₂ - t₁ = seconds 1 := by
  obtain ⟨hvel, htime⟩ := summary_of_uniform hc hsum (ht.trans hlt.le) hgroup
  have hpos (t : Time) : (seedOf t (tokenOf cfg now info)).pos =
      ⟨info.lastPosition.x + v.x * getSeconds (t₂ - t₁) * getSeconds (t - t₂),
        info.lastPosition.y + v.y * getSeconds (t₂ - t₁) * getSeconds (t - t₂), 0⟩ := by
    simp only [seedOf, tokenOf, hvel, htime]
  rw [exact_iff_seedOf, ← getSeconds_eq_one_iff (K := K)]
  constructor
  · intro h
    have hten : (0 : Int) < minutes 10 := by decide
    have hend := h (now + minutes 10) (by linarith) le_rfl
    have hs : (getSeconds (now + minutes 10 - t₂) : K) ≠ 0 := by
      refine div_ne_zero (Int.cast_ne_zero.mpr ?_) (by norm_num)
      have : 0 < now + minutes 10 - t₂ := by linarith
      exact this.ne'
    have hfactor {a : K} (ha : a ≠ 0)
        (h : a * getSeconds (t₂ - t₁) * getSeconds (now + minutes 10 - t₂) =
          a * getSeconds (now + minutes 10 - t₂)) : (getSeconds (t₂ - t₁) : K) = 1 := by
      have h := mul_right_cancel₀ hs h
      rwa [mul_eq_left₀ ha] at h
    rw [hpos, Vector3D.mk.injEq] at hend
    rcases hv with hv | hv
    · exact hfactor hv (add_left_cancel hend.1)
    · exact hfactor hv (add_left_cancel hend.2.1)
  · intro h t _ _
    rw [hpos, h, mul_one, mul_one]
    rfl

def walker : Monitor ℚ :=
  { (EdsMonitor.empty : Monitor ℚ) with
    edsLost := (∅ : HistoryMap ℚ).insert 7 [⟨100, 0, seconds 10⟩, ⟨110, 0, seconds 20⟩] }

def walkerInfo : ClusterInfo ℚ := ⟨0, seconds 20, ⟨10, 0, 0⟩, ⟨110, 0, 0⟩, 1⟩

theorem walker_summary : SummaryOf rationalMath walker walkerInfo
    (fun id => ∃ p ∈ [(⟨7, 110, 0, 0⟩ : Point ℚ)], p.id = id ∧ p.group = 0) :=
  .computeClustersInfo (fun _ => 0) [⟨7, 110, 0, 0⟩] [⟨7, 110, 0, 0⟩] 1 [walkerInfo] (fun _ => 1) 0 0
    (by
      intro p hp
      obtain rfl := List.mem_singleton.mp hp
      exact ⟨[⟨100, 0, seconds 10⟩, ⟨110, 0, seconds 20⟩], by decide +kernel, rfl, rfl⟩)
    (by decide +kernel) (by decide +kernel) (by decide +kernel) (by decide +kernel)

theorem walker_uniform (id : Nat) (h : ∃ p ∈ [(⟨7, 110, 0, 0⟩ : Point ℚ)], p.id = id ∧ p.group = 0) :
    Uniform walker.edsLost ⟨1, 0, 0⟩ (seconds 10) (seconds 20) id := by
  obtain ⟨p, hp, rfl, _⟩ := h
  obtain rfl := List.mem_singleton.mp hp
  exact ⟨100, 0, by decide +kernel⟩

def carrier : Config ℚ := ⟨1, 17, 30, 1 / 2, 10, 10, 3, 0, 100, true, [2]⟩

theorem exact_iff_walker :
    Exact ⟨1, 0, 0⟩ (seconds 20) (seconds 300) (tokenOf carrier (seconds 300) walkerInfo) ↔
      seconds 20 - seconds 10 = seconds 1 :=
  exact_iff rationalMath_sqrtPositive walker walkerInfo _ walker_summary ⟨1, 0, 0⟩ (seconds 10)
    (seconds 20) (.inl (by decide)) (by decide) (by decide) walker_uniform carrier (seconds 300)
    (by decide)

/-- Ten seconds between the receptions make the seed run ten times too fast. -/
theorem walker_outrun :
    ¬ ∀ (m : Monitor ℚ) (info : ClusterInfo ℚ) (g : Nat → Prop) (v : Vector3D ℚ) (t₁ t₂ now : Time),
      SummaryOf rationalMath m info g → (v.x ≠ 0 ∨ v.y ≠ 0) → 0 ≤ t₁ → t₁ < t₂ →
      (∀ id, g id → Uniform m.edsLost v t₁ t₂ id) → t₂ ≤ now →
      Exact v t₂ now (tokenOf carrier now info) := by
  intro h
  have hexact := h walker walkerInfo _ ⟨1, 0, 0⟩ (seconds 10) (seconds 20) (seconds 300) walker_summary
    (.inl (by decide)) (by decide) (by decide) walker_uniform (by decide)
  have hpos := (exact_iff_seedOf _ _ _ _).mp hexact (seconds 300) le_rfl (by decide)
  exact absurd hpos (by decide +kernel)

def march (y : ℚ) : List (EdsEntry ℚ) := [⟨100, y, seconds 10⟩, ⟨110, y, seconds 20⟩]

def marchers : Monitor ℚ :=
  { (EdsMonitor.empty : Monitor ℚ) with
    edsLost := ((((∅ : HistoryMap ℚ).insert 1 (march 0)).insert 2 (march 20)).insert 3 (march 40)).insert 4
      (march 60) }

theorem marchers_uniform (id : Nat) (h : id ∈ directionCluster rationalMath marchers 7) :
    Uniform marchers.edsLost ⟨1, 0, 0⟩ (seconds 10) (seconds 20) id := by
  have hid : id ∈ marchers.edsLost := ExtTreeMap.mem_of_mem_filter h
  have hcases : 4 = id ∨ 3 = id ∨ 2 = id ∨ 1 = id := by simpa [marchers] using hid
  rcases hcases with rfl | rfl | rfl | rfl
  · exact ⟨100, 60, by decide +kernel⟩
  · exact ⟨100, 40, by decide +kernel⟩
  · exact ⟨100, 20, by decide +kernel⟩
  · exact ⟨100, 0, by decide +kernel⟩

theorem marchers_outrun :
    ¬ ∀ (m : Monitor ℚ) (info : ClusterInfo ℚ) (i : Nat) (v : Vector3D ℚ) (t₁ t₂ now : Time),
      info ∈ getClusterInfo rationalMath m → directionInfo i (directionCluster rationalMath m i) = some info →
      (v.x ≠ 0 ∨ v.y ≠ 0) → 0 ≤ t₁ → t₁ < t₂ →
      (∀ id, id ∈ directionCluster rationalMath m i → Uniform m.edsLost v t₁ t₂ id) → t₂ ≤ now →
      Exact v t₂ now (tokenOf { carrier with predictionMode := 2 } now info) := by
  intro h
  have hexact := h marchers ⟨7, seconds 20, ⟨10, 0, 0⟩, ⟨110, 0, 0⟩, 0⟩ 7 ⟨1, 0, 0⟩ (seconds 10)
    (seconds 20) (seconds 300) (by decide +kernel) (by decide +kernel) (.inl (by decide)) (by decide)
    (by decide) marchers_uniform (by decide)
  have hpos := (exact_iff_seedOf _ _ _ _).mp hexact (seconds 300) le_rfl (by decide)
  exact absurd hpos (by decide +kernel)

end Tokens

end UavMonitoring.DeadReckoning
