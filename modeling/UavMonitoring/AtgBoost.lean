import UavMonitoring.Headings

namespace UavMonitoring.AtgBoost

open Std Basics EdsMonitor CounterLoop SpringForces Headings

variable {K : Type} [Field K] [LinearOrder K]

/-- What the factors `k` of the covered devices are: the greatest number of
UAVs above one device, over the number above the device. -/
structure Favours (w : World K) (neighbours : List Nat) (eds : EdsMap K) (k : Nat → K) : Prop where
  ratio : ∀ ed ∈ eds, ∃ top ∈ eds, (∀ ed' ∈ eds, covering w neighbours ed' ≤ covering w neighbours top) ∧
    k ed = ((covering w neighbours top : K) + 1) / ((covering w neighbours ed : K) + 1)
  bounds : ∀ ed ∈ eds, 1 ≤ k ed ∧ k ed ≤ neighbours.length + 1
  least : ∀ ed ∈ eds, k ed = 1 ↔ ∀ ed' ∈ eds, covering w neighbours ed' ≤ covering w neighbours ed
  order : ∀ ed ∈ eds, ∀ ed' ∈ eds, covering w neighbours ed < covering w neighbours ed' → k ed' < k ed

section Cardinality

variable {w : World K} {neighbours : List Nat}

omit [Field K] [LinearOrder K] in
theorem covering_le (ed : Nat) : covering w neighbours ed ≤ neighbours.length := List.countP_le_length

omit [Field K] [LinearOrder K] in
theorem toNat_count (h : neighbours.length < 65535) (ed : Nat) :
    (UInt16.ofNat (1 + covering w neighbours ed)).toNat = 1 + covering w neighbours ed := by
  have hle : covering w neighbours ed ≤ neighbours.length := covering_le ed
  rw [UInt16.toNat_ofNat', Nat.mod_eq_of_lt (by omega)]

theorem toNat_raise (maxCard : UInt32) (cnt : UInt16) :
    (if maxCard < cnt.toUInt32 then cnt.toUInt32 else maxCard).toNat = max maxCard.toNat cnt.toNat := by
  have hlt : maxCard < cnt.toUInt32 ↔ maxCard.toNat < cnt.toNat := by
    rw [UInt32.lt_iff_toNat_lt, UInt16.toNat_toUInt32]
  split
  · next h => rw [UInt16.toNat_toUInt32, max_eq_right (hlt.mp h).le]
  · next h => rw [max_eq_left (Nat.le_of_not_lt fun h' => h (hlt.mpr h'))]

omit [Field K] [LinearOrder K] in
theorem foldlM_maxCard (h : neighbours.length < 65535) (es : List (Nat × EdsEntry K)) (start : UInt32) :
    ∃ maxCard, es.foldlM (fun maxCard e => (countCovering w neighbours e.1).map fun cnt =>
        if maxCard < cnt.toUInt32 then cnt.toUInt32 else maxCard) start = some maxCard ∧
      start.toNat ≤ maxCard.toNat ∧ (∀ e ∈ es, 1 + covering w neighbours e.1 ≤ maxCard.toNat) ∧
      (maxCard.toNat = start.toNat ∨ ∃ e ∈ es, maxCard.toNat = 1 + covering w neighbours e.1) := by
  induction es generalizing start with
  | nil => exact ⟨start, rfl, Nat.le_refl _, by simp, .inl rfl⟩
  | cons e es ih =>
      have hcnt := toNat_count (w := w) h e.1
      rw [List.foldlM_cons, countCovering_of_short (by omega), Option.map_some]
      generalize UInt16.ofNat (1 + covering w neighbours e.1) = cnt at hcnt
      obtain ⟨maxCard, hrun, hstart, hupper, hsource⟩ :=
        ih (if start < cnt.toUInt32 then cnt.toUInt32 else start)
      rw [toNat_raise, hcnt] at hstart hsource
      refine ⟨maxCard, hrun, (Nat.le_max_left _ _).trans hstart, ?_, ?_⟩
      · exact List.forall_mem_cons.mpr ⟨(Nat.le_max_right _ _).trans hstart, hupper⟩
      · simp only [List.mem_cons, exists_eq_or_imp]
        rcases hsource with hs | hs
        · omega
        · exact .inr (.inr hs)

omit [Field K] [LinearOrder K] in
theorem mem_eds_iff {eds : EdsMap K} {ed : Nat} : ed ∈ eds ↔ ∃ e ∈ eds.toList, e.1 = ed := by
  rw [← ExtTreeMap.mem_keys, ← ExtTreeMap.map_fst_toList_eq_keys, List.mem_map]

omit [Field K] [LinearOrder K] in
theorem getMaxCardinality_spec (h : neighbours.length < 65535) (eds : EdsMap K) :
    ∃ maxCard, getMaxCardinality w neighbours eds = some maxCard ∧ 1 ≤ maxCard.toNat ∧
      ∀ ed ∈ eds, ∃ top ∈ eds, (∀ ed' ∈ eds, covering w neighbours ed' ≤ covering w neighbours top) ∧
        maxCard.toNat = 1 + covering w neighbours top := by
  obtain ⟨maxCard, hrun, hstart, hupper, hsource⟩ := foldlM_maxCard (w := w) h eds.toList 1
  have hle : ∀ ed ∈ eds, 1 + covering w neighbours ed ≤ maxCard.toNat := by
    intro ed hed
    obtain ⟨e, he, rfl⟩ := mem_eds_iff.mp hed
    exact hupper e he
  refine ⟨maxCard, hrun, hstart, fun ed hed => ?_⟩
  have htop : ∃ top ∈ eds, maxCard.toNat = 1 + covering w neighbours top := by
    rcases hsource with hone | ⟨e, he, hcard⟩
    · have hed' := hle ed hed
      rw [UInt32.toNat_one] at hone
      exact ⟨ed, hed, by omega⟩
    · exact ⟨e.1, mem_eds_iff.mpr ⟨e, he, rfl⟩, hcard⟩
  obtain ⟨top, htop, hcard⟩ := htop
  refine ⟨top, htop, fun ed' hed' => ?_, hcard⟩
  have hother := hle ed' hed'
  omega

end Cardinality

section Ratio

variable [IsStrictOrderedRing K]

def boost (top n : Nat) : K := ((top : K) + 1) / ((n : K) + 1)

theorem boost_lt_boost_iff {top m n : Nat} : (boost top n : K) < boost top m ↔ m < n := by
  rw [boost, boost, div_lt_div_iff_of_pos_left (by positivity) (by positivity) (by positivity),
    add_lt_add_iff_right, Nat.cast_lt]

theorem one_le_boost_iff {top n : Nat} : 1 ≤ (boost top n : K) ↔ n ≤ top := by
  rw [boost, one_le_div (by positivity), add_le_add_iff_right, Nat.cast_le]

theorem boost_eq_one_iff {top n : Nat} : (boost top n : K) = 1 ↔ n = top := by
  rw [boost, div_eq_one_iff_eq (by positivity), add_left_inj, Nat.cast_inj, eq_comm]

theorem boost_le (top n : Nat) : (boost top n : K) ≤ top + 1 :=
  div_le_self (by positivity) (by simp)

end Ratio

section Factor

variable [IsStrictOrderedRing K] {w : World K} {neighbours : List Nat} {eds : EdsMap K}

theorem favours_boost {top : Nat} (htop : ∀ ed ∈ eds, covering w neighbours ed ≤ top)
    (hreached : ∀ ed ∈ eds, ∃ ed' ∈ eds, top = covering w neighbours ed') :
    Favours w neighbours eds fun ed => boost top (covering w neighbours ed) where
  ratio ed hed := by
    obtain ⟨ed', hed', rfl⟩ := hreached ed hed
    exact ⟨ed', hed', htop, rfl⟩
  bounds ed hed := by
    obtain ⟨ed', _, rfl⟩ := hreached ed hed
    have hle : (covering w neighbours ed' : K) ≤ neighbours.length := Nat.cast_le.mpr (covering_le _)
    exact ⟨one_le_boost_iff.mpr (htop ed hed), (boost_le _ _).trans (add_le_add_left hle 1)⟩
  least ed hed := by
    obtain ⟨ed', hed', hed''⟩ := hreached ed hed
    rw [boost_eq_one_iff]
    constructor
    · rintro he
      exact he ▸ htop
    · intro hmost
      exact (htop ed hed).antisymm (hed'' ▸ hmost ed' hed')
  order ed _ ed' _ hlt := boost_lt_boost_iff.mpr hlt

/-- With the boost on, `ComputeAtgForce` weighs the pull of every device with a
factor that favours those under few UAVs. -/
theorem computeAtgForce_favours (c : CMath K) {cfg : Config K} (w : World K) {neighbours : List Nat}
    (eds : EdsMap K) (hmode : cfg.kAtgPlusMode = true) (hlen : neighbours.length < 65535) :
    ∃ (maxCard : UInt32) (k : Nat → K), getMaxCardinality w neighbours eds = some maxCard ∧
      (∀ ed, kAtgPlus cfg w neighbours maxCard ed = some (some (k ed))) ∧
      computeAtgForce c cfg w neighbours eds = some (eds.toList.foldl (fun f e => addForce f
        (pull c (k e.1 * (cfg.lbReqAtg - w.atgLinkBudget ⟨e.2.x, e.2.y, 0⟩)) (groundDiff w e)))
        (some 0)) ∧
      Favours w neighbours eds k := by
  have hshort : neighbours.length < 2 ^ 16 := by omega
  obtain ⟨maxCard, hmax, hpos, hspec⟩ := getMaxCardinality_spec (w := w) hlen eds
  have hcount (ed : Nat) : divDouble (maxCard.toNat : K)
      ((UInt16.ofNat (1 + covering w neighbours ed)).toNat : K) =
        some (boost (maxCard.toNat - 1) (covering w neighbours ed)) := by
    have hne : ((1 + covering w neighbours ed : Nat) : K) ≠ 0 := Nat.cast_ne_zero.mpr (by omega)
    rw [toNat_count hlen, divDouble, if_neg hne, boost, ← Nat.cast_add_one, ← Nat.cast_add_one,
      Nat.sub_add_cancel hpos, Nat.add_comm 1]
  refine ⟨maxCard, fun ed => boost (maxCard.toNat - 1) (covering w neighbours ed), hmax, ?_, ?_, ?_⟩
  · intro ed
    rw [kAtgPlus, if_pos hmode, countCovering_of_short hshort, Option.map_some, hcount]
  · rw [computeAtgForce_eq hshort hmax]
    simp only [atgPull, factor, if_pos hmode, hcount, Option.bind_some]
  · apply favours_boost
    · intro ed hed
      obtain ⟨top, _, hle, hcard⟩ := hspec ed hed
      have := hle ed hed
      omega
    · intro ed hed
      obtain ⟨top, htop, _, hcard⟩ := hspec ed hed
      exact ⟨top, htop, by omega⟩

def sharedWorld : World ℚ where
  position := ⟨0, 0, 10⟩
  entries := []
  address j := j
  positionOf _ := ⟨100, 0, 10⟩
  coverage j := if j = 2 then ((∅ : EdsMap ℚ).insert 5 ⟨30, 40, 0⟩).insert 6 ⟨60, 80, 0⟩
    else (∅ : EdsMap ℚ).insert 5 ⟨30, 40, 0⟩
  ataLinkBudget _ := 20
  atgLinkBudget _ := 20
  clustering := ⟨fun _ _ => none, fun _ _ => none, fun _ => 0⟩
  junkRatio := 0
  junkPause := 0
  junkEntry := ⟨0, 0, 0⟩
  junkToken := ⟨0, 0, 0, 0, 0, 0⟩

def boostConfig : Config ℚ := ⟨1, 17, 30, 1 / 2, 10, 10, 0, 0, 0, true, [2, 3]⟩

theorem computeAtgForce_favours_shared :
    ∃ (maxCard : UInt32) (k : Nat → ℚ),
      getMaxCardinality sharedWorld [2, 3] (sharedWorld.coverage 2) = some maxCard ∧
      (∀ ed, kAtgPlus boostConfig sharedWorld [2, 3] maxCard ed = some (some (k ed))) ∧
      computeAtgForce rationalMath boostConfig sharedWorld [2, 3] (sharedWorld.coverage 2) =
        some ((sharedWorld.coverage 2).toList.foldl (fun f e => addForce f (pull rationalMath
          (k e.1 * (boostConfig.lbReqAtg - sharedWorld.atgLinkBudget ⟨e.2.x, e.2.y, 0⟩))
          (groundDiff sharedWorld e))) (some 0)) ∧
      Favours sharedWorld [2, 3] (sharedWorld.coverage 2) k :=
  computeAtgForce_favours rationalMath sharedWorld _ rfl (by decide)

end Factor

end UavMonitoring.AtgBoost
