import UavMonitoring.BestScan
import UavMonitoring.ControlRuns

namespace UavMonitoring.RangeApprox

open Basics BestScan CounterLoop Runs SeedsManager SpringForces VirtualSprings ControlSteps ControlRuns

variable {K : Type} [Field K] [LinearOrder K] [IsStrictOrderedRing K] [FloorRing K] {c : CMath K}
  (cfg : Config K) (junk : Token K)

def ground (p : Vector3D K) : Vector3D K := ⟨p.x, p.y, 0⟩

omit [FloorRing K] in
theorem calculateDistance_nonneg (hc : c.SqrtPositive) (a b : Vector3D K) :
    0 ≤ calculateDistance c a b := (hc _ (squares_nonneg _)).1

omit [FloorRing K] in
theorem calculateDistance_pos_iff (hc : c.SqrtPositive) (a b : Vector3D K) :
    0 < calculateDistance c a b ↔ a ≠ b := by
  rw [(calculateDistance_nonneg hc a b).lt_iff_ne', ne_eq, ne_eq, calculateDistance,
    getLength_eq_zero_iff hc]
  obtain ⟨x, y, z⟩ := a
  obtain ⟨x', y', z'⟩ := b
  simp [sub_eq_zero, eq_comm]

omit [FloorRing K] in
theorem furthest_pos_iff (hc : c.SqrtPositive) {w : World K} {neighbours : List Nat} {dist : K}
    (h : getDistanceFromFurthestNeighbour c w neighbours = some dist) :
    0 < dist ↔ ∃ j ∈ neighbours, w.position ≠ ground (w.positionOf j) := by
  obtain ⟨_, rfl⟩ := (accumulate_eq_some_iff 16 neighbours _ _ dist).mp h
  refine (lt_foldl_max_iff (fun j => calculateDistance c w.position (ground (w.positionOf j)))
    neighbours 0 0).trans ?_
  simp only [lt_irrefl, false_or, calculateDistance_pos_iff hc]

section Divisor

/-- The divisor of `rangeRatio` is positive, and a finite number is converted. -/
def RangeKnown (c : CMath K) (cfg : Config K) (t : ControlStep K) : Prop :=
  ∀ w entry, t.event.2 = .doInitializePrivate w → hasPathToBs cfg w = some entry →
    entry.distance ≠ 0 → 0 < t.post.rangeApprox ∧ ∃ rangeRatio, 0 ≤ rangeRatio ∧
      divDouble (getDistanceFromBs c cfg w) t.post.rangeApprox = some rangeRatio ∧
      t.post.persist = (entry.distance - 1) * toUint32 w.junkRatio (some rangeRatio)

def SeesNeighbour (t : ControlStep K) : Prop :=
  ∃ w neighbours allNeighbours, t.event.2 = .doInitializePrivate w ∧
    setNeighboursList cfg w = some (neighbours, allNeighbours) ∧
    ∃ j ∈ neighbours, w.position ≠ ground (w.positionOf j)

theorem range_step (hc : c.SqrtPositive) {u u' : Uav K} {e : Time × Event K} {calls : List (Call K)}
    (h : step c cfg u e = some (u', calls)) :
    0 < u'.rangeApprox ↔ 0 < u.rangeApprox ∨
      (Reconnects cfg ⟨u, e, u', calls⟩ ∧ SeesNeighbour cfg ⟨u, e, u', calls⟩) := by
  rcases step_budget h with ⟨w, hw, hbudget⟩ | ⟨hno, hrange, _⟩
  · cases hbudget with
    | connected entry path near neighbours allNeighbours list dist furthest range _ _ =>
        have hreset : Reconnects cfg ⟨u, e, u', calls⟩ := ⟨w, entry, hw, path, near⟩
        rw [range, lt_max_iff, furthest_pos_iff hc furthest]
        apply or_congr_right
        constructor
        · exact fun hfar => ⟨hreset, w, neighbours, allNeighbours, hw, list, hfar⟩
        · rintro ⟨_, w', neighbours', allNeighbours', hw', list', hfar⟩
          obtain rfl : w = w' := by simpa [hw] using hw'
          rw [list, Option.some.injEq, Prod.mk.injEq] at list'
          rwa [list'.1]
    | gaveUp entry path far _ range _ | persisted entry path far _ range _ =>
        rw [range, iff_self_or]
        rintro ⟨⟨w', entry', hw', path', near⟩, _⟩
        obtain rfl : w = w' := by simpa [hw] using hw'
        obtain rfl : entry = entry' := by simpa [path] using path'
        exact absurd far near
  · rw [hrange, iff_self_or]
    rintro ⟨⟨w, _, hw, _⟩, _⟩
    exact absurd hw (hno w)

theorem range_run (hc : c.SqrtPositive) {es : List (Time × Event K)} {past rest : List (ControlStep K)}
    {t : ControlStep K} (h : run c cfg junk es = past ++ t :: rest) :
    0 < t.pre.rangeApprox ↔ ∃ t' ∈ past, Reconnects cfg t' ∧ SeesNeighbour cfg t' := by
  refine history_invariant
    (fun past u => 0 < u.rangeApprox ↔ ∃ t' ∈ past, Reconnects cfg t' ∧ SeesNeighbour cfg t')
    (fun past u e u' calls ih hstep => ?_) (by simp [doInitialize]) h
  rw [range_step cfg hc hstep, ih]
  simp only [List.mem_append, List.mem_singleton, or_and_right, exists_or, exists_eq_left]

theorem rangeKnown_iff (hc : c.SqrtPositive) {t : ControlStep K}
    (h : step c cfg t.pre t.event = some (t.post, t.out)) :
    RangeKnown c cfg t ↔ (Reconnects cfg t → 0 < t.post.rangeApprox) := by
  constructor
  · rintro hknown ⟨w, entry, hw, path, near⟩
    exact (hknown w entry hw path near).1
  · intro hpos w entry hw path near
    have hpos : 0 < t.post.rangeApprox := hpos ⟨w, entry, hw, path, near⟩
    have hratio : divDouble (getDistanceFromBs c cfg w) t.post.rangeApprox =
        some (getDistanceFromBs c cfg w / t.post.rangeApprox) := if_neg hpos.ne'
    have hnonneg : 0 ≤ getDistanceFromBs c cfg w := calculateDistance_nonneg hc _ _
    refine ⟨hpos, _, div_nonneg hnonneg hpos.le, hratio, ?_⟩
    rcases step_budget h with ⟨w', hw', hbudget⟩ | ⟨hno, _⟩
    · obtain rfl : w = w' := by simpa [hw] using hw'
      cases hbudget with
      | connected entry' path' _ _ _ _ _ _ _ counter _ =>
          obtain rfl : entry = entry' := by simpa [path] using path'
          rw [counter, hratio]
      | gaveUp entry' path' far _ _ _ | persisted entry' path' far _ _ _ =>
          obtain rfl : entry = entry' := by simpa [path] using path'
          exact absurd far near
    · exact absurd hw (hno w)

/-- The divisor is positive in every connected step exactly when the first of
them sees a neighbour elsewhere; the maximum lasts from then on. -/
theorem range_known_iff (hc : c.SqrtPositive) (es : List (Time × Event K)) :
    (∀ t ∈ run c cfg junk es, RangeKnown c cfg t) ↔
    ∀ past t rest, run c cfg junk es = past ++ t :: rest → Reconnects cfg t →
      (∀ t' ∈ past, ¬ Reconnects cfg t') → SeesNeighbour cfg t := by
  constructor
  · intro h past t rest hrun hreset hfirst
    have hmem : t ∈ run c cfg junk es := by simp [hrun]
    have hpos := (rangeKnown_iff cfg hc (step_of_mem hmem)).mp (h t hmem) hreset
    rw [range_step cfg hc (step_of_mem hmem), range_run cfg junk hc hrun] at hpos
    rcases hpos with ⟨t', ht', hreset', _⟩ | ⟨_, hsees⟩
    · exact absurd hreset' (hfirst t' ht')
    · exact hsees
  · intro h t hmem
    rw [rangeKnown_iff cfg hc (step_of_mem hmem)]
    intro hreset
    obtain ⟨past, rest, hrun⟩ := List.append_of_mem hmem
    rw [range_step cfg hc (step_of_mem hmem), range_run cfg junk hc hrun]
    obtain ⟨before, t₁, after, hsplit, hreset₁, hbefore⟩ :=
      exists_first (List.mem_append_right past (List.mem_singleton_self t)) hreset
    have hrun₁ : run c cfg junk es = before ++ t₁ :: (after ++ rest) := by
      rw [hrun, ← List.singleton_append, ← List.append_assoc, hsplit]
      simp
    have hsees : SeesNeighbour cfg t₁ := h before t₁ _ hrun₁ hreset₁ hbefore
    have hmem₁ : t₁ ∈ past ++ [t] := by simp [hsplit]
    rcases List.mem_append.mp hmem₁ with hpast | hlast
    · exact .inl ⟨t₁, hpast, hreset₁, hsees⟩
    · obtain rfl := List.mem_singleton.mp hlast
      exact .inr ⟨hreset₁, hsees⟩

theorem range_known_iff_relayed :
    (∀ t ∈ run rationalMath (config 1 0) noToken [control 0 toBs],
      RangeKnown rationalMath (config 1 0) t) ↔
    ∀ past t rest, run rationalMath (config 1 0) noToken [control 0 toBs] = past ++ t :: rest →
      Reconnects (config 1 0) t → (∀ t' ∈ past, ¬ Reconnects (config 1 0) t') →
      SeesNeighbour (config 1 0) t :=
  range_known_iff (config 1 0) noToken rationalMath_sqrtPositive [control 0 toBs]

def direct : List RoutingTableEntry := [⟨100, 1⟩]

theorem range_unknown :
    ¬ ∀ t ∈ run rationalMath (config 1 0) noToken [control 0 direct],
      RangeKnown rationalMath (config 1 0) t := by
  intro h
  obtain ⟨t, ht⟩ : ∃ t, (run rationalMath (config 1 0) noToken [control 0 direct])[0]? = some t :=
    Option.isSome_iff_exists.mp (by decide +kernel)
  have hevent : some (control 0 direct) = some t.event := event_of_getElem? ht
  have hzero : ((run rationalMath (config 1 0) noToken [control 0 direct])[0]?.map fun t =>
      decide (t.post.rangeApprox = 0)) = some true := by decide +kernel
  simp only [ht, Option.map_some, Option.some.injEq, decide_eq_true_eq] at hzero hevent
  obtain ⟨hpos, _⟩ := h t (List.mem_of_getElem? ht) (world direct) ⟨100, 1⟩
    (congrArg Prod.snd hevent.symm) rfl (by decide)
  exact hpos.ne' hzero

end Divisor

section Pause

/-- A step that sets the pause does so far enough from the base station: the
quotient stays below 31, or the conversion of one out of range leaves no more than 30. -/
def PauseFits (c : CMath K) (cfg : Config K) (u : Uav K) (e : Time × Event K) : Prop :=
  ∀ w, e.2 = .doInitializePrivate w → NoPath cfg w → u.persist = 0 → u.hops ≠ 0 →
    if 30 * u.rangeApprox < 2 ^ 32 * getDistanceFromBs c cfg w then
      30 * u.rangeApprox < 31 * getDistanceFromBs c cfg w
    else w.junkPause ≤ 30

omit [IsStrictOrderedRing K] in
theorem ofNat_floor_le_iff {d : K} (hd : d < 2 ^ 32) :
    UInt32.ofNat ⌊d⌋.toNat ≤ 30 ↔ d < 31 := by
  have hfloor : ⌊d⌋ < 2 ^ 32 := Int.floor_lt.mpr (by exact_mod_cast hd)
  have hsmall : ⌊d⌋.toNat < 2 ^ 32 := by omega
  have h30 : (30 : UInt32).toNat = 30 := rfl
  have hle : ⌊d⌋.toNat ≤ 30 ↔ ⌊d⌋ < 31 := by omega
  have hcast : ⌊d⌋ < 31 ↔ d < 31 := by
    rw [Int.floor_lt]
    norm_num
  rw [UInt32.le_iff_toNat_le, UInt32.toNat_ofNat_of_lt' hsmall, h30, hle, hcast]

theorem toUint32_div_le_iff (hc : c.SqrtPositive) (w : World K) {u : Uav K} (hu : 0 ≤ u.rangeApprox) :
    toUint32 w.junkPause (divDouble (30 * u.rangeApprox) (getDistanceFromBs c cfg w)) ≤ 30 ↔
      if 30 * u.rangeApprox < 2 ^ 32 * getDistanceFromBs c cfg w then
        30 * u.rangeApprox < 31 * getDistanceFromBs c cfg w
      else w.junkPause ≤ 30 := by
  have hdist : 0 ≤ getDistanceFromBs c cfg w := calculateDistance_nonneg hc _ _
  have hrange : 0 ≤ 30 * u.rangeApprox := by positivity
  rcases hdist.eq_or_lt with hzero | hpos
  · rw [divDouble, if_pos hzero.symm, toUint32, ← hzero, mul_zero, if_neg hrange.not_gt]
  · have hquot : -1 < 30 * u.rangeApprox / getDistanceFromBs c cfg w :=
      (by linarith : (-1 : K) < 0).trans_le (div_nonneg hrange hpos.le)
    rw [divDouble, if_neg hpos.ne', toUint32]
    simp only [hquot, true_and, div_lt_iff₀ hpos]
    split
    · next hlt => rw [ofNat_floor_le_iff ((div_lt_iff₀ hpos).mpr hlt), div_lt_iff₀ hpos]
    · rfl

theorem setPause_le_iff (hc : c.SqrtPositive) (w : World K) {u : Uav K} (hu : 0 ≤ u.rangeApprox) :
    setPause c cfg w u ≤ 30 ↔ (u.hops ≠ 0 →
      if 30 * u.rangeApprox < 2 ^ 32 * getDistanceFromBs c cfg w then
        30 * u.rangeApprox < 31 * getDistanceFromBs c cfg w
      else w.junkPause ≤ 30) := by
  by_cases hops : u.hops = 0
  · simp [setPause, hops]
  · rw [setPause, if_pos (UInt32.pos_iff_ne_zero.mpr hops), toUint32_div_le_iff cfg hc w hu]
    simp [hops]

theorem pred_le {p n : UInt32} (hpos : 0 < p) (h : p ≤ n) : p - 1 ≤ n := by
  have hone : 1 ≤ p := UInt32.le_iff_toNat_le.mpr (UInt32.lt_iff_toNat_lt.mp hpos)
  rw [UInt32.le_iff_toNat_le] at h ⊢
  rw [UInt32.toNat_sub_of_le _ _ hone]
  omega

theorem pause_step_iff (hc : c.SqrtPositive) {u u' : Uav K} {e : Time × Event K}
    {calls : List (Call K)} (hu : 0 ≤ u.rangeApprox) (h : step c cfg u e = some (u', calls))
    (hpause : u.pause ≤ 30) : u'.pause ≤ 30 ↔ PauseFits c cfg u e := by
  rcases step_budget h with ⟨w, hw, hbudget⟩ | ⟨hno, _, hkeep⟩
  · cases hbudget with
    | connected entry path near _ _ _ _ _ _ _ pause =>
        refine iff_of_true ?_ ?_
        · rcases pause with hzero | ⟨hpos, hless⟩
          · simp [hzero]
          · rw [hless]
            exact pred_le hpos hpause
        · rintro w' hw' ⟨entry', path', far⟩
          obtain rfl : w = w' := by simpa [hw] using hw'
          obtain rfl : entry = entry' := by simpa [path] using path'
          exact absurd far near
    | gaveUp entry path far spent _ pause =>
        rw [pause, setPause_le_iff cfg hc w hu]
        constructor
        · intro hfits w' hw' _ _ hops
          obtain rfl : w = w' := by simpa [hw] using hw'
          exact hfits hops
        · exact fun hfits hops => hfits w hw ⟨entry, path, far⟩ spent hops
    | persisted entry path far going _ pause =>
        refine iff_of_true (pause ▸ hpause) ?_
        exact fun _ _ _ spent => absurd spent going
  · refine iff_of_true (hkeep ▸ hpause) ?_
    exact fun w hw => absurd hw (hno w)

omit [IsStrictOrderedRing K] in
theorem range_nonneg_step {u u' : Uav K} {e : Time × Event K} {calls : List (Call K)}
    (hu : 0 ≤ u.rangeApprox) (h : step c cfg u e = some (u', calls)) : 0 ≤ u'.rangeApprox := by
  rcases step_budget h with ⟨w, _, hbudget⟩ | ⟨_, hrange, _⟩
  · cases hbudget with
    | connected _ _ _ _ _ _ _ _ range => exact range ▸ hu.trans (le_max_left _ _)
    | gaveUp _ _ _ _ range | persisted _ _ _ _ range => exact range ▸ hu
  · exact hrange ▸ hu

/-- The pause stays within its maximum in all states of a run exactly when
every step that goes back is far enough from the base station for it. -/
theorem pause_le_max_iff (hc : c.SqrtPositive) (es : List (Time × Event K)) :
    (∀ u ∈ states (step c cfg) (doInitialize junk) es, u.pause ≤ 30) ↔
      ∀ t ∈ run c cfg junk es, PauseFits c cfg t.pre t.event := by
  refine states_step_iff (step c cfg) (fun u _ => 0 ≤ u.rangeApprox) (fun u => u.pause ≤ 30)
    (PauseFits c cfg) ?_ ?_ es le_rfl (by simp [doInitialize])
  · exact fun u e u' calls es hu h => range_nonneg_step cfg hu h
  · exact fun u e u' calls es hu h hpause => pause_step_iff cfg hc hu h hpause

def wayBack : List (Time × Event ℚ) :=
  [control 0 [⟨102, 1⟩, ⟨100, 1⟩],
    (seconds 1, .doInitializePrivate { world [] with position := ⟨50, 0, 0⟩ })]

theorem pause_le_max_iff_wayBack :
    (∀ u ∈ states (step rationalMath (config 1 0)) (doInitialize noToken) wayBack, u.pause ≤ 30) ↔
      ∀ t ∈ run rationalMath (config 1 0) noToken wayBack,
        PauseFits rationalMath (config 1 0) t.pre t.event :=
  pause_le_max_iff (config 1 0) noToken rationalMath_sqrtPositive wayBack

theorem pause_exceeds_max :
    ¬ ∀ u ∈ states (step rationalMath (config 1 0)) (doInitialize noToken) wayBack, u.pause ≤ 30 := by
  intro h
  have hsixty : (states (step rationalMath (config 1 0)) (doInitialize noToken) wayBack).any
      (fun u => decide (u.pause = 60)) = true := by decide +kernel
  obtain ⟨u, hu, hpause⟩ := List.any_eq_true.mp hsixty
  rw [decide_eq_true_eq] at hpause
  exact absurd (hpause ▸ h u hu) (by decide)

end Pause

end UavMonitoring.RangeApprox
