import Mathlib.Algebra.BigOperators.Ring.List
import UavMonitoring.KMeans
import UavMonitoring.Silhouette

namespace UavMonitoring.AverageSilhoutte

open Basics Clusters CounterLoop Silhouette

variable {K : Type} [Field K] [LinearOrder K]

def positionOf (p : Point K) : Vector3D K := ⟨p.x, p.y, 0⟩

section Program

variable (dist : Vector3D K → Vector3D K → K)

def ownStep (p : Point K × Nat) (s : Nat × K) (q : Point K × Nat) : Nat × K :=
  if p.2 ≠ q.2 ∧ p.1.group = q.1.group then
    (s.1 + 1, s.2 + dist (positionOf q.1) (positionOf p.1))
  else s

def aI (pt : List (Point K)) (p : Point K × Nat) : Option K :=
  (accumulate 16 pt.zipIdx (ownStep dist p) (0, 0)).map fun s => if 0 < s.1 then s.2 / s.1 else s.2

/-- The first pass fills `clusterPts` and `aI`. Here and below there is no
result when an index leaves one of the arrays over the groups. -/
def firstPass (pt : List (Point K)) (k : Nat) : Option ((Nat → Nat) × List K) :=
  forEach 16 pt.zipIdx (fun s p =>
    if p.1.group < k then
      (aI dist pt p).map fun a =>
        (Function.update s.1 p.1.group (s.1 p.1.group + 1), s.2 ++ [a])
    else none) (fun _ => 0, [])

def otherStep (clusterPts : Nat → Nat) (k : Nat) (p : Point K × Nat) (row : Nat → K)
    (q : Point K × Nat) : Option (Nat → K) :=
  let g := q.1.group
  if p.2 ≠ q.2 ∧ p.1.group ≠ g then
    if g < k then
      some (Function.update row g
        (row g + dist (positionOf q.1) (positionOf p.1) / clusterPts g))
    else none
  else some row

def bI (pt : List (Point K)) (clusterPts : Nat → Nat) (k : Nat) : Option (List (Nat → K)) :=
  forEach 16 pt.zipIdx (fun rows p =>
    (forEach 16 pt.zipIdx (otherStep dist clusterPts k p) fun _ => 0).map fun row =>
      rows ++ [row]) []

def closer (min cur : K) : K := if cur ≠ 0 ∧ cur < min then cur else min

def bIFinal (k : Nat) (row : Nat → K) : K :=
  ((List.range k).map row).foldl closer 1000000000

/-- Four tests in a row, of which the last that holds decides. -/
def sI (a b : K) : K :=
  if a = 0 then 0 else if a = b then 0 else if b < a then a / b - 1 else 1 - a / b

def silhouttes (pt : List (Point K)) (k : Nat) : Option (List K) := do
  let (clusterPts, as) ← firstPass dist pt k
  let rows ← bI dist pt clusterPts k
  some (List.zipWith sI as (rows.map (bIFinal k)))

def computeAverageSilhoutte (pt : List (Point K)) (k : Nat) : Option K :=
  (silhouttes dist pt k).map fun ss => ss.foldl (fun avgS s => avgS + s) 0 / pt.length

end Program

section Spec

variable (dist : Vector3D K → Vector3D K → K)

def between (q p : Point K) : K := dist (positionOf q) (positionOf p)

def ownMean (pt : List (Point K)) (p : Point K × Nat) : K :=
  own (between dist) Point.group pt p

def nearestMean (pt : List (Point K)) (k : Nat) (p : Point K × Nat) : K :=
  nearestOther (between dist) Point.group pt (List.range k) p.1

def meanSilhouette (pt : List (Point K)) (k : Nat) : K :=
  averageScore (between dist) Point.group pt (List.range k)

/-- The value is the mean silhouette; a point nearer to another group than to
its own takes from it. -/
structure IsMeanSilhouette (pt : List (Point K)) (k : Nat) : Prop where
  value : computeAverageSilhoutte dist pt k = some (meanSilhouette dist pt k)
  bounded : ∀ v, computeAverageSilhoutte dist pt k = some v → -1 ≤ v ∧ v ≤ 1
  lowers : ∀ ss, silhouttes dist pt k = some ss → ∀ p ∈ pt.zipIdx,
    nearestMean dist pt k p < ownMean dist pt p → ∀ s, ss[p.2]? = some s → s < 0

/-- What the code falls short of the silhouette of a point not nearer to
another group: it takes no account of a mean distance of zero to the own group,
nor of one above `1e9` to the others. -/
def gap (a b : K) : K :=
  if a = 0 then if b = 0 then 0 else 1
  else if b ≤ 1000000000 then 0
  else if a ≤ 1000000000 then a / 1000000000 - a / b
  else 2 - a / b - a / 1000000000

def shortfall (pt : List (Point K)) (k : Nat) (p : Point K × Nat) : K :=
  if ownDistances (between dist) Point.group pt p = [] then 0
  else gap (ownMean dist pt p) (nearestMean dist pt k p)

end Spec

section Passes

variable {dist : Vector3D K → Vector3D K → K} {pt : List (Point K)} {k : Nat}

omit [LinearOrder K] in
theorem foldl_count_sum (ds : List K) (s : Nat × K) :
    ds.foldl (fun s d => (s.1 + 1, s.2 + d)) s = (s.1 + ds.length, s.2 + ds.sum) := by
  induction ds generalizing s with
  | nil => simp
  | cons d ds ih =>
      rw [List.foldl_cons, ih, List.length_cons, List.sum_cons, Nat.add_right_comm, Nat.add_assoc,
        add_assoc]

omit [LinearOrder K] in
theorem foldl_ownStep (p : Point K × Nat) (s : Nat × K) :
    pt.zipIdx.foldl (ownStep dist p) s =
      (ownDistances (between dist) Point.group pt p).foldl (fun s d => (s.1 + 1, s.2 + d)) s := by
  rw [ownDistances, List.foldl_map, List.foldl_filter]
  simp only [decide_eq_true_eq]
  rfl

omit [LinearOrder K] in
theorem aI_eq (hlen : pt.length < 2 ^ 16) (p : Point K × Nat) :
    aI dist pt p = some (ownMean dist pt p) := by
  have hlen' : pt.zipIdx.length < 2 ^ 16 := by simpa using hlen
  rw [aI, accumulate_of_short hlen', foldl_ownStep, foldl_count_sum, Option.map_some, ownMean, own,
    mean]
  cases ownDistances (between dist) Point.group pt p with
  | nil => simp
  | cons d ds => simp

omit [LinearOrder K] in
theorem foldlM_firstPass (hlen : pt.length < 2 ^ 16) (ps : List (Point K × Nat))
    (hps : ∀ p ∈ ps, p.1.group < k) (cnt : Nat → Nat) (as : List K) :
    ps.foldlM (fun s p =>
      if p.1.group < k then
        (aI dist pt p).map fun a =>
          (Function.update s.1 p.1.group (s.1 p.1.group + 1), s.2 ++ [a])
      else none) (cnt, as) =
    some (fun g => cnt g + ps.countP fun p => decide (p.1.group = g),
      as ++ ps.map (ownMean dist pt)) := by
  induction ps generalizing cnt as with
  | nil => simp
  | cons p ps ih =>
      obtain ⟨hp, hps⟩ := List.forall_mem_cons.mp hps
      rw [List.foldlM_cons, if_pos hp, aI_eq hlen, Option.map_some, Option.bind_eq_bind,
        Option.bind_some, ih hps, Option.some.injEq, Prod.mk.injEq]
      constructor
      · funext g
        by_cases hg : p.1.group = g
        · subst hg
          rw [List.countP_cons_of_pos (by simp), Function.update_self, Nat.add_right_comm]
          rfl
        · rw [List.countP_cons_of_neg (by simpa using hg), Function.update_of_ne (Ne.symm hg)]
      · simp

omit [Field K] [LinearOrder K] in
theorem countP_zipIdx (pt : List (Point K)) (g : Nat) :
    (pt.zipIdx.countP fun p => decide (p.1.group = g)) = pt.countP fun p => decide (p.group = g) := by
  conv_rhs => rw [← List.zipIdx_map_fst 0 pt, List.countP_map]
  rfl

omit [LinearOrder K] in
theorem firstPass_eq (hlen : pt.length < 2 ^ 16) (hlabel : ∀ p ∈ pt, p.group < k) :
    firstPass dist pt k = some (fun g => pt.countP fun p => decide (p.group = g),
      pt.zipIdx.map (ownMean dist pt)) := by
  have hlen' : pt.zipIdx.length < 2 ^ 16 := by simpa using hlen
  have hlabel' : ∀ p ∈ pt.zipIdx, p.1.group < k :=
    fun p hp => hlabel p.1 (List.fst_mem_of_mem_zipIdx hp)
  rw [firstPass, forEach_of_short hlen', foldlM_firstPass hlen _ hlabel']
  simp only [countP_zipIdx, Nat.zero_add, List.nil_append]

def filled (dist : Vector3D K → Vector3D K → K) (cnt : Nat → Nat) (p : Point K × Nat)
    (qs : List (Point K × Nat)) (g : Nat) : K :=
  if g = p.1.group then 0
  else ((qs.filter fun q => decide (q.1.group = g)).map fun q => between dist q.1 p.1 / cnt g).sum

omit [LinearOrder K] in
theorem foldlM_otherStep (cnt : Nat → Nat) (p : Point K × Nat) (qs : List (Point K × Nat))
    (hqs : ∀ q ∈ qs, q.1.group < k) (hp : ∀ q ∈ qs, p.2 = q.2 → p.1.group = q.1.group)
    (row : Nat → K) : qs.foldlM (otherStep dist cnt k p) row =
      some fun g => row g + filled dist cnt p qs g := by
  induction qs generalizing row with
  | nil => simp [filled]
  | cons q qs ih =>
      obtain ⟨hq, hqs⟩ := List.forall_mem_cons.mp hqs
      obtain ⟨hpq, hp⟩ := List.forall_mem_cons.mp hp
      by_cases hg : p.1.group = q.1.group
      · have hstep : otherStep dist cnt k p row q = some row := by simp [otherStep, hg]
        rw [List.foldlM_cons, hstep, Option.bind_eq_bind, Option.bind_some, ih hqs hp]
        congr 1
        funext g
        by_cases hgp : g = p.1.group
        · simp [filled, hgp]
        · have hne : q.1.group ≠ g := fun h => hgp (by rw [hg, h])
          rw [filled, filled, List.filter_cons_of_neg (by simpa using hne)]
      · have hstep : otherStep dist cnt k p row q = some (Function.update row q.1.group
            (row q.1.group + between dist q.1 p.1 / cnt q.1.group)) := by
          simp only [otherStep, ne_eq, hg, not_false_eq_true, and_true, hq, if_true, between]
          exact if_pos fun h => hg (hpq h)
        rw [List.foldlM_cons, hstep, Option.bind_eq_bind, Option.bind_some, ih hqs hp]
        congr 1
        funext g
        by_cases hgq : q.1.group = g
        · subst hgq
          rw [Function.update_self, filled, filled, if_neg (Ne.symm hg), if_neg (Ne.symm hg),
            List.filter_cons_of_pos (by simp), List.map_cons, List.sum_cons, add_assoc]
        · rw [Function.update_of_ne (Ne.symm hgq), filled, filled,
            List.filter_cons_of_neg (by simpa using hgq)]

def row (dist : Vector3D K → Vector3D K → K) (pt : List (Point K)) (p : Point K × Nat) (g : Nat) : K :=
  if g = p.1.group then 0 else mean (distancesTo (between dist) Point.group pt p.1 g)

omit [LinearOrder K] in
theorem filled_zipIdx (p : Point K × Nat) (g : Nat) :
    filled dist (fun g => pt.countP fun q => decide (q.group = g)) p pt.zipIdx g = row dist pt p g := by
  have hfst : (pt.zipIdx.filter fun q => decide (q.1.group = g)).map Prod.fst =
      pt.filter fun q => decide (q.group = g) := by
    conv_rhs => rw [← List.zipIdx_map_fst 0 pt, List.filter_map]
    rfl
  have hlength : (distancesTo (between dist) Point.group pt p.1 g).length =
      pt.countP fun q => decide (q.group = g) := by
    rw [distancesTo, List.length_map, List.countP_eq_length_filter]
  rw [filled, row, mean, hlength, distancesTo, ← hfst, List.map_map]
  simp only [div_eq_mul_inv, List.sum_map_mul_right]
  rfl

omit [LinearOrder K] in
theorem bI_eq (hlen : pt.length < 2 ^ 16) (hlabel : ∀ p ∈ pt, p.group < k) :
    bI dist pt (fun g => pt.countP fun q => decide (q.group = g)) k =
      some (pt.zipIdx.map (row dist pt)) := by
  have hlen' : pt.zipIdx.length < 2 ^ 16 := by simpa using hlen
  rw [bI, forEach_of_short hlen', foldlM_collect (f := row dist pt), List.nil_append]
  rintro ⟨p, i⟩ hp
  rw [forEach_of_short hlen', foldlM_otherStep]
  · simp only [filled_zipIdx, zero_add]
  · exact fun q hq => hlabel q.1 (List.fst_mem_of_mem_zipIdx hq)
  · rintro ⟨q, j⟩ hq rfl
    rw [List.mem_zipIdx_iff_getElem?] at hp hq
    rw [Option.some.inj (hp.symm.trans hq)]

def valueOf (dist : Vector3D K → Vector3D K → K) (pt : List (Point K)) (k : Nat)
    (p : Point K × Nat) : K :=
  sI (ownMean dist pt p) (bIFinal k (row dist pt p))

theorem silhouttes_eq (hlen : pt.length < 2 ^ 16) (hlabel : ∀ p ∈ pt, p.group < k) :
    silhouttes dist pt k = some (pt.zipIdx.map (valueOf dist pt k)) := by
  rw [silhouttes, firstPass_eq hlen hlabel]
  simp only [Option.bind_eq_bind, Option.bind_some, bI_eq hlen hlabel]
  rw [List.map_map, List.zipWith_map, List.zipWith_self]
  rfl

theorem silhouttes_of_long (hlen : 2 ^ 16 ≤ pt.length) : silhouttes dist pt k = none := by
  have hlen' : 2 ^ 16 ≤ pt.zipIdx.length := by simpa using hlen
  rw [silhouttes, firstPass, forEach_of_long hlen']
  rfl

theorem computeAverageSilhoutte_eq (hlen : pt.length < 2 ^ 16) (hlabel : ∀ p ∈ pt, p.group < k) :
    computeAverageSilhoutte dist pt k = some (mean (pt.zipIdx.map (valueOf dist pt k))) := by
  rw [computeAverageSilhoutte, silhouttes_eq hlen hlabel, Option.map_some, mean, List.length_map,
    List.length_zipIdx, List.sum_eq_foldl]

end Passes

section Closest

variable {dist : Vector3D K → Vector3D K → K} {pt : List (Point K)} {k : Nat}

theorem foldl_closer (vs : List K) (m : K) :
    vs.foldl closer m ≤ m ∧ (∀ v ∈ vs, v ≠ 0 → vs.foldl closer m ≤ v) ∧
      (vs.foldl closer m = m ∨ vs.foldl closer m ∈ vs ∧ vs.foldl closer m ≠ 0) := by
  induction vs generalizing m with
  | nil => simp
  | cons v vs ih =>
      obtain ⟨hle, hall, hsource⟩ := ih (closer m v)
      rw [List.foldl_cons]
      have hm : closer m v ≤ m := by
        rw [closer]
        split
        · next h => exact h.2.le
        · exact le_rfl
      have hv (h0 : v ≠ 0) : closer m v ≤ v := by
        rw [closer]
        split
        · exact le_rfl
        · next h => exact not_lt.mp fun hlt => h ⟨h0, hlt⟩
      have hnew : closer m v = m ∨ closer m v = v ∧ v ≠ 0 := by
        rw [closer]
        split
        · next h => exact .inr ⟨rfl, h.1⟩
        · exact .inl rfl
      refine ⟨hle.trans hm, ?_, ?_⟩
      · rw [List.forall_mem_cons]
        exact ⟨fun h0 => hle.trans (hv h0), hall⟩
      · rcases hsource with h | ⟨h, h0⟩
        · rcases hnew with h' | ⟨h', h0⟩
          · exact .inl (h.trans h')
          · rw [h, h']
            exact .inr ⟨List.mem_cons_self, h0⟩
        · exact .inr ⟨List.mem_cons_of_mem _ h, h0⟩

omit [LinearOrder K] in
theorem mem_otherMeans_iff (p : Point K × Nat) (v : K) :
    v ∈ otherMeans (between dist) Point.group pt (List.range k) p.1 ↔
      ∃ g < k, g ≠ p.1.group ∧ row dist pt p g = v := by
  simp only [otherMeans, List.mem_map, List.mem_filter, List.mem_range, decide_eq_true_eq, and_assoc]
  refine exists_congr fun g => and_congr_right fun _ => and_congr_right fun hg => ?_
  rw [row, if_neg hg]

omit [LinearOrder K] in
theorem mem_row_iff (p : Point K × Nat) {v : K} (h0 : v ≠ 0) :
    v ∈ (List.range k).map (row dist pt p) ↔
      v ∈ otherMeans (between dist) Point.group pt (List.range k) p.1 := by
  rw [mem_otherMeans_iff, List.mem_map]
  simp only [List.mem_range]
  refine exists_congr fun g => and_congr_right fun _ => ⟨fun h => ⟨?_, h⟩, fun h => h.2⟩
  rintro rfl
  exact h0 (by rw [← h, row, if_pos rfl])

theorem nearestMean_isLeast {p : Point K × Nat} (h : ∃ g ∈ List.range k, g ≠ p.1.group) :
    IsLeast {d | d ∈ otherMeans (between dist) Point.group pt (List.range k) p.1}
      (nearestMean dist pt k p) :=
  nearestOther_isLeast h

theorem bIFinal_eq {p : Point K × Nat} (hother : ∃ g ∈ List.range k, g ≠ p.1.group)
    (hpos : 0 < nearestMean dist pt k p) :
    bIFinal k (row dist pt p) = min (nearestMean dist pt k p) 1000000000 := by
  obtain ⟨hmem, hleast⟩ := nearestMean_isLeast hother
  obtain ⟨hle, hall, hsource⟩ := foldl_closer ((List.range k).map (row dist pt p)) 1000000000
  have hnear := hall _ ((mem_row_iff p hpos.ne').mpr hmem) hpos.ne'
  apply le_antisymm (le_min hnear hle)
  rcases hsource with h | ⟨h, h0⟩
  · exact (min_le_right _ _).trans h.ge
  · exact (min_le_left _ _).trans (hleast ((mem_row_iff p h0).mp h))

variable [IsStrictOrderedRing K] (hdist : ∀ p q, 0 ≤ dist p q)

include hdist

theorem bIFinal_pos (p : Point K × Nat) : 0 < bIFinal k (row dist pt p) := by
  obtain ⟨_, _, h | ⟨h, h0⟩⟩ := foldl_closer ((List.range k).map (row dist pt p)) 1000000000
  · rw [bIFinal, h]
    exact Nat.ofNat_pos
  · rw [mem_row_iff p h0] at h
    exact (otherMeans_nonneg (fun _ _ => hdist _ _) p.1 _ h).lt_of_ne (Ne.symm h0)

end Closest

section Values

variable [IsStrictOrderedRing K] {a b : K}

omit [IsStrictOrderedRing K] in
theorem sI_of_le (ha : a ≠ 0) (h : a ≤ b) : sI a b = 1 - a / b := by
  rw [sI, if_neg ha]
  by_cases he : a = b
  · rw [if_pos he, ← he, div_self ha, sub_self]
  · rw [if_neg he, if_neg h.not_gt]

omit [IsStrictOrderedRing K] in
theorem sI_of_lt (hb : 0 < b) (h : b < a) : sI a b = a / b - 1 := by
  rw [sI, if_neg (hb.trans h).ne', if_neg h.ne', if_pos h]

theorem sI_nonneg (ha : 0 ≤ a) (hb : 0 < b) : 0 ≤ sI a b := by
  rcases ha.eq_or_lt with rfl | ha
  · rw [sI, if_pos rfl]
  · rcases le_or_gt a b with h | h
    · rw [sI_of_le ha.ne' h, sub_nonneg, div_le_one hb]
      exact h
    · rw [sI_of_lt hb h, sub_nonneg, one_le_div hb]
      exact h.le

omit [IsStrictOrderedRing K] in
theorem sI_zero (b : K) : sI 0 b = 0 := if_pos rfl

omit [IsStrictOrderedRing K] in
theorem silhouette_zero (hb : 0 ≤ b) : silhouette 0 b = gap 0 b := by
  rw [gap, if_pos rfl]
  rcases hb.eq_or_lt with rfl | hb
  · rw [if_pos rfl, silhouette, max_self, div_zero]
  · rw [if_neg hb.ne', silhouette_of_le hb hb.le, zero_div, sub_zero]

theorem silhouette_eq (ha : 0 < a) (h : a ≤ b) :
    silhouette a b = sI a (min b 1000000000) + gap a b := by
  have hbillion : (0 : K) < 1000000000 := Nat.ofNat_pos
  rw [silhouette_of_le (ha.trans_le h) h, gap, if_neg ha.ne']
  by_cases hb : b ≤ 1000000000
  · rw [if_pos hb, min_eq_left hb, sI_of_le ha.ne' h, add_zero]
  · rw [if_neg hb, min_eq_right (not_le.mp hb).le]
    by_cases hfar : a ≤ 1000000000
    · rw [if_pos hfar, sI_of_le ha.ne' hfar]
      ring
    · rw [if_neg hfar, sI_of_lt hbillion (not_le.mp hfar)]
      ring

variable {dist : Vector3D K → Vector3D K → K} {pt : List (Point K)} {k : Nat}
  (hdist : ∀ p q, 0 ≤ dist p q)

include hdist

theorem valueOf_nonneg (p : Point K × Nat) : 0 ≤ valueOf dist pt k p :=
  sI_nonneg (own_nonneg (fun _ _ => hdist _ _) p) (bIFinal_pos hdist p)

theorem score_eq {p : Point K × Nat} (hother : ∃ g ∈ List.range k, g ≠ p.1.group)
    (hle : ownMean dist pt p ≤ nearestMean dist pt k p) :
    score (between dist) Point.group pt (List.range k) p =
      valueOf dist pt k p + shortfall dist pt k p := by
  have ha : 0 ≤ ownMean dist pt p := own_nonneg (fun _ _ => hdist _ _) p
  rw [score, shortfall]
  by_cases halone : ownDistances (between dist) Point.group pt p = []
  · have hzero : ownMean dist pt p = 0 := own_of_alone halone
    rw [if_pos halone, if_pos halone, valueOf, hzero, sI_zero, add_zero]
  · rw [if_neg halone, if_neg halone]
    change silhouette (ownMean dist pt p) (nearestMean dist pt k p) = _
    rcases ha.eq_or_lt with hzero | hpos
    · rw [valueOf, ← hzero, sI_zero, zero_add, silhouette_zero (ha.trans hle)]
    · rw [valueOf, bIFinal_eq hother (hpos.trans_le hle), silhouette_eq hpos hle]

end Values

section Main

variable [IsStrictOrderedRing K] {dist : Vector3D K → Vector3D K → K} {pt : List (Point K)} {k : Nat}

theorem exists_other (hk : 2 ≤ k) (g : Nat) : ∃ h ∈ List.range k, h ≠ g := by
  by_cases hg : g = 0
  · exact ⟨1, List.mem_range.mpr hk, by omega⟩
  · exact ⟨0, List.mem_range.mpr (by omega), Ne.symm hg⟩

theorem sum_score (hdist : ∀ p q, 0 ≤ dist p q) (hk : 2 ≤ k)
    (hle : ∀ p ∈ pt.zipIdx, ownMean dist pt p ≤ nearestMean dist pt k p) :
    (pt.zipIdx.map (score (between dist) Point.group pt (List.range k))).sum =
      (pt.zipIdx.map (valueOf dist pt k)).sum + (pt.zipIdx.map (shortfall dist pt k)).sum := by
  rw [← List.sum_map_add]
  congr 1
  apply List.map_congr_left
  intro p hp
  exact score_eq hdist (exists_other hk p.1.group) (hle p hp)

/-- The value is the mean silhouette exactly when no point is nearer to another
group, as it is never taken from, and nothing is lost on the whole otherwise. -/
theorem isMeanSilhouette_iff (hdist : Metric dist) (hk : 2 ≤ k) (hlabel : ∀ p ∈ pt, p.group < k)
    (hgroups : ∀ g < k, ∃ p ∈ pt, p.group = g) :
    IsMeanSilhouette dist pt k ↔ pt.length < 2 ^ 16 ∧
      (∀ p ∈ pt.zipIdx, ownMean dist pt p ≤ nearestMean dist pt k p) ∧
      (pt.zipIdx.map (shortfall dist pt k)).sum = 0 := by
  have hne : pt ≠ [] := by
    obtain ⟨p, hp, _⟩ := hgroups 0 (by omega)
    exact List.ne_nil_of_mem hp
  have hlen : (pt.length : K) ≠ 0 := Nat.cast_ne_zero.mpr (mt List.length_eq_zero_iff.mp hne)
  have hvalue (hshort : pt.length < 2 ^ 16)
      (hle : ∀ p ∈ pt.zipIdx, ownMean dist pt p ≤ nearestMean dist pt k p) :
      computeAverageSilhoutte dist pt k = some (meanSilhouette dist pt k) ↔
        (pt.zipIdx.map (shortfall dist pt k)).sum = 0 := by
    rw [computeAverageSilhoutte_eq hshort hlabel, Option.some.injEq, meanSilhouette, averageScore,
      mean, mean, sum_score hdist.nonneg hk hle, List.length_map, List.length_map, List.length_zipIdx,
      div_left_inj' hlen, left_eq_add]
  constructor
  · intro h
    have hshort : pt.length < 2 ^ 16 := by
      by_contra hlong
      have hnone := h.value
      rw [computeAverageSilhoutte, silhouttes_of_long (Nat.le_of_not_lt hlong)] at hnone
      exact absurd hnone (by simp)
    have hle : ∀ p ∈ pt.zipIdx, ownMean dist pt p ≤ nearestMean dist pt k p := by
      intro p hp
      by_contra hlt
      have hget : (pt.zipIdx.map (valueOf dist pt k))[p.2]? = some (valueOf dist pt k p) := by
        rw [List.getElem?_map, List.getElem?_zipIdx, List.mem_zipIdx_iff_getElem?.mp hp]
        simp
      have hneg := h.lowers _ (silhouttes_eq hshort hlabel) p hp (not_le.mp hlt) _ hget
      exact absurd hneg (valueOf_nonneg hdist.nonneg p).not_gt
    exact ⟨hshort, hle, (hvalue hshort hle).mp h.value⟩
  · rintro ⟨hshort, hle, hsum⟩
    have hval := (hvalue hshort hle).mpr hsum
    refine ⟨hval, ?_, ?_⟩
    · rintro v hv
      rw [hval, Option.some.injEq] at hv
      rw [← hv]
      exact averageScore_mem_Icc (fun _ _ => hdist.nonneg _ _) hne fun p _ => exists_other hk p.group
    · intro _ _ p hp hlt
      exact absurd hlt (hle p hp).not_gt

theorem sum_shortfall_eq_zero_iff (hdist : Metric dist) (hk : 2 ≤ k)
    (hgroups : ∀ g < k, ∃ p ∈ pt, p.group = g)
    (hnear : ∀ q ∈ pt, ∀ p ∈ pt, between dist q p ≤ 1000000000) :
    (pt.zipIdx.map (shortfall dist pt k)).sum = 0 ↔
      ∀ p ∈ pt.zipIdx, ownDistances (between dist) Point.group pt p ≠ [] →
        ownMean dist pt p = 0 → nearestMean dist pt k p = 0 := by
  have hb (p : Point K × Nat) (hp : p ∈ pt.zipIdx) : nearestMean dist pt k p ≤ 1000000000 := by
    obtain ⟨g, hg, hmean⟩ := List.mem_map.mp (nearestMean_isLeast (exists_other hk p.1.group)).1
    obtain ⟨q, hq, hqg⟩ := hgroups g (List.mem_range.mp (List.mem_filter.mp hg).1)
    have hne : distancesTo (between dist) Point.group pt p.1 g ≠ [] :=
      List.ne_nil_of_mem (List.mem_map_of_mem (List.mem_filter.mpr ⟨hq, decide_eq_true hqg⟩))
    have hbound : ∀ d ∈ distancesTo (between dist) Point.group pt p.1 g, 0 ≤ d ∧ d ≤ 1000000000 := by
      rw [distancesTo, List.forall_mem_map]
      exact fun q hq => ⟨hdist.nonneg _ _,
        hnear q (List.mem_of_mem_filter hq) p.1 (List.fst_mem_of_mem_zipIdx hp)⟩
    rw [← hmean]
    exact (mean_mem_Icc hne hbound).2
  have hloss (p : Point K × Nat) (hp : p ∈ pt.zipIdx) : 0 ≤ shortfall dist pt k p ∧
      (shortfall dist pt k p = 0 ↔ (ownDistances (between dist) Point.group pt p ≠ [] →
        ownMean dist pt p = 0 → nearestMean dist pt k p = 0)) := by
    rw [shortfall, gap, if_pos (hb p hp)]
    split_ifs <;> simp [*]
  constructor
  · intro hsum p hp
    have hnonneg : ∀ x ∈ pt.zipIdx.map (shortfall dist pt k), 0 ≤ x :=
      List.forall_mem_map.mpr fun p hp => (hloss p hp).1
    exact (hloss p hp).2.mp
      (List.all_zero_of_le_zero_le_of_sum_eq_zero hnonneg hsum (List.mem_map_of_mem hp))
  · intro h
    apply List.sum_eq_zero
    exact List.forall_mem_map.mpr fun p hp => (hloss p hp).2.mpr (h p hp)

end Main

def pairs : List (Point ℚ) := [⟨1, 0, 0, 0⟩, ⟨2, 1, 0, 0⟩, ⟨3, 10, 0, 1⟩, ⟨4, 11, 0, 1⟩]

theorem isMeanSilhouette_iff_pairs :
    IsMeanSilhouette gridDistance pairs 2 ↔ pairs.length < 2 ^ 16 ∧
      (∀ p ∈ pairs.zipIdx, ownMean gridDistance pairs p ≤ nearestMean gridDistance pairs 2 p) ∧
      (pairs.zipIdx.map (shortfall gridDistance pairs 2)).sum = 0 :=
  isMeanSilhouette_iff gridDistance_metric (by decide) (by decide) (by decide)

/-- The second of these devices is nearer to the third than to the first, yet k-means leaves them so. -/
def misplaced : List (Point ℚ) := [⟨1, -10, 0, 0⟩, ⟨2, 0, 0, 0⟩, ⟨3, 6, 0, 1⟩]

theorem misplaced_not_mean :
    KMeans.lloydRound 2 misplaced = some (.inl misplaced) ∧
      ¬ ∀ (dist : Vector3D ℚ → Vector3D ℚ → ℚ) (pt : List (Point ℚ)) (k : Nat), Metric dist → 2 ≤ k →
        (∀ p ∈ pt, p.group < k) → (∀ g < k, ∃ p ∈ pt, p.group = g) → IsMeanSilhouette dist pt k := by
  refine ⟨by decide +kernel, fun h => ?_⟩
  have hmean := h gridDistance misplaced 2 gridDistance_metric (by decide) (by decide) (by decide)
  have hvalue : computeAverageSilhoutte gridDistance misplaced 2 = some (25 / 72) := by decide +kernel
  have hsilhouette : meanSilhouette gridDistance misplaced 2 = -1 / 120 := by decide +kernel
  have heq := hvalue.symm.trans hmean.value
  rw [hsilhouette, Option.some.injEq] at heq
  norm_num at heq

end UavMonitoring.AverageSilhoutte
