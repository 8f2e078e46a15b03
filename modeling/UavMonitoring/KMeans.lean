import Mathlib.Data.List.Sections
import Mathlib.Data.Prod.Lex
import Mathlib.Algebra.Order.WithTop.Untop0
import UavMonitoring.BestScan
import UavMonitoring.Clusters
import UavMonitoring.LeastSquares
import UavMonitoring.WhileLoop

namespace UavMonitoring.KMeans

open BestScan Clusters CounterLoop LeastSquares Tally WhileLoop

variable {K : Type} [Field K] [LinearOrder K]

/-- What `rand` returns during one call of `lloyd`, and what the memory that
the call and its caller leave uninitialised holds: the groups of the points and
the centroids, `none` for one that is not a pair of numbers. An `int` stands
here for its bits, as it is only compared until it is a group. -/
structure Chance (K : Type) where
  rand : Nat → Nat
  randMax : Nat
  group : Nat → Nat
  cent : Nat → Option (K × K)

def randf (h : Chance K) (m : K) (i : Nat) : K := m * h.rand i / (h.randMax - 1)

def dist2 (a : K × K) (b : Point K) : K :=
  let x := a.1 - b.x
  let y := a.2 - b.y
  x * x + y * y

/-- How far a centroid is; no comparison with one that is not a number holds,
nor one with `HUGE_VAL`. -/
def rank (cent : Nat → Option (K × K)) (p : Point K) (i : Nat) : WithTop K :=
  match cent i with
  | some c => ((dist2 c p : K) : WithTop K)
  | none => ⊤

/-- `min_d` and `min_i`. The two loops of the source share their counter, so
the outer one makes a single round; `n_cluster` is at least 1. -/
def nearest (p : Point K) (cent : Nat → Option (K × K)) (n_cluster : Nat) : WithTop K × Nat :=
  (List.range n_cluster).foldl (lower (rank cent p)) (⊤, p.group)

def moveTo (cent : Nat → Option (K × K)) (n_cluster : Nat) (p : Point K) : Point K :=
  { p with group := (nearest p cent n_cluster).2 }

def choose : K → List (Point K × K) → Option (Point K)
  | _, [] => none
  | sum, (p, d) :: rest => if 0 < sum - d then choose (sum - d) rest else some p

/-- No `d` is infinite, for the first centroid is a point. The new one stays as
it was when the draw exceeds the sum. -/
def kppStep (h : Chance K) (pts : List (Point K)) (cent : Nat → Option (K × K)) (n_cluster : Nat) :
    Nat → Option (K × K) :=
  let d := pts.map fun p => (nearest p cent n_cluster).1.untopD 0
  match choose (randf h d.sum n_cluster) (pts.zip d) with
  | some p => Function.update cent n_cluster (some (p.x, p.y))
  | none => cent

def kpp (h : Chance K) (pts : List (Point K)) (n_cent : Nat) : Option (List (Point K)) :=
  if n_cent = 0 then none
  else (pts[h.rand 0 % pts.length]?).map fun p =>
    let cent := (List.range' 1 (n_cent - 1)).foldl (kppStep h pts)
      (Function.update h.cent 0 (some (p.x, p.y)))
    pts.map (moveTo cent n_cent)

def seeds (h : Chance K) (pts : List (Point K)) (n_cent : Nat) : Option (Nat → Option (K × K)) :=
  if n_cent = 0 then none
  else (pts[h.rand 0 % pts.length]?).map fun p =>
    (List.range' 1 (n_cent - 1)).foldl (kppStep h pts) (Function.update h.cent 0 (some (p.x, p.y)))

def gatherStep (n_cluster : Nat) (cent : Nat → Nat × K × K) (p : Point K) :
    Option (Nat → Nat × K × K) :=
  if p.group < n_cluster then
    let c := cent p.group
    some (Function.update cent p.group (c.1 + 1, c.2.1 + p.x, c.2.2 + p.y))
  else none

/-- The centroids, of which an empty group has none: zero is divided by zero. -/
def centroids (pts : List (Point K)) (n_cluster : Nat) : Option (Nat → Option (K × K)) :=
  (pts.foldlM (gatherStep n_cluster) fun _ => (0, 0, 0)).map fun cent i =>
    if (cent i).1 = 0 then none else some ((cent i).2.1 / (cent i).1, (cent i).2.2 / (cent i).1)

def lloydRound (n_cluster : Nat) (pts : List (Point K)) :
    Option (List (Point K) ⊕ List (Point K)) :=
  (centroids pts n_cluster).map fun cent =>
    let changed := pts.countP fun p => decide ((nearest p cent n_cluster).2 ≠ p.group)
    let pts' := pts.map (moveTo cent n_cluster)
    if pts.length >>> 10 < changed then .inr pts' else .inl pts'

/-- The points as the call leaves them; the centroids it returns are not used. -/
def lloyd (h : Chance K) (fuel : Nat) (pts : List (Point K)) (n_cluster : Nat) :
    Option (List (Point K)) :=
  (kpp h pts n_cluster).bind (loop (lloydRound n_cluster) fuel)

section Nearest

variable {cent : Nat → Option (K × K)} {n : Nat} {p : Point K}

theorem nearest_spec {j : Nat} {c : K × K} (hj : j < n) (hc : cent j = some c) :
    ∃ i c', nearest p cent n = (((dist2 c' p : K) : WithTop K), i) ∧ i < n ∧ cent i = some c' ∧
      dist2 c' p ≤ dist2 c p ∧ (dist2 c' p = dist2 c p → i ≤ j) := by
  have hscan : First (rank cent p) (⊤, p.group) n (nearest p cent n) := foldl_lower _ n
  have hrank : rank cent p j = dist2 c p := by simp only [rank, hc]
  have hle := hscan.least j hj
  rcases hscan.source with hs | ⟨hlt, heq, htop, hfirst⟩
  · rw [hs, hrank] at hle
    exact absurd hle (WithTop.coe_lt_top _).not_ge
  · have hsome : ∃ c', cent (nearest p cent n).2 = some c' := by
      by_contra hnone
      have hnone' : cent (nearest p cent n).2 = none :=
        Option.eq_none_iff_forall_ne_some.mpr fun c' hc' => hnone ⟨c', hc'⟩
      rw [heq, rank, hnone'] at htop
      exact absurd htop (lt_irrefl _)
    obtain ⟨c', hc'⟩ := hsome
    have hrank' : (nearest p cent n).1 = dist2 c' p := by rw [heq, rank, hc']
    refine ⟨_, c', Prod.ext hrank' rfl, hlt, hc', ?_, ?_⟩
    · rwa [hrank', hrank, WithTop.coe_le_coe] at hle
    · intro he
      by_contra hj'
      have hj' := hfirst j (not_le.mp hj')
      rw [hrank', hrank, WithTop.coe_lt_coe, he] at hj'
      exact absurd hj' (lt_irrefl _)

theorem moveTo_lt {j : Nat} {c : K × K} (hj : j < n) (hc : cent j = some c) :
    (moveTo cent n p).group < n := by
  obtain ⟨i, _, hi, hlt, _⟩ := nearest_spec (p := p) hj hc
  rw [moveTo, hi]
  exact hlt

end Nearest

section Seeding

variable (h : Chance K) (pts : List (Point K))

variable {h pts} in
theorem kppStep_ne {cent : Nat → Option (K × K)} {j k : Nat} (hj : j ≠ k) :
    kppStep h pts cent k j = cent j := by
  rw [kppStep]
  generalize (choose _ _ : Option (Point K)) = new
  cases new with
  | none => rfl
  | some p => exact Function.update_of_ne hj _ _

variable {h pts} in
theorem foldl_kppStep_of_notMem {cent : Nat → Option (K × K)} {j : Nat} {ks : List Nat}
    (hj : j ∉ ks) : ks.foldl (kppStep h pts) cent j = cent j := by
  induction ks generalizing cent with
  | nil => rfl
  | cons k ks ih =>
      obtain ⟨hk, hks⟩ := List.ne_and_not_mem_of_not_mem_cons hj
      rw [List.foldl_cons, ih hks, kppStep_ne hk]

theorem kpp_eq (n : Nat) : kpp h pts n = (seeds h pts n).map fun cent => pts.map (moveTo cent n) := by
  rw [kpp, seeds]
  split
  · rfl
  · rw [Option.map_map]
    rfl

theorem seeds_returns {n : Nat} (hn : 0 < n) (hpts : pts ≠ []) :
    ∃ cent, seeds h pts n = some cent ∧ ∃ p ∈ pts, cent 0 = some (p.x, p.y) := by
  have hlt : h.rand 0 % pts.length < pts.length := Nat.mod_lt _ (List.length_pos_iff.mpr hpts)
  rw [seeds, if_neg hn.ne', List.getElem?_eq_getElem hlt, Option.map_some]
  refine ⟨_, rfl, _, List.getElem_mem hlt, ?_⟩
  rw [foldl_kppStep_of_notMem (by simp), Function.update_self]

theorem kpp_returns {n : Nat} (hn : 0 < n) (hpts : pts ≠ []) :
    ∃ cent, kpp h pts n = some (pts.map (moveTo cent n)) ∧
      ∀ p ∈ pts, (moveTo cent n p).group < n := by
  obtain ⟨cent, hseeds, q, _, hcent⟩ := seeds_returns h pts hn hpts
  rw [kpp_eq, hseeds, Option.map_some]
  exact ⟨cent, rfl, fun p _ => moveTo_lt hn hcent⟩

end Seeding

section Draws

variable {h : Chance K} {pts : List (Point K)} {cent : Nat → Option (K × K)} {n k : Nat}

def Copied (pts : List (Point K)) (c : Option (K × K)) : Prop := ∃ p ∈ pts, c = some (p.x, p.y)

/-- The greatest draw finds a point away from all centroids so far; what it
asks for is then more than the sum. -/
def Missed (h : Chance K) (pts : List (Point K)) (cent : Nat → Option (K × K)) (k : Nat) : Prop :=
  h.rand k = h.randMax ∧ ∃ p ∈ pts, ∀ j < k, cent j ≠ some (p.x, p.y)

def weight (cent : Nat → Option (K × K)) (k : Nat) (p : Point K) : K := (nearest p cent k).1.untopD 0

theorem mem_of_choose {sum : K} {es : List (Point K × K)} {p : Point K} (hp : choose sum es = some p) :
    p ∈ es.map Prod.fst := by
  induction es generalizing sum with
  | nil => simp [choose] at hp
  | cons e es ih =>
      rw [choose] at hp
      rw [List.map_cons, List.mem_cons]
      split at hp
      · exact .inr (ih hp)
      · exact .inl (Option.some.inj hp).symm

variable [IsStrictOrderedRing K]

theorem choose_eq_none_iff {sum : K} {es : List (Point K × K)} (hes : ∀ e ∈ es, 0 ≤ e.2) :
    choose sum es = none ↔ es = [] ∨ (es.map Prod.snd).sum < sum := by
  induction es generalizing sum with
  | nil => simp [choose]
  | cons e es ih =>
      obtain ⟨he, hes⟩ := List.forall_mem_cons.mp hes
      have hrest : 0 ≤ (es.map Prod.snd).sum := List.sum_nonneg (List.forall_mem_map.mpr hes)
      rw [choose, List.map_cons, List.sum_cons]
      split
      · next hlt =>
          rw [ih hes, lt_sub_iff_add_lt']
          constructor
          · rintro (rfl | h)
            · right
              simpa using hlt
            · exact .inr h
          · exact fun h => .inr (h.resolve_left (List.cons_ne_nil _ _))
      · next hge =>
          have hle : sum ≤ e.2 := by simpa using hge
          simp [(hle.trans (le_add_of_nonneg_right hrest)).not_gt]

omit [LinearOrder K] [IsStrictOrderedRing K] in
theorem dist2_self (p : Point K) : dist2 (p.x, p.y) p = 0 := by simp [dist2]

theorem dist2_nonneg (c : K × K) (p : Point K) : 0 ≤ dist2 c p :=
  add_nonneg (mul_self_nonneg _) (mul_self_nonneg _)

theorem dist2_eq_zero_iff {c : K × K} {p : Point K} : dist2 c p = 0 ↔ c = (p.x, p.y) := by
  rw [dist2, mul_self_add_mul_self_eq_zero, sub_eq_zero, sub_eq_zero, Prod.ext_iff]

theorem weight_spec {c : K × K} (hk : 0 < k) (hc : cent 0 = some c) (p : Point K) :
    0 ≤ weight cent k p ∧ (weight cent k p = 0 ↔ ∃ j < k, cent j = some (p.x, p.y)) := by
  obtain ⟨i, c', hi, hlt, hc', _⟩ := nearest_spec (p := p) hk hc
  have hw : weight cent k p = dist2 c' p := by rw [weight, hi, WithTop.untopD_coe]
  rw [hw]
  refine ⟨dist2_nonneg _ _, ?_, ?_⟩
  · intro h0
    exact ⟨i, hlt, by rw [hc', dist2_eq_zero_iff.mp h0]⟩
  · rintro ⟨j, hj, hcj⟩
    obtain ⟨_, c'', hi', _, _, hle, _⟩ := nearest_spec (p := p) hj hcj
    rw [weight, hi', WithTop.untopD_coe] at hw
    rw [← hw]
    rw [dist2_self] at hle
    exact le_antisymm hle (dist2_nonneg _ _)

theorem lt_randf_iff (hrand : ∀ i, h.rand i ≤ h.randMax) (hmax : 2 ≤ h.randMax) {m : K} (hm : 0 ≤ m) :
    m < randf h m k ↔ 0 < m ∧ h.rand k = h.randMax := by
  have hcast : ((h.randMax - 1 : Nat) : K) = h.randMax - 1 := by
    rw [Nat.cast_sub (by omega), Nat.cast_one]
  have hpos : (0 : K) < h.randMax - 1 := by
    rw [← hcast, Nat.cast_pos]
    omega
  rw [randf, lt_div_iff₀ hpos, ← hcast]
  rcases hm.eq_or_lt with rfl | hm
  · simp
  · have hdraw := hrand k
    rw [mul_lt_mul_iff_right₀ hm, Nat.cast_lt]
    constructor
    · exact fun hlt => ⟨hm, by omega⟩
    · exact fun hlt => by omega

theorem kppStep_cases (hpts : pts ≠ []) (hrand : ∀ i, h.rand i ≤ h.randMax) (hmax : 2 ≤ h.randMax)
    {c : K × K} (hk : 0 < k) (hc : cent 0 = some c) :
    (Missed h pts cent k ∧ kppStep h pts cent k k = cent k) ∨
      (¬ Missed h pts cent k ∧ Copied pts (kppStep h pts cent k k)) := by
  have hnonneg : ∀ w ∈ pts.map (weight cent k), 0 ≤ w := by
    rw [List.forall_mem_map]
    exact fun p _ => (weight_spec hk hc p).1
  have hpos : 0 < (pts.map (weight cent k)).sum ↔ ∃ p ∈ pts, ∀ j < k, cent j ≠ some (p.x, p.y) := by
    have hzero : (pts.map (weight cent k)).sum = 0 ↔ ∀ p ∈ pts, weight cent k p = 0 := by
      rw [← List.forall_mem_map (P := fun w => w = 0)]
      exact ⟨List.all_zero_of_le_zero_le_of_sum_eq_zero hnonneg, List.sum_eq_zero⟩
    rw [lt_iff_le_and_ne, and_iff_right (List.sum_nonneg hnonneg), ne_comm, Ne, hzero]
    simp [(weight_spec hk hc _).2]
  have hnone : choose (randf h (pts.map (weight cent k)).sum k) (pts.zip (pts.map (weight cent k))) = none ↔
      Missed h pts cent k := by
    rw [choose_eq_none_iff, List.map_snd_zip (by simp), lt_randf_iff hrand hmax (List.sum_nonneg hnonneg),
      hpos, Missed, and_comm, or_iff_right]
    · simpa using hpts
    · exact fun e he => hnonneg _ (List.of_mem_zip he).2
  have hstep : kppStep h pts cent k =
      match choose (randf h (pts.map (weight cent k)).sum k) (pts.zip (pts.map (weight cent k))) with
      | some p => Function.update cent k (some (p.x, p.y))
      | none => cent := rfl
  rw [hstep]
  cases hchoose : choose (randf h (pts.map (weight cent k)).sum k) (pts.zip (pts.map (weight cent k))) with
  | none => exact .inl ⟨hnone.mp hchoose, rfl⟩
  | some p =>
      right
      refine ⟨fun hmissed => ?_, p, ?_, Function.update_self _ _ _⟩
      · rw [hnone.mpr hmissed] at hchoose
        cases hchoose
      · have hp := mem_of_choose hchoose
        rwa [List.map_fst_zip (by simp)] at hp

omit [IsStrictOrderedRing K] in
theorem seeds_succ (hk : 0 < k) :
    seeds h pts (k + 1) = (seeds h pts k).map fun cent => kppStep h pts cent k := by
  obtain ⟨k, rfl⟩ := Nat.exists_eq_add_of_le' hk
  simp only [seeds, Nat.add_one_sub_one, Nat.add_one_ne_zero, if_false, Option.map_map]
  rw [List.range'_1_concat, Nat.add_comm 1 k]
  simp only [List.foldl_append, List.foldl_cons, List.foldl_nil]
  rfl

omit [IsStrictOrderedRing K] in
theorem seeds_of_le {j : Nat} (hk : 0 < k) (hkn : k ≤ n) (hj : j < k) {c c' : Nat → Option (K × K)}
    (hc : seeds h pts k = some c) (hc' : seeds h pts n = some c') : c' j = c j := by
  induction n, hkn using Nat.le_induction generalizing c' with
  | base => rw [Option.some.inj (hc.symm.trans hc')]
  | succ n hkn ih =>
      rw [seeds_succ (hk.trans_le hkn)] at hc'
      obtain ⟨c'', hn, rfl⟩ := Option.map_eq_some_iff.mp hc'
      rw [kppStep_ne (hj.trans_le hkn).ne, ih hn]

omit [IsStrictOrderedRing K] in
theorem seeds_of_ge {j : Nat} (hk : 0 < k) (hj : k ≤ j) {c : Nat → Option (K × K)}
    (hc : seeds h pts k = some c) : c j = h.cent j := by
  rw [seeds, if_neg hk.ne'] at hc
  obtain ⟨p, _, rfl⟩ := Option.map_eq_some_iff.mp hc
  rw [foldl_kppStep_of_notMem, Function.update_of_ne (by omega)]
  rw [List.mem_range'_1]
  omega

/-- A centroid is left as the memory held it just when the greatest draw falls
to it while some point is away from the centroids before it. -/
theorem seeds_copied_iff {h : Chance K} {pts : List (Point K)} {n : Nat} (hpts : 1 ≤ pts.length)
    (hn : 1 ≤ n) (hrand : ∀ i, h.rand i ≤ h.randMax) (hmax : 2 ≤ h.randMax) :
    (∃ cent, seeds h pts n = some cent ∧ ∀ i < n, Copied pts (cent i)) ↔
      ∀ k, 1 ≤ k → k < n → ∀ before, seeds h pts k = some before → Missed h pts before k →
        Copied pts (h.cent k) := by
  have hne : pts ≠ [] := List.length_pos_iff.mp hpts
  have hround {k : Nat} (hk : 1 ≤ k) (hkn : k < n) {before cent : Nat → Option (K × K)}
      (hbefore : seeds h pts k = some before) (hcent : seeds h pts n = some cent) :
      Copied pts (cent k) ↔ (Missed h pts before k → Copied pts (h.cent k)) := by
    have hafter : seeds h pts (k + 1) = some (kppStep h pts before k) := by
      rw [seeds_succ hk, hbefore, Option.map_some]
    rw [seeds_of_le k.succ_pos hkn k.lt_succ_self hafter hcent, ← seeds_of_ge hk le_rfl hbefore]
    obtain ⟨c, hc, p, _, hc0⟩ := seeds_returns h pts hk hne
    rw [hbefore] at hc
    cases hc
    rcases kppStep_cases hne hrand hmax hk hc0 with ⟨hmissed, hstep⟩ | ⟨hmissed, hcopied⟩
    · rw [hstep, forall_prop_of_true hmissed]
    · exact iff_of_true hcopied fun hm => absurd hm hmissed
  obtain ⟨cent, hcent, p, hp, hc0⟩ := seeds_returns h pts hn hne
  constructor
  · rintro ⟨cent, hcent, hall⟩ k hk hkn before hbefore
    exact (hround hk hkn hbefore hcent).mp (hall k hkn)
  · intro hall
    refine ⟨cent, hcent, fun k hkn => ?_⟩
    rcases k.eq_zero_or_pos with rfl | hk
    · exact ⟨p, hp, hc0⟩
    · obtain ⟨before, hbefore, _⟩ := seeds_returns h pts hk hne
      exact (hround hk hkn hbefore hcent).mpr (hall k hk hkn before hbefore)

def fixedDraw (d : Nat) : Chance ℚ := ⟨fun _ => d, 32767, fun _ => 0, fun _ => none⟩

def pair : List (Point ℚ) := [⟨1, 0, 0, 0⟩, ⟨2, 4, 0, 0⟩]

theorem seeds_copied_pair :
    ∃ cent, seeds (fixedDraw 0) pair 2 = some cent ∧ ∀ i < 2, Copied pair (cent i) := by
  refine (seeds_copied_iff (by decide) (by decide) (fun _ => Nat.zero_le _) (by decide)).mpr ?_
  intro k _ _ _ _ hmissed
  cases hmissed.1

/-- The second of two centroids is not set when `rand` returns `RAND_MAX`. -/
theorem seeds_not_copied : ¬ ∀ (h : Chance ℚ) (pts : List (Point ℚ)) (n : Nat), 1 ≤ pts.length →
    1 ≤ n → n ≤ pts.length → (∀ i, h.rand i ≤ h.randMax) → 2 ≤ h.randMax →
      ∃ cent, seeds h pts n = some cent ∧ ∀ i < n, Copied pts (cent i) := by
  intro hall
  obtain ⟨cent, hcent, hcopied⟩ := hall (fixedDraw 32767) pair 2 (by decide) (by decide) (by decide)
    (fun _ => le_rfl) (by decide)
  have hunset : (seeds (fixedDraw 32767) pair 2).map (fun cent => cent 1) = some none := by
    decide +kernel
  rw [hcent] at hunset
  obtain ⟨p, _, hp⟩ := hcopied 1 (by decide)
  rw [Option.map_some, hp] at hunset
  cases hunset

end Draws

section Centres

def centre (pts : List (Point K)) (g : Nat) : K × K :=
  (groupMean Point.group Point.x pts g, groupMean Point.group Point.y pts g)

def cents (pts : List (Point K)) (g : Nat) : Option (K × K) :=
  if (members Point.group pts g).length = 0 then none else some (centre pts g)

def cost (c : Nat → K × K) (pts : List (Point K)) : K :=
  (pts.map fun p => dist2 (c p.group) p).sum

variable {pts : List (Point K)} {n : Nat}

omit [LinearOrder K] in
theorem foldl_sums (ps : List (Point K)) (c : Nat × K × K) :
    ps.foldl (fun c p => (c.1 + 1, c.2.1 + p.x, c.2.2 + p.y)) c =
      (c.1 + ps.length, c.2.1 + (ps.map Point.x).sum, c.2.2 + (ps.map Point.y).sum) := by
  induction ps generalizing c with
  | nil => simp
  | cons p ps ih =>
      rw [List.foldl_cons, ih, List.map_cons, List.map_cons, List.sum_cons, List.sum_cons,
        List.length_cons, Nat.add_assoc, Nat.add_comm 1, add_assoc, add_assoc]

omit [LinearOrder K] in
theorem centroids_eq (hpts : ∀ p ∈ pts, p.group < n) : centroids pts n = some (cents pts) := by
  have hgather : (pts.foldlM (gatherStep n) fun _ => (0, 0, 0)) = some fun g =>
      (members Point.group pts g).foldl (fun c p => (c.1 + 1, c.2.1 + p.x, c.2.2 + p.y)) (0, 0, 0) := by
    have htable := foldl_update Point.group
      (fun (c : Nat × K × K) (p : Point K) => (c.1 + 1, c.2.1 + p.x, c.2.2 + p.y)) pts
      fun _ => (0, 0, 0)
    exact (foldlM_guard (fun p : Point K => p.group < n) _ hpts _).trans (congrArg some htable)
  rw [centroids, hgather, Option.map_some]
  congr 1
  funext g
  simp only [foldl_sums, zero_add, cents, centre, groupMean]

omit [LinearOrder K] in
theorem cents_group {p : Point K} (hp : p ∈ pts) : cents pts p.group = some (centre pts p.group) := by
  have hmem : p ∈ members Point.group pts p.group := List.mem_filter.mpr ⟨hp, decide_eq_true rfl⟩
  exact if_neg (List.length_pos_of_mem hmem).ne'

omit [LinearOrder K] in
theorem centre_of_cents {g : Nat} {c : K × K} (h : cents pts g = some c) : centre pts g = c := by
  rw [cents] at h
  split at h
  · simp at h
  · exact Option.some.inj h

omit [LinearOrder K] in
theorem cost_eq (c : Nat → K × K) (pts : List (Point K)) :
    cost c pts = spread Point.group Point.x pts (fun g => (c g).1) +
      spread Point.group Point.y pts fun g => (c g).2 := by
  rw [cost, spread, spread, ← List.sum_map_add]
  congr 1
  apply List.map_congr_left
  intro p _
  simp only [dist2]
  ring

theorem cost_centre_le [IsStrictOrderedRing K] (c : Nat → K × K) (pts : List (Point K)) :
    cost (centre pts) pts ≤ cost c pts := by
  rw [cost_eq, cost_eq]
  exact add_le_add (spread_groupMean_le _) (spread_groupMean_le _)

end Centres

section Rounds

variable {pts : List (Point K)} {n : Nat}

theorem moveTo_spec {p : Point K} (hp : p ∈ pts) (hn : p.group < n) :
    (moveTo (cents pts) n p).group < n ∧
      dist2 (centre pts (moveTo (cents pts) n p).group) p ≤ dist2 (centre pts p.group) p ∧
      (dist2 (centre pts (moveTo (cents pts) n p).group) p = dist2 (centre pts p.group) p →
        (moveTo (cents pts) n p).group ≤ p.group) := by
  obtain ⟨i, c, hi, hlt, hc, hle, hfirst⟩ := nearest_spec (p := p) hn (cents_group hp)
  rw [moveTo, hi]
  rw [← centre_of_cents hc] at hle hfirst
  exact ⟨hlt, hle, hfirst⟩

/-- What every round but the last brings down: the cost and, should it stay the
same, the sum of the groups. -/
def key (pts : List (Point K)) : K ×ₗ Nat :=
  toLex (cost (centre pts) pts, (pts.map Point.group).sum)

theorem key_moveTo_lt [IsStrictOrderedRing K] (hpts : ∀ p ∈ pts, p.group < n)
    (hmoved : ∃ p ∈ pts, (moveTo (cents pts) n p).group ≠ p.group) :
    key (pts.map (moveTo (cents pts) n)) < key pts := by
  have hcost : cost (centre pts) (pts.map (moveTo (cents pts) n)) =
      (pts.map fun p => dist2 (centre pts (moveTo (cents pts) n p).group) p).sum := by
    rw [cost, List.map_map]
    rfl
  have hbest : cost (centre (pts.map (moveTo (cents pts) n))) (pts.map (moveTo (cents pts) n)) ≤
      (pts.map fun p => dist2 (centre pts (moveTo (cents pts) n p).group) p).sum :=
    hcost ▸ cost_centre_le (centre pts) _
  have hle : ∀ p ∈ pts, dist2 (centre pts (moveTo (cents pts) n p).group) p ≤
      dist2 (centre pts p.group) p := fun p hp => (moveTo_spec hp (hpts p hp)).2.1
  rw [key, key, Prod.Lex.toLex_lt_toLex']
  refine ⟨hbest.trans (List.sum_le_sum hle), fun heq => ?_⟩
  have hsame : ∀ p ∈ pts, dist2 (centre pts (moveTo (cents pts) n p).group) p =
      dist2 (centre pts p.group) p := by
    intro p hp
    apply le_antisymm (hle p hp)
    by_contra hlt
    have hless := List.sum_lt_sum _ _ hle ⟨p, hp, not_le.mp hlt⟩
    exact absurd heq (hbest.trans_lt hless).ne
  have hgroup : ∀ p ∈ pts, (moveTo (cents pts) n p).group ≤ p.group :=
    fun p hp => (moveTo_spec hp (hpts p hp)).2.2 (hsame p hp)
  obtain ⟨p, hp, hne⟩ := hmoved
  rw [List.map_map]
  exact List.sum_lt_sum _ _ hgroup ⟨p, hp, lt_of_le_of_ne (hgroup p hp) hne⟩

/-- Every point is in the first of the groups whose mean is nearest to it. -/
def Settled (n : Nat) (pts : List (Point K)) : Prop :=
  ∀ p ∈ pts, p.group < n ∧ ∀ g < n, members Point.group pts g ≠ [] →
    dist2 (centre pts p.group) p ≤ dist2 (centre pts g) p ∧
      (dist2 (centre pts p.group) p = dist2 (centre pts g) p → p.group ≤ g)

theorem settled_of_unmoved (hpts : ∀ p ∈ pts, p.group < n)
    (hunmoved : ∀ p ∈ pts, (nearest p (cents pts) n).2 = p.group) : Settled n pts := by
  intro p hp
  refine ⟨hpts p hp, fun g hg hne => ?_⟩
  have hcent : cents pts g = some (centre pts g) :=
    if_neg fun h => hne (List.length_eq_zero_iff.mp h)
  obtain ⟨i, c, hi, _, hc, hle, hfirst⟩ := nearest_spec (p := p) hg hcent
  have hgroup : p.group = i := by rw [← hunmoved p hp, hi]
  rw [hgroup]
  rw [← centre_of_cents hc] at hle hfirst
  exact ⟨hle, hfirst⟩

def reassign (n : Nat) (pts : List (Point K)) : List (Point K) := pts.map (moveTo (cents pts) n)

theorem reassign_eq_self_iff :
    reassign n pts = pts ↔ ∀ p ∈ pts, (nearest p (cents pts) n).2 = p.group := by
  have hmap : reassign n pts = pts ↔ ∀ p ∈ pts, moveTo (cents pts) n p = id p := by
    rw [← List.map_inj_left, List.map_id, reassign]
  rw [hmap]
  refine forall₂_congr fun p _ => ⟨fun h => congrArg Point.group h, fun h => ?_⟩
  rw [moveTo, h, id]

theorem lloydRound_fixes (hpts : ∀ p ∈ pts, p.group < n) (hlen : pts.length < 1024) :
    reassign n pts = pts ∧ lloydRound n pts = some (.inl (reassign n pts)) ∨
      reassign n pts ≠ pts ∧ lloydRound n pts = some (.inr (reassign n pts)) := by
  have hshift : pts.length >>> 10 = 0 := by
    rw [Nat.shiftRight_eq_div_pow]
    exact Nat.div_eq_of_lt hlen
  have hmoved : 0 < (pts.countP fun p => decide ((nearest p (cents pts) n).2 ≠ p.group)) ↔
      reassign n pts ≠ pts := by
    rw [List.countP_pos_iff, Ne, reassign_eq_self_iff]
    simp
  rw [lloydRound, centroids_eq hpts, Option.map_some, hshift]
  dsimp only
  split
  · next hchanged => exact .inr ⟨hmoved.mp hchanged, rfl⟩
  · next hnone => exact .inl ⟨not_not.mp (mt hmoved.mpr hnone), rfl⟩

theorem lloydRound_cases [IsStrictOrderedRing K] (hpts : ∀ p ∈ pts, p.group < n) :
    lloydRound n pts = some (.inl (pts.map (moveTo (cents pts) n))) ∨
      lloydRound n pts = some (.inr (pts.map (moveTo (cents pts) n))) ∧
        key (pts.map (moveTo (cents pts) n)) < key pts := by
  rw [lloydRound, centroids_eq hpts, Option.map_some]
  dsimp only
  split
  · next hchanged =>
      refine .inr ⟨rfl, key_moveTo_lt hpts ?_⟩
      obtain ⟨p, hp, hne⟩ := List.countP_pos_iff.mp ((Nat.zero_le _).trans_lt hchanged)
      exact ⟨p, hp, of_decide_eq_true hne⟩
  · exact .inl rfl

end Rounds

section Groupings

def ungroup (p : Point K) : Point K := { p with group := 0 }

def groupings (n : Nat) (pts : List (Point K)) : List (List (Point K)) :=
  (pts.map fun p => (List.range n).map fun g => { p with group := g }).sections

omit [Field K] [LinearOrder K] in
theorem mem_groupings_iff {n : Nat} {pts qts : List (Point K)} : qts ∈ groupings n pts ↔
    qts.map ungroup = pts.map ungroup ∧ ∀ q ∈ qts, q.group < n := by
  have hone (p q : Point K) : q ∈ (List.range n).map (fun g => { p with group := g }) ↔
      ungroup q = ungroup p ∧ q.group < n := by
    simp only [List.mem_map, List.mem_range]
    constructor
    · rintro ⟨g, hg, rfl⟩
      exact ⟨rfl, hg⟩
    · rintro ⟨hu, hg⟩
      refine ⟨q.group, hg, ?_⟩
      cases p
      cases q
      simp_all [ungroup]
  rw [groupings, List.mem_sections, List.forall₂_map_right_iff]
  simp only [hone]
  induction pts generalizing qts with
  | nil => cases qts <;> simp
  | cons p pts ih =>
      cases qts with
      | nil => simp
      | cons q qts =>
          simp only [List.forall₂_cons, ih, List.map_cons, List.cons.injEq, List.forall_mem_cons]
          tauto

omit [Field K] [LinearOrder K] in
theorem length_groupings (n : Nat) (pts : List (Point K)) :
    (groupings n pts).length = n ^ pts.length := by
  induction pts with
  | nil => rfl
  | cons p pts ih =>
      rw [groupings] at ih
      simp [groupings, List.sections, List.length_flatMap, ih, Nat.pow_succ]

omit [LinearOrder K] in
theorem ungroup_moveTo [LinearOrder K] (cent : Nat → Option (K × K)) (n : Nat)
    (pts : List (Point K)) : (pts.map (moveTo cent n)).map ungroup = pts.map ungroup := by
  rw [List.map_map]
  rfl

theorem reassign_spec {qts : List (Point K)} {n : Nat} (hqts : ∀ q ∈ qts, q.group < n) :
    (reassign n qts).map ungroup = qts.map ungroup ∧ ∀ q ∈ reassign n qts, q.group < n := by
  refine ⟨ungroup_moveTo _ _ _, ?_⟩
  rw [reassign, List.forall_mem_map]
  exact fun q hq => (moveTo_spec hq (hqts q hq)).1

theorem lloyd_returns [IsStrictOrderedRing K] (h : Chance K) {pts : List (Point K)} {n : Nat}
    (hn : 0 < n) (hpts : pts ≠ []) {fuel : Nat} (hfuel : n ^ pts.length ≤ fuel) :
    ∃ pts', lloyd h fuel pts n = some pts' ∧ pts'.map ungroup = pts.map ungroup ∧
      ∀ p ∈ pts', p.group < n := by
  obtain ⟨cent, hkpp, hseeded⟩ := kpp_returns h pts hn hpts
  rw [lloyd, hkpp, Option.bind_some]
  apply loop_returns_of_finset (groupings n pts).toFinset key
  · intro qts hqts
    obtain ⟨hq, hgroups⟩ := mem_groupings_iff.mp (List.mem_toFinset.mp hqts)
    obtain ⟨hsame, hmoved⟩ := reassign_spec hgroups
    rcases lloydRound_cases hgroups with hr | ⟨hr, hlt⟩
    · exact .inl ⟨_, hr, hsame.trans hq, hmoved⟩
    · exact .inr ⟨_, List.mem_toFinset.mpr (mem_groupings_iff.mpr ⟨hsame.trans hq, hmoved⟩), hr, hlt⟩
  · rw [List.mem_toFinset, mem_groupings_iff, List.forall_mem_map]
    exact ⟨ungroup_moveTo _ _ _, hseeded⟩
  · exact (List.toFinset_card_le _).trans ((length_groupings n pts).le.trans hfuel)

/-- Fewer than 1024 points are left as the first fixed point of the iteration
from the groups that the seeding gave them. -/
theorem lloyd_settles [IsStrictOrderedRing K] (h : Chance K) {pts : List (Point K)} {n : Nat}
    (hn : 1 ≤ n) (hpts : 1 ≤ pts.length) (hlen : pts.length < 1024) :
    ∃ seeded pts', kpp h pts n = some seeded ∧ FirstFixed (reassign n) seeded pts' ∧
      (∀ fuel, n ^ pts.length ≤ fuel → lloyd h fuel pts n = some pts') ∧
      pts'.map ungroup = pts.map ungroup ∧ Settled n pts' := by
  have hne : pts ≠ [] := List.length_pos_iff.mp hpts
  obtain ⟨cent, hkpp, hseeded⟩ := kpp_returns h pts hn hne
  obtain ⟨pts', hrun, hsame, hgroups⟩ := lloyd_returns h hn hne le_rfl
  rw [lloyd, hkpp, Option.bind_some] at hrun
  have hfirst : FirstFixed (reassign n) (pts.map (moveTo cent n)) pts' := by
    refine firstFixed_of_loop (fun qts => qts.length = pts.length ∧ ∀ q ∈ qts, q.group < n) ?_ ?_ hrun
    · rintro qts ⟨hlength, hqts⟩
      refine ⟨⟨?_, (reassign_spec hqts).2⟩, lloydRound_fixes hqts (hlength ▸ hlen)⟩
      rw [reassign, List.length_map, hlength]
    · exact ⟨List.length_map _, List.forall_mem_map.mpr hseeded⟩
  refine ⟨_, pts', hkpp, hfirst, fun fuel hfuel => ?_, hsame, ?_⟩
  · rw [lloyd, hkpp, Option.bind_some]
    exact loop_mono hfuel hrun
  · obtain ⟨_, _, hfix, _⟩ := hfirst
    exact settled_of_unmoved hgroups (reassign_eq_self_iff.mp hfix)

theorem lloyd_settles_pair : ∃ seeded pts', kpp (fixedDraw 0) pair 2 = some seeded ∧
    FirstFixed (reassign 2) seeded pts' ∧
    (∀ fuel, 2 ^ pair.length ≤ fuel → lloyd (fixedDraw 0) fuel pair 2 = some pts') ∧
    pts'.map ungroup = pair.map ungroup ∧ Settled 2 pts' :=
  lloyd_settles (fixedDraw 0) (by decide) (by decide) (by decide)

end Groupings

end UavMonitoring.KMeans
