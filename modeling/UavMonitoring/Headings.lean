import Mathlib.Analysis.SpecialFunctions.Complex.Arg
import UavMonitoring.SpringForces

namespace UavMonitoring.Headings

open Basics EdsMonitor CounterLoop SpringForces

variable {K : Type} [Field K] [LinearOrder K]

/-- The horizontal distance of the source, `sqrt (diff.x*diff.x + diff.y*diff.y)`. -/
def planar (c : CMath K) (diff : Vector3D K) : K := c.sqrt (diff.x * diff.x + diff.y * diff.y)

section Divisors

variable (c : CMath K) (cfg : Config K) (w : World K)

/-- What `ComputeAtaForce` divides by: its counter reaches no more than `2 ^ 16` neighbours. -/
def ataDivisors (neighbours : List Nat) : List K :=
  (neighbours.take (2 ^ 16)).map fun j => planar c (w.positionOf j - w.position)

def groundDiff (e : Nat × EdsEntry K) : Vector3D K :=
  ⟨e.2.x, e.2.y, 0⟩ - ⟨w.position.x, w.position.y, 0⟩

def countDivisors (neighbours : List Nat) (e : Nat × EdsEntry K) : List K :=
  if cfg.kAtgPlusMode then (countCovering w neighbours e.1).toList.map fun cnt => (cnt.toNat : K)
  else []

def atgDivisors (neighbours : List Nat) (eds : EdsMap K) : List K :=
  eds.toList.flatMap fun e => planar c (groundDiff w e) :: countDivisors cfg w neighbours e

def inReach (seed : SeedsManager.Seed K) : Bool :=
  !decide (1000 < calculateDistance c w.position seed.origin)

def seedsInReach (now : Time) (tokens : List (SeedsManager.Token K)) : List (SeedsManager.Seed K) :=
  ((SeedsManager.getSeeds now tokens).getD []).filter (inReach c w)

def seedDivisors (now : Time) (tokens : List (SeedsManager.Token K)) : List K :=
  (seedsInReach c w now tokens).map fun seed => planar c (seed.pos - w.position)

def usesSeeds (eds : EdsMap K) (busy : Bool) : Bool := decide (eds.size = 0) && !busy

/-- What `GetDirection` divides by when `DoMoveForces` goes on to use its result. -/
def headingDivisors : Option (Force K) → List K
  | some (some f) => if cfg.tol < getLength c f then [planar c f] else []
  | _ => []

/-- Everything one `DoMoveForces` divides by; it hangs in the loop over the
neighbours when there are `2 ^ 16` of them. -/
def moveDivisors (now : Time) (neighbours : List Nat) (eds : EdsMap K) (busy : Bool)
    (tokens : List (SeedsManager.Token K)) : List K :=
  ataDivisors c w neighbours ++
    if neighbours.length < 2 ^ 16 then
      atgDivisors c cfg w neighbours eds ++
        (if usesSeeds eds busy then seedDivisors c w now tokens else []) ++
        headingDivisors c cfg (computeTotalForce c cfg w now neighbours eds busy tokens)
    else []

def goBackDivisor : K := planar c (cfg.bsPos - w.position)

def Proper (speed : K) (calls : List (Call K)) : Prop :=
  ∀ v, .setVelocity v ∈ calls → ∃ vec, v = some vec ∧ vec.z = 0 ∧ planar c vec = |speed|

structure NeverSingular (now : Time) (neighbours : List Nat) (eds : EdsMap K) (busy : Bool)
    (tokens : List (SeedsManager.Token K)) : Prop where
  move : ∀ d ∈ moveDivisors c cfg w now neighbours eds busy tokens, d ≠ 0
  goBack : goBackDivisor c cfg w ≠ 0
  moves : ∀ calls, doMoveForces c cfg w now neighbours eds busy tokens = some calls →
    Proper c cfg.speed calls
  back : Proper c (cfg.speed * 2) (SpringForces.goBack c cfg w)

end Divisors

def SameColumn (p q : Vector3D K) : Prop := p.x = q.x ∧ p.y = q.y

def covering (w : World K) (neighbours : List Nat) (ed : Nat) : Nat :=
  neighbours.countP fun j => decide (ed ∈ w.coverage j)

/-- Nothing the UAV is drawn to lies straight above or below it, and no count
of neighbours comes round to zero. -/
structure Clear (c : CMath K) (cfg : Config K) (w : World K) (now : Time) (neighbours : List Nat)
    (eds : EdsMap K) (busy : Bool) (tokens : List (SeedsManager.Token K)) : Prop where
  neighbour : ∀ j ∈ neighbours.take (2 ^ 16), ¬ SameColumn (w.positionOf j) w.position
  device : neighbours.length < 2 ^ 16 → ∀ e ∈ eds.toList,
    ¬ SameColumn ⟨e.2.x, e.2.y, 0⟩ w.position
  count : neighbours.length < 2 ^ 16 → cfg.kAtgPlusMode = true → ∀ e ∈ eds.toList,
    covering w neighbours e.1 ≠ 65535
  seed : neighbours.length < 2 ^ 16 → usesSeeds eds busy = true →
    ∀ seed ∈ seedsInReach c w now tokens, ¬ SameColumn seed.pos w.position
  station : ¬ SameColumn cfg.bsPos w.position

section Plane

variable {c : CMath K}

theorem pull_eq (k : K) (diff : Vector3D K) (h : planar c diff ≠ 0) :
    pull c k diff = some ⟨k / planar c diff * diff.x, k / planar c diff * diff.y, 0⟩ := by
  simp only [planar] at h
  simp [pull, divDouble, h, planar]

theorem pull_isSome_iff (k : K) (diff : Vector3D K) : (pull c k diff).isSome ↔ planar c diff ≠ 0 := by
  rw [pull, divDouble, planar]
  split <;> simp [*]

variable [IsStrictOrderedRing K]

theorem planar_eq_zero_iff (hc : c.SqrtExact) (p q : Vector3D K) :
    planar c (p - q) = 0 ↔ SameColumn p q := by
  have hx := mul_self_nonneg (p.x - q.x)
  have hy := mul_self_nonneg (p.y - q.y)
  rw [planar, sub_x, sub_y, (hc.positive _ (add_nonneg hx hy)).2, SameColumn,
    ← sub_eq_zero (a := p.x), ← sub_eq_zero (a := p.y)]
  constructor
  · intro h
    exact ⟨mul_self_eq_zero.mp (by linarith), mul_self_eq_zero.mp (by linarith)⟩
  · rintro ⟨h₁, h₂⟩
    simp [h₁, h₂]

theorem sqrt_mul_self (hc : c.SqrtExact) (k : K) : c.sqrt (k * k) = |k| := by
  obtain ⟨hnonneg, hsq⟩ := hc (k * k) (mul_self_nonneg k)
  rw [← abs_of_nonneg hnonneg]
  exact abs_eq_abs.mpr (mul_self_eq_mul_self_iff.mp hsq)

theorem planar_pull (hc : c.SqrtExact) {k : K} {diff v : Vector3D K} (h : pull c k diff = some v) :
    v.z = 0 ∧ planar c v = |k| := by
  have hne : planar c diff ≠ 0 := (pull_isSome_iff k diff).mp (by simp [h])
  rw [pull_eq k diff hne, Option.some.injEq] at h
  subst h
  refine ⟨rfl, ?_⟩
  have hsq : planar c diff * planar c diff = diff.x * diff.x + diff.y * diff.y :=
    (hc _ (add_nonneg (mul_self_nonneg _) (mul_self_nonneg _))).2
  have hlen : k / planar c diff * diff.x * (k / planar c diff * diff.x) +
      k / planar c diff * diff.y * (k / planar c diff * diff.y) = k * k := by
    field_simp
    rw [sq (planar c diff), hsq]
    ring
  rw [planar, hlen, sqrt_mul_self hc]

omit [IsStrictOrderedRing K] in
theorem planar_ne_zero_of_long {tol : K} (htol : 0 ≤ tol) {f : Vector3D K}
    (hz : f.z = 0) (hlong : tol < getLength c f) : planar c f ≠ 0 := by
  have hlen : getLength c f = planar c f := by simp [getLength, planar, hz]
  exact (htol.trans_lt (hlen ▸ hlong)).ne'

end Plane

section Level

def Level (f : Force K) : Prop := ∀ v, f = some v → v.z = 0

omit [LinearOrder K] in
theorem level_zero : Level (some 0 : Force K) := by
  rintro v h
  cases h
  rfl

theorem level_pull (c : CMath K) (k : K) (diff : Vector3D K) : Level (pull c k diff) := by
  intro v h
  obtain ⟨_, _, rfl⟩ := Option.map_eq_some_iff.mp h
  rfl

omit [LinearOrder K] in
theorem level_addForce {f g : Force K} (hf : Level f) (hg : Level g) : Level (addForce f g) := by
  intro v h
  cases f with
  | none => simp [addForce] at h
  | some a =>
      cases g with
      | none => simp [addForce] at h
      | some b =>
          cases h
          simp [hf a rfl, hg b rfl]

omit [LinearOrder K] in
theorem level_foldl {α : Type} (g : α → Force K) (hg : ∀ x, Level (g x)) (xs : List α) (f : Force K)
    (hf : Level f) : Level (xs.foldl (fun f x => addForce f (g x)) f) := by
  induction xs generalizing f with
  | nil => exact hf
  | cons x xs ih => exact ih _ (level_addForce hf (hg x))

omit [LinearOrder K] in
theorem addForce_isSome (f g : Force K) : (addForce f g).isSome ↔ f.isSome ∧ g.isSome := by
  cases f <;> cases g <;> simp [addForce]

omit [LinearOrder K] in
theorem foldl_isSome {α : Type} (g : α → Force K) (xs : List α) (f : Force K) :
    (xs.foldl (fun f x => addForce f (g x)) f).isSome ↔ f.isSome ∧ ∀ x ∈ xs, (g x).isSome := by
  induction xs generalizing f with
  | nil => simp
  | cons x xs ih => rw [List.foldl_cons, ih, addForce_isSome, List.forall_mem_cons, and_assoc]

end Level

section Forces

variable {c : CMath K} {cfg : Config K} {w : World K}

def Sums (f : Force K) (divisors : List K) : Prop := Level f ∧ (f.isSome ↔ ∀ d ∈ divisors, d ≠ 0)

theorem computeAtaForce_sums {neighbours : List Nat} (h : neighbours.length < 2 ^ 16) :
    ∃ f, computeAtaForce c cfg w neighbours = some f ∧ Sums f (ataDivisors c w neighbours) := by
  refine ⟨_, accumulate_of_short h _ _, ?_, ?_⟩
  · exact level_foldl _ (fun j => level_pull c _ _) neighbours _ level_zero
  · rw [foldl_isSome]
    simp only [pull_isSome_iff, ataDivisors, List.take_of_length_le h.le, List.forall_mem_map,
      Option.isSome_some, true_and]

omit [Field K] [LinearOrder K] in
theorem countCovering_of_short {neighbours : List Nat} (h : neighbours.length < 2 ^ 16) (ed : Nat) :
    countCovering w neighbours ed = some (UInt16.ofNat (1 + covering w neighbours ed)) := by
  have hnext (n : Nat) : UInt16.ofNat n + 1 = UInt16.ofNat (n + 1) := (UInt16.ofNat_add n 1).symm
  rw [countCovering, accumulate_of_short h, covering]
  exact congrArg some (foldl_count (· + 1) UInt16.ofNat hnext (fun j => ed ∈ w.coverage j) neighbours 1)

def factor (cfg : Config K) (w : World K) (neighbours : List Nat) (maxCard : UInt32) (ed : Nat) :
    Option K :=
  if cfg.kAtgPlusMode then
    divDouble (maxCard.toNat : K) ((UInt16.ofNat (1 + covering w neighbours ed)).toNat : K)
  else some 1

def atgPull (c : CMath K) (cfg : Config K) (w : World K) (neighbours : List Nat) (maxCard : UInt32)
    (e : Nat × EdsEntry K) : Force K :=
  (factor cfg w neighbours maxCard e.1).bind fun k =>
    pull c (k * (cfg.lbReqAtg - w.atgLinkBudget ⟨e.2.x, e.2.y, 0⟩)) (groundDiff w e)

theorem atgStep_eq {neighbours : List Nat} (h : neighbours.length < 2 ^ 16) (maxCard : UInt32)
    (f : Force K) (e : Nat × EdsEntry K) : atgStep c cfg w neighbours maxCard f e =
      some (addForce f (atgPull c cfg w neighbours maxCard e)) := by
  have hk : kAtgPlus cfg w neighbours maxCard e.1 = some (factor cfg w neighbours maxCard e.1) := by
    rw [kAtgPlus, factor, countCovering_of_short h]
    split <;> rfl
  rw [atgStep, hk]
  rfl

theorem level_atgPull (neighbours : List Nat) (maxCard : UInt32) (e : Nat × EdsEntry K) :
    Level (atgPull c cfg w neighbours maxCard e) := by
  intro v hv
  obtain ⟨k, _, hv⟩ := Option.bind_eq_some_iff.mp hv
  exact level_pull c _ _ v hv

theorem atgPull_isSome_iff {neighbours : List Nat} (h : neighbours.length < 2 ^ 16)
    (maxCard : UInt32) (e : Nat × EdsEntry K) : (atgPull c cfg w neighbours maxCard e).isSome ↔
      ∀ d ∈ planar c (groundDiff w e) :: countDivisors cfg w neighbours e, d ≠ 0 := by
  rw [List.forall_mem_cons, atgPull, factor, countDivisors, countCovering_of_short h]
  generalize UInt16.ofNat (1 + covering w neighbours e.1) = cnt
  by_cases hmode : cfg.kAtgPlusMode = true
  · rw [if_pos hmode, if_pos hmode, divDouble]
    by_cases hzero : (cnt.toNat : K) = 0
    · simp only [hzero, if_true, Option.bind_none, Option.toList_some, List.map_cons, List.map_nil]
      simp
    · simp only [hzero, if_false, Option.bind_some, Option.toList_some, List.map_cons, List.map_nil,
        pull_isSome_iff]
      simp [hzero]
  · rw [if_neg hmode, if_neg hmode]
    simp [pull_isSome_iff]

omit [Field K] [LinearOrder K] in
theorem getMaxCardinality_returns {neighbours : List Nat} (h : neighbours.length < 2 ^ 16)
    (eds : EdsMap K) : ∃ maxCard, getMaxCardinality w neighbours eds = some maxCard := by
  apply foldlM_returns
  intro maxCard e _
  rw [countCovering_of_short h]
  exact ⟨_, rfl⟩

theorem computeAtgForce_eq {neighbours : List Nat} (h : neighbours.length < 2 ^ 16) {eds : EdsMap K}
    {maxCard : UInt32} (hmax : getMaxCardinality w neighbours eds = some maxCard) :
    computeAtgForce c cfg w neighbours eds =
      some (eds.toList.foldl (fun f e => addForce f (atgPull c cfg w neighbours maxCard e)) (some 0)) := by
  have hstep : atgStep c cfg w neighbours maxCard =
      fun f e => some (addForce f (atgPull c cfg w neighbours maxCard e)) := by
    funext f e
    exact atgStep_eq h maxCard f e
  simp only [computeAtgForce, hmax, hstep, Option.bind_eq_bind, Option.bind_some, foldlM_some]

theorem computeAtgForce_sums {neighbours : List Nat} (h : neighbours.length < 2 ^ 16) (eds : EdsMap K) :
    ∃ f, computeAtgForce c cfg w neighbours eds = some f ∧
      Sums f (atgDivisors c cfg w neighbours eds) := by
  obtain ⟨maxCard, hmax⟩ := getMaxCardinality_returns (w := w) h eds
  refine ⟨_, computeAtgForce_eq h hmax, ?_, ?_⟩
  · exact level_foldl _ (level_atgPull neighbours maxCard) _ _ level_zero
  · rw [foldl_isSome]
    simp only [atgPull_isSome_iff h, atgDivisors, List.forall_mem_flatMap, Option.isSome_some, true_and]

theorem computeSeedForce_sums {now : Time} {tokens : List (SeedsManager.Token K)} {f : Force K}
    (h : computeSeedForce c cfg w now tokens = some f) : Sums f (seedDivisors c w now tokens) := by
  obtain ⟨seeds, hseeds, rfl⟩ := Option.map_eq_some_iff.mp h
  have hfilter : seeds.foldl (fun f seed =>
      if 1000 < calculateDistance c w.position seed.origin then f
      else addForce f (pull c (seed.weight * (cfg.lbReqAtg - w.atgLinkBudget seed.pos))
        (seed.pos - w.position))) (some 0) =
      (seedsInReach c w now tokens).foldl (fun f seed => addForce f
        (pull c (seed.weight * (cfg.lbReqAtg - w.atgLinkBudget seed.pos)) (seed.pos - w.position)))
        (some 0) := by
    rw [seedsInReach, hseeds, Option.getD_some, List.foldl_filter]
    congr 1
    funext f seed
    by_cases hfar : 1000 < calculateDistance c w.position seed.origin <;> simp [inReach, hfar]
  constructor
  · rw [hfilter]
    exact level_foldl _ (fun seed => level_pull c _ _) _ _ level_zero
  · rw [hfilter, foldl_isSome]
    simp only [pull_isSome_iff, seedDivisors, List.forall_mem_map, Option.isSome_some, true_and]

end Forces

section Total

variable {c : CMath K} {cfg : Config K} {w : World K} {now : Time} {neighbours : List Nat}
  {eds : EdsMap K} {busy : Bool} {tokens : List (SeedsManager.Token K)}

theorem level_totalForce (hlen : neighbours.length < 2 ^ 16) {f : Force K}
    (h : computeTotalForce c cfg w now neighbours eds busy tokens = some f) : Level f := by
  obtain ⟨forceAta, hata, hlevelAta, _⟩ : ∃ f, computeAtaForce c cfg w neighbours = some f ∧
    Sums f (ataDivisors c w neighbours) := computeAtaForce_sums hlen
  obtain ⟨forceAtg, hatg, hlevelAtg, _⟩ : ∃ f, computeAtgForce c cfg w neighbours eds = some f ∧
    Sums f (atgDivisors c cfg w neighbours eds) := computeAtgForce_sums hlen eds
  have hlevel {forceSeed : Force K} (hseed : Level forceSeed) :
      Level (addForce (addForce forceAta forceAtg) forceSeed) :=
    level_addForce (level_addForce hlevelAta hlevelAtg) hseed
  simp only [computeTotalForce, hata, hatg, Option.bind_eq_bind, Option.bind_some] at h
  split at h
  · obtain ⟨forceSeed, hseed, h⟩ := Option.bind_eq_some_iff.mp h
    cases h
    exact hlevel (computeSeedForce_sums hseed).1
  · cases h
    exact hlevel level_zero

theorem heading_ne_zero (htol : 0 ≤ cfg.tol) (hlen : neighbours.length < 2 ^ 16) :
    ∀ d ∈ headingDivisors c cfg (computeTotalForce c cfg w now neighbours eds busy tokens),
      d ≠ 0 := by
  cases h : computeTotalForce c cfg w now neighbours eds busy tokens with
  | none => simp [headingDivisors]
  | some f =>
      have hlevel := level_totalForce hlen h
      cases f with
      | none => simp [headingDivisors]
      | some f =>
          rw [headingDivisors]
          split
          · next hlong =>
              simpa using planar_ne_zero_of_long htol (hlevel f rfl) hlong
          · simp

variable [IsStrictOrderedRing K]

theorem doMoveForces_proper (hc : c.SqrtExact) (htol : 0 ≤ cfg.tol)
    (hlen : neighbours.length < 2 ^ 16) {calls : List (Call K)}
    (h : doMoveForces c cfg w now neighbours eds busy tokens = some calls) :
    Proper c cfg.speed calls := by
  obtain ⟨f, hf, rfl⟩ := Option.map_eq_some_iff.mp h
  have hdivisors : ∀ d ∈ headingDivisors c cfg
      (computeTotalForce c cfg w now neighbours eds busy tokens), d ≠ 0 := heading_ne_zero htol hlen
  intro v hv
  cases f with
  | none => simp at hv
  | some f =>
      by_cases hlong : cfg.tol < getLength c f
      · have hne : planar c f ≠ 0 := hdivisors _ (by simp [hf, headingDivisors, hlong])
        obtain rfl : v = SpringForces.getDirection c cfg f := by simpa [hlong] using hv
        rw [SpringForces.getDirection, pull_eq _ _ hne]
        exact ⟨_, rfl, planar_pull hc (pull_eq _ _ hne)⟩
      · simp [hlong] at hv

theorem goBack_proper (hc : c.SqrtExact) (h : goBackDivisor c cfg w ≠ 0) :
    Proper c (cfg.speed * 2) (SpringForces.goBack c cfg w) := by
  intro v hv
  obtain rfl : v = pull c (cfg.speed * 2) (cfg.bsPos - w.position) := by
    simpa [SpringForces.goBack] using hv
  have hpull := pull_eq (cfg.speed * 2) _ h
  rw [hpull]
  exact ⟨_, rfl, planar_pull hc hpull⟩

end Total

section Divisors

variable {c : CMath K} {cfg : Config K} {w : World K} [IsStrictOrderedRing K]

theorem forall_ataDivisors (hc : c.SqrtExact) (neighbours : List Nat) :
    (∀ d ∈ ataDivisors c w neighbours, d ≠ 0) ↔
      ∀ j ∈ neighbours.take (2 ^ 16), ¬ SameColumn (w.positionOf j) w.position := by
  simp only [ataDivisors, List.forall_mem_map, ne_eq, planar_eq_zero_iff hc]

theorem forall_seedDivisors (hc : c.SqrtExact) (now : Time) (tokens : List (SeedsManager.Token K)) :
    (∀ d ∈ seedDivisors c w now tokens, d ≠ 0) ↔
      ∀ seed ∈ seedsInReach c w now tokens, ¬ SameColumn seed.pos w.position := by
  simp only [seedDivisors, List.forall_mem_map, ne_eq, planar_eq_zero_iff hc]

theorem forall_countDivisors {neighbours : List Nat} (hlen : neighbours.length < 2 ^ 16)
    (e : Nat × EdsEntry K) : (∀ d ∈ countDivisors cfg w neighbours e, d ≠ 0) ↔
      (cfg.kAtgPlusMode = true → covering w neighbours e.1 ≠ 65535) := by
  have hle : covering w neighbours e.1 ≤ neighbours.length := List.countP_le_length
  have hwrap : (UInt16.ofNat (1 + covering w neighbours e.1)).toNat = 0 ↔
      covering w neighbours e.1 = 65535 := by
    rw [UInt16.toNat_ofNat']
    omega
  rw [countDivisors, countCovering_of_short hlen]
  generalize UInt16.ofNat (1 + covering w neighbours e.1) = cnt at hwrap
  by_cases hmode : cfg.kAtgPlusMode = true
  · rw [if_pos hmode]
    simp only [Option.toList_some, List.map_cons, List.map_nil, List.forall_mem_singleton, hmode,
      forall_const, ne_eq, Nat.cast_eq_zero, hwrap]
  · rw [if_neg hmode]
    simp [hmode]

theorem forall_atgDivisors (hc : c.SqrtExact) {neighbours : List Nat}
    (hlen : neighbours.length < 2 ^ 16) (eds : EdsMap K) :
    (∀ d ∈ atgDivisors c cfg w neighbours eds, d ≠ 0) ↔
      ∀ e ∈ eds.toList, ¬ SameColumn ⟨e.2.x, e.2.y, 0⟩ w.position ∧
        (cfg.kAtgPlusMode = true → covering w neighbours e.1 ≠ 65535) := by
  have hground (e : Nat × EdsEntry K) :
      planar c (groundDiff w e) = 0 ↔ SameColumn ⟨e.2.x, e.2.y, 0⟩ w.position :=
    planar_eq_zero_iff hc _ _
  simp only [atgDivisors, List.forall_mem_flatMap, List.forall_mem_cons, ne_eq, hground,
    forall_countDivisors hlen]

end Divisors

section Main

variable {c : CMath K} {cfg : Config K} {w : World K} {now : Time} {neighbours : List Nat}
  {eds : EdsMap K} {busy : Bool} {tokens : List (SeedsManager.Token K)} [IsStrictOrderedRing K]

theorem clear_of_neverSingular (hc : c.SqrtExact)
    (h : NeverSingular c cfg w now neighbours eds busy tokens) :
    Clear c cfg w now neighbours eds busy tokens := by
  have hmove := h.move
  rw [moveDivisors, List.forall_mem_append] at hmove
  obtain ⟨hata, hrest⟩ := hmove
  have hrest (hlen : neighbours.length < 2 ^ 16) :
      ((∀ d ∈ atgDivisors c cfg w neighbours eds, d ≠ 0) ∧
        ∀ d ∈ if usesSeeds eds busy then seedDivisors c w now tokens else [], d ≠ 0) := by
    rw [if_pos hlen, List.forall_mem_append, List.forall_mem_append] at hrest
    exact hrest.1
  refine ⟨(forall_ataDivisors hc neighbours).mp hata, ?_, ?_, ?_, ?_⟩
  · intro hlen e he
    exact ((forall_atgDivisors hc hlen eds).mp (hrest hlen).1 e he).1
  · intro hlen hmode e he
    exact ((forall_atgDivisors hc hlen eds).mp (hrest hlen).1 e he).2 hmode
  · intro hlen huses
    have hseeds := (hrest hlen).2
    rw [if_pos huses] at hseeds
    exact (forall_seedDivisors hc now tokens).mp hseeds
  · exact mt (planar_eq_zero_iff hc _ _).mpr h.goBack

theorem neverSingular_of_clear (hc : c.SqrtExact) (htol : 0 ≤ cfg.tol)
    (h : Clear c cfg w now neighbours eds busy tokens) :
    NeverSingular c cfg w now neighbours eds busy tokens := by
  have hback : goBackDivisor c cfg w ≠ 0 := mt (planar_eq_zero_iff hc _ _).mp h.station
  refine ⟨?_, hback, ?_, goBack_proper hc hback⟩
  · rw [moveDivisors, List.forall_mem_append]
    refine ⟨(forall_ataDivisors hc neighbours).mpr h.neighbour, ?_⟩
    split
    · next hlen =>
        rw [List.forall_mem_append, List.forall_mem_append]
        refine ⟨⟨?_, ?_⟩, heading_ne_zero htol hlen⟩
        · exact (forall_atgDivisors hc hlen eds).mpr fun e he =>
            ⟨h.device hlen e he, fun hmode => h.count hlen hmode e he⟩
        · split
          · next huses => exact (forall_seedDivisors hc now tokens).mpr (h.seed hlen huses)
          · simp
    · simp
  · intro calls hcalls
    by_cases hlen : neighbours.length < 2 ^ 16
    · exact doMoveForces_proper hc htol hlen hcalls
    · have hnone : computeAtaForce c cfg w neighbours = none :=
        forEach_of_long (Nat.le_of_not_lt hlen) _ _
      simp [doMoveForces, computeTotalForce, hnone] at hcalls

/-- The forces and headings divide by zero exactly when the UAV is straight
above or below what draws it, or a count has come round. -/
theorem neverSingular_iff (hc : c.SqrtExact) (htol : 0 ≤ cfg.tol) :
    NeverSingular c cfg w now neighbours eds busy tokens ↔
      Clear c cfg w now neighbours eds busy tokens :=
  ⟨clear_of_neverSingular hc, neverSingular_of_clear hc htol⟩

end Main

section Above

noncomputable def realMath : CMath ℝ := ⟨Real.sqrt, fun y x => Complex.arg ⟨x, y⟩, Real.pi⟩

theorem realMath_sqrtExact : realMath.SqrtExact :=
  fun x hx => ⟨Real.sqrt_nonneg x, Real.mul_self_sqrt hx⟩

noncomputable def patrolConfig : Config ℝ := ⟨1, 17, 30, 1 / 2, 10, 10, 3, 0, 100, true, [2]⟩

noncomputable def hovering : World ℝ where
  position := ⟨1000, 30, 10⟩
  entries := []
  address j := 100 + j
  positionOf _ := ⟨0, 30, 10⟩
  coverage _ := ∅
  ataLinkBudget _ := 30
  atgLinkBudget _ := 30
  clustering := ⟨fun _ _ => some fun _ => 0, fun _ _ => none, fun _ => 0⟩
  junkRatio := 0
  junkPause := 0
  junkEntry := ⟨0, 0, 0⟩
  junkToken := ⟨0, 0, 0, 0, 0, 0⟩

noncomputable def hoveredEds : EdsMap ℝ := (∅ : EdsMap ℝ).insert 5 ⟨1000, 30, 0⟩

theorem neverSingular_iff_hovering :
    NeverSingular realMath patrolConfig hovering 0 [] hoveredEds false [] ↔
      Clear realMath patrolConfig hovering 0 [] hoveredEds false [] :=
  neverSingular_iff realMath_sqrtExact (by norm_num [patrolConfig])

theorem hovering_singular :
    ¬ ∀ (cfg : Config ℝ) (w : World ℝ) (now : Time) (neighbours : List Nat) (eds : EdsMap ℝ)
      (busy : Bool) (tokens : List (SeedsManager.Token ℝ)), 0 ≤ cfg.tol →
      NeverSingular realMath cfg w now neighbours eds busy tokens := by
  intro h
  have hclear := clear_of_neverSingular realMath_sqrtExact
    (h patrolConfig hovering 0 [] hoveredEds false [] (by norm_num [patrolConfig]))
  have hmem : (5, ⟨1000, 30, 0⟩) ∈ hoveredEds.toList := by
    rw [Std.ExtTreeMap.mem_toList_iff_getElem?_eq_some, hoveredEds]
    simp
  exact hclear.device (by decide) _ hmem ⟨rfl, rfl⟩

end Above

end UavMonitoring.Headings
