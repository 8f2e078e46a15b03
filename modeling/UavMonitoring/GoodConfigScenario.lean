import UavMonitoring.RedundantGroup

namespace UavMonitoring.GoodConfigScenario

open Basics CounterLoop SpringForces RedundantGroup

variable {K : Type} [Field K] [LinearOrder K]

section Forces

variable (c : CMath K) (cfg : Config K) (w : World K)

/-- The pair is (`m_neighbours`, `m_allNeighbours`). -/
def setNeighboursList : Option (List Nat × List Nat) := VirtualSprings.setNeighboursList cfg w

/-- One round reads `m_neighbours[j]`; an error is a `j` beyond the end of it. -/
def ataRound (neighbours : List Nat) (f : Force K) (j : Nat) : Except Nat (Force K) :=
  match neighbours[j]? with
  | some node =>
      let disp := cfg.lbReqAta - w.ataLinkBudget node
      .ok (addForce f (pull c (cfg.kAta * disp) (w.positionOf node - w.position)))
  | none => .error j

/-- The counter has 16 bits, so the loop never ends when `m_allNeighbours` is
longer than it can count. -/
def computeAtaForce (neighbours allNeighbours : List Nat) : Option (Except Nat (Force K)) :=
  match (List.range (min allNeighbours.length (2 ^ 16))).foldlM (ataRound c cfg w neighbours) (some 0) with
  | .error j => some (.error j)
  | .ok f => if allNeighbours.length < 2 ^ 16 then some (.ok f) else none

end Forces

section Reads

variable (c : CMath K) (cfg : Config K) (w : World K)

theorem foldlM_ataRound (neighbours js : List Nat) (f : Force K) :
    (∃ j, js.foldlM (ataRound c cfg w neighbours) f = .error j) ↔ ∃ j ∈ js, neighbours.length ≤ j := by
  induction js generalizing f with
  | nil => simp [pure, Except.pure]
  | cons j js ih =>
      simp only [List.foldlM_cons, List.mem_cons, exists_eq_or_imp]
      by_cases hj : neighbours.length ≤ j
      · have hround : ataRound c cfg w neighbours f j = .error j := by
          rw [ataRound, List.getElem?_eq_none hj]
        rw [hround]
        exact iff_of_true ⟨j, rfl⟩ (.inl hj)
      · obtain ⟨f', hround⟩ : ∃ f', ataRound c cfg w neighbours f j = .ok f' := by
          rw [ataRound, List.getElem?_eq_getElem (Nat.lt_of_not_le hj)]
          exact ⟨_, rfl⟩
        rw [hround, or_iff_right hj]
        exact ih f'

theorem computeAtaForce_inBounds (neighbours allNeighbours : List Nat) :
    (∀ j, computeAtaForce c cfg w neighbours allNeighbours ≠ some (.error j)) ↔
      min allNeighbours.length (2 ^ 16) ≤ neighbours.length := by
  have herror : (∃ j, computeAtaForce c cfg w neighbours allNeighbours = some (.error j)) ↔
      ∃ j ∈ List.range (min allNeighbours.length (2 ^ 16)), neighbours.length ≤ j := by
    rw [← foldlM_ataRound c cfg w neighbours _ (some 0), computeAtaForce]
    cases (List.range _).foldlM (ataRound c cfg w neighbours) (some 0) with
    | error j => simp
    | ok f => simp
  rw [← not_exists, herror]
  simp only [List.mem_range, not_exists, not_and, Nat.not_le]
  constructor
  · intro h
    by_contra hlt
    exact absurd (h _ (Nat.lt_of_not_le hlt)) (lt_irrefl _)
  · exact fun hle j hj => hj.trans_le hle

def FarCovering : Prop :=
  ∃ e ∈ w.entries, e.distance ≠ 1 ∧ ∃ j ∈ cfg.ataNodes, w.address j = e.destAddr ∧
    0 < (w.coverage j).size

omit [Field K] [LinearOrder K] in
theorem length_hops_eq_or_lt (e : RoutingTableEntry) (js : List Nat) :
    let near := js.countP fun j => decide (w.address j = e.destAddr) && decide (e.distance = 1)
    let heard := js.countP fun j =>
      decide (w.address j = e.destAddr) && decide (0 < (w.coverage j).size ∨ e.distance = 1)
    near ≤ heard ∧ (near < heard ↔ e.distance ≠ 1 ∧ ∃ j ∈ js, w.address j = e.destAddr ∧
      0 < (w.coverage j).size) := by
  dsimp only
  by_cases hd : e.distance = 1
  · simp [hd]
  · have hnear : (js.countP fun j => decide (w.address j = e.destAddr) && decide (e.distance = 1)) = 0 := by
      simp [hd]
    rw [hnear]
    refine ⟨Nat.zero_le _, ?_⟩
    simp [List.countP_pos_iff, hd]

omit [Field K] [LinearOrder K] in
theorem length_oneHop_lt_iff :
    (oneHop cfg w).length ≤ (anyHop cfg w).length ∧
      ((oneHop cfg w).length < (anyHop cfg w).length ↔ FarCovering cfg w) := by
  rw [oneHop, anyHop, List.length_flatMap, List.length_flatMap]
  simp only [← List.countP_eq_length_filter]
  have hle := fun e (_ : e ∈ w.entries) => (length_hops_eq_or_lt w e cfg.ataNodes).1
  refine ⟨List.sum_le_sum hle, ?_, ?_⟩
  · intro hlt
    obtain ⟨e, he, hlt⟩ := List.exists_lt_of_sum_lt _ _ hlt
    obtain ⟨hd, j, hj, hcover⟩ := (length_hops_eq_or_lt w e cfg.ataNodes).2.mp hlt
    exact ⟨e, he, hd, j, hj, hcover⟩
  · rintro ⟨e, he, hfar⟩
    exact List.sum_lt_sum _ _ hle ⟨e, he, (length_hops_eq_or_lt w e cfg.ataNodes).2.mpr hfar⟩

/-- The reads stay inside `m_neighbours` unless a UAV further away covers a
device and the list is not longer than what the counter goes through. -/
theorem computeAtaForce_inBounds_iff {neighbours allNeighbours : List Nat}
    (h : setNeighboursList cfg w = some (neighbours, allNeighbours)) :
    (∀ j, computeAtaForce c cfg w neighbours allNeighbours ≠ some (.error j)) ↔
      ¬ FarCovering cfg w ∨ 2 ^ 16 ≤ (oneHop cfg w).length := by
  obtain ⟨rfl, rfl⟩ := Prod.mk.inj (setNeighboursList_eq cfg w h)
  obtain ⟨hle, hlt⟩ := length_oneHop_lt_iff cfg w
  rw [computeAtaForce_inBounds, ← hlt]
  omega

def farWorld : World ℚ where
  position := ⟨0, 0, 10⟩
  entries := [⟨2, 2⟩]
  address j := j
  positionOf _ := ⟨100, 0, 10⟩
  coverage _ := (∅ : EdsMonitor.EdsMap ℚ).insert 5 ⟨30, 40, 0⟩
  ataLinkBudget _ := 20
  atgLinkBudget _ := 20
  clustering := ⟨fun _ _ => none, fun _ _ => none, fun _ => 0⟩
  junkRatio := 0
  junkPause := 0
  junkEntry := ⟨0, 0, 0⟩
  junkToken := ⟨0, 0, 0, 0, 0, 0⟩

def farConfig : Config ℚ := ⟨1, 17, 30, 1 / 2, 10, 10, 0, 0, 0, true, [1, 2]⟩

theorem computeAtaForce_inBounds_iff_far :
    (∀ j, computeAtaForce rationalMath farConfig farWorld [] [2] ≠ some (.error j)) ↔
      ¬ FarCovering farConfig farWorld ∨ 2 ^ 16 ≤ (oneHop farConfig farWorld).length :=
  computeAtaForce_inBounds_iff rationalMath farConfig farWorld (by decide +kernel)

theorem computeAtaForce_outOfBounds :
    ¬ ∀ (cfg : Config ℚ) (w : World ℚ) (neighbours allNeighbours : List Nat),
      setNeighboursList cfg w = some (neighbours, allNeighbours) →
      ∀ j, computeAtaForce rationalMath cfg w neighbours allNeighbours ≠ some (.error j) := by
  intro hall
  exact hall farConfig farWorld [] [2] (by decide +kernel) 0 rfl

end Reads

end UavMonitoring.GoodConfigScenario
