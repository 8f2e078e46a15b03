import Mathlib.Algebra.Order.Field.Basic
import UavMonitoring.Basics
import UavMonitoring.CounterLoop

namespace UavMonitoring.Stiffness

open Basics CounterLoop

variable {K : Type} [Field K] [LinearOrder K]

structure Config (K : Type) where
  rangeAta : K
  rangeAtg : K
  ataNodes : List Nat
  atgNodes : List Nat

structure World (K : Type) where
  position : Vector3D K
  positionOf : Nat → Vector3D K

section Model

variable (c : CMath K) (cfg : Config K) (w : World K)

def onGround (pos : Vector3D K) : Vector3D K := { pos with z := 0 }

def groundDistance (pos pos' : Vector3D K) : K := calculateDistance c (onGround pos) (onGround pos')

/-- The two overloads of `ComputeNumGroudNodes` go through the same loop. -/
def countGroundNodes (pos : Vector3D K) : Option Nat :=
  accumulate 16 cfg.atgNodes (fun counter j =>
    if groundDistance c pos (w.positionOf j) < cfg.rangeAtg then counter + 1 else counter) 0

def computeNumGroudNodes : Option Nat := countGroundNodes c cfg w w.position

def computeNumGroudNodesOf (node : Nat) : Option Nat := countGroundNodes c cfg w (w.positionOf node)

def getMaxNodesNeighbours : Option Nat :=
  forEach 16 cfg.ataNodes (fun curMax j =>
    if groundDistance c w.position (w.positionOf j) < cfg.rangeAta then
      (computeNumGroudNodesOf c cfg w j).map fun numAtgNodes =>
        if curMax < numAtgNodes then numAtgNodes else curMax
    else some curMax) 0

/-- `ratio` is the division as the types of its operands have it. -/
def katg (ratio : Nat → Nat → K) : Option K := do
  let coveredNodes ← computeNumGroudNodes c cfg w
  let maxNodesNeighbours ← getMaxNodesNeighbours c cfg w
  some (if maxNodesNeighbours = 0 then 1 else ratio coveredNodes maxNodesNeighbours)

/-- `ComputeKatg` of the model that the other two were copied from; both counts
are `double`. -/
def computeKatg : Option K :=
  katg c cfg w fun coveredNodes maxNodesNeighbours => (coveredNodes : K) / (maxNodesNeighbours : K)

/-- `ComputeKatg` of `VirtualSpringsQos2dMobilityModel`; both counts are `int`. -/
def computeKatgQos : Option K :=
  katg c cfg w fun coveredNodes maxNodesNeighbours => ((coveredNodes / maxNodesNeighbours : Nat) : K)

/-- `ComputeKatg` of `VirtualSpringsWithPing`; both counts are `int`. -/
def computeKatgWithPing : Option K :=
  katg c cfg w fun coveredNodes maxNodesNeighbours => ((coveredNodes / maxNodesNeighbours : Nat) : K)

end Model

section Purpose

variable (c : CMath K) (cfg : Config K) (w : World K)

def coveredFrom (pos : Vector3D K) : Nat :=
  cfg.atgNodes.countP fun j => decide (groundDistance c pos (w.positionOf j) < cfg.rangeAtg)

def neighbours : List Nat :=
  cfg.ataNodes.filter fun j => decide (groundDistance c w.position (w.positionOf j) < cfg.rangeAta)

def mostCovered : Nat := ((neighbours c cfg w).map fun j => coveredFrom c cfg w (w.positionOf j)).foldr max 0

def stiffness : K :=
  if mostCovered c cfg w = 0 then 1
  else (coveredFrom c cfg w w.position : K) / (mostCovered c cfg w : K)

structure Agree : Prop where
  base : computeKatg c cfg w = some (stiffness c cfg w)
  qos : computeKatgQos c cfg w = some (stiffness c cfg w)
  withPing : computeKatgWithPing c cfg w = some (stiffness c cfg w)
  positive : 0 < coveredFrom c cfg w w.position → 0 < stiffness c cfg w

end Purpose

section Counts

variable {c : CMath K} {cfg : Config K} {w : World K}

theorem countGroundNodes_eq_some_iff (pos : Vector3D K) (n : Nat) :
    countGroundNodes c cfg w pos = some n ↔ cfg.atgNodes.length < 2 ^ 16 ∧ coveredFrom c cfg w pos = n := by
  have hcount := foldl_count (· + 1) id (fun _ => rfl)
    (fun j => groundDistance c pos (w.positionOf j) < cfg.rangeAtg) cfg.atgNodes 0
  rw [Nat.zero_add, id, id] at hcount
  rw [countGroundNodes, accumulate_eq_some_iff, hcount, coveredFrom]

theorem foldl_raise (f : Nat → Nat) (p : Nat → Prop) [DecidablePred p] (js : List Nat) (n : Nat) :
    js.foldl (fun curMax j => if p j then (if curMax < f j then f j else curMax) else curMax) n =
      max n (((js.filter fun j => decide (p j)).map f).foldr max 0) := by
  induction js generalizing n with
  | nil => simp
  | cons j js ih =>
      rw [List.foldl_cons, ih]
      by_cases hj : p j
      · simp only [hj, if_true, List.filter_cons, decide_true, List.map_cons, List.foldr_cons]
        split <;> omega
      · simp [hj]

theorem getMaxNodesNeighbours_eq (hatg : cfg.atgNodes.length < 2 ^ 16) :
    getMaxNodesNeighbours c cfg w =
      if cfg.ataNodes.length < 2 ^ 16 then some (mostCovered c cfg w) else none := by
  have hcount (j : Nat) : computeNumGroudNodesOf c cfg w j = some (coveredFrom c cfg w (w.positionOf j)) :=
    (countGroundNodes_eq_some_iff _ _).mpr ⟨hatg, rfl⟩
  have hround : (fun (curMax : Nat) (j : Nat) =>
      if groundDistance c w.position (w.positionOf j) < cfg.rangeAta then
        (computeNumGroudNodesOf c cfg w j).map fun n => if curMax < n then n else curMax
      else some curMax) = fun curMax j => some (
      if groundDistance c w.position (w.positionOf j) < cfg.rangeAta then
        (if curMax < coveredFrom c cfg w (w.positionOf j) then coveredFrom c cfg w (w.positionOf j)
          else curMax)
      else curMax) := by
    funext curMax j
    rw [hcount, Option.map_some]
    split <;> rfl
  rw [getMaxNodesNeighbours, hround, forEach]
  apply if_congr Iff.rfl _ rfl
  rw [foldlM_some, foldl_raise (fun j => coveredFrom c cfg w (w.positionOf j)), Nat.zero_max]
  rfl

theorem katg_eq_some_iff (ratio : Nat → Nat → K) (k : K) : katg c cfg w ratio = some k ↔
    cfg.atgNodes.length < 2 ^ 16 ∧ cfg.ataNodes.length < 2 ^ 16 ∧
      (if mostCovered c cfg w = 0 then 1
        else ratio (coveredFrom c cfg w w.position) (mostCovered c cfg w)) = k := by
  rw [katg]
  by_cases hatg : cfg.atgNodes.length < 2 ^ 16
  · have hcount : computeNumGroudNodes c cfg w = some (coveredFrom c cfg w w.position) :=
      (countGroundNodes_eq_some_iff _ _).mpr ⟨hatg, rfl⟩
    rw [hcount, getMaxNodesNeighbours_eq hatg, and_iff_right hatg]
    by_cases hata : cfg.ataNodes.length < 2 ^ 16
    · rw [if_pos hata, and_iff_right hata]
      exact Option.some_inj
    · rw [if_neg hata]
      exact iff_of_false (by simp) fun h => hata h.1
  · have hcount : computeNumGroudNodes c cfg w = none := by
      rw [Option.eq_none_iff_forall_ne_some]
      exact fun n hn => hatg ((countGroundNodes_eq_some_iff _ _).mp hn).1
    rw [hcount]
    exact iff_of_false (by simp) fun h => hatg h.1

end Counts

section Agreement

variable [IsStrictOrderedRing K]

theorem cast_div_eq_iff {a b : Nat} (hb : b ≠ 0) : ((a / b : Nat) : K) = (a : K) / (b : K) ↔ b ∣ a := by
  have hcast : (b : K) ≠ 0 := Nat.cast_ne_zero.mpr hb
  rw [eq_div_iff hcast, ← Nat.cast_mul, Nat.cast_inj, ← Nat.dvd_iff_div_mul_eq]

/-- Two of the models truncate the ratio, so the three agree just when there is
nothing to truncate. -/
theorem computeKatg_agree_iff (c : CMath K) (cfg : Config K) (w : World K) :
    Agree c cfg w ↔ cfg.atgNodes.length < 2 ^ 16 ∧ cfg.ataNodes.length < 2 ^ 16 ∧
      (mostCovered c cfg w = 0 ∨ mostCovered c cfg w ∣ coveredFrom c cfg w w.position) := by
  have hint : (if mostCovered c cfg w = 0 then 1
      else ((coveredFrom c cfg w w.position / mostCovered c cfg w : Nat) : K)) = stiffness c cfg w ↔
        mostCovered c cfg w = 0 ∨ mostCovered c cfg w ∣ coveredFrom c cfg w w.position := by
    rw [stiffness]
    by_cases h0 : mostCovered c cfg w = 0
    · simp [h0]
    · rw [if_neg h0, if_neg h0, cast_div_eq_iff h0, or_iff_right h0]
  constructor
  · rintro ⟨_, hqos, _, _⟩
    rw [computeKatgQos, katg_eq_some_iff] at hqos
    exact ⟨hqos.1, hqos.2.1, hint.mp hqos.2.2⟩
  · rintro ⟨hatg, hata, hdvd⟩
    refine ⟨?_, ?_, ?_, fun hcovered => ?_⟩
    · exact (katg_eq_some_iff _ _).mpr ⟨hatg, hata, rfl⟩
    · exact (katg_eq_some_iff _ _).mpr ⟨hatg, hata, hint.mpr hdvd⟩
    · exact (katg_eq_some_iff _ _).mpr ⟨hatg, hata, hint.mpr hdvd⟩
    · rw [stiffness]
      split
      · exact one_pos
      · next h0 => exact div_pos (Nat.cast_pos.mpr hcovered) (Nat.cast_pos.mpr (Nat.pos_of_ne_zero h0))

def springConfig : Config ℚ := ⟨100, 10, [1], [2, 3]⟩

def sideBySide : World ℚ where
  position := ⟨0, 0, 10⟩
  positionOf j := if j = 1 then ⟨15, 0, 10⟩ else if j = 2 then ⟨8, 0, 0⟩ else ⟨20, 0, 0⟩

theorem computeKatg_agree_iff_sideBySide :
    Agree rationalMath springConfig sideBySide ↔ springConfig.atgNodes.length < 2 ^ 16 ∧
      springConfig.ataNodes.length < 2 ^ 16 ∧ (mostCovered rationalMath springConfig sideBySide = 0 ∨
        mostCovered rationalMath springConfig sideBySide ∣
          coveredFrom rationalMath springConfig sideBySide sideBySide.position) :=
  computeKatg_agree_iff rationalMath springConfig sideBySide

theorem computeKatgQos_truncates :
    ¬ ∀ (cfg : Config ℚ) (w : World ℚ), cfg.atgNodes.length < 2 ^ 16 → cfg.ataNodes.length < 2 ^ 16 →
      Agree rationalMath cfg w := by
  intro hall
  have hqos := (hall springConfig sideBySide (by decide) (by decide)).qos
  have hzero : computeKatgQos rationalMath springConfig sideBySide = some 0 := by decide +kernel
  have hhalf : stiffness rationalMath springConfig sideBySide = 1 / 2 := by decide +kernel
  rw [hzero, hhalf] at hqos
  exact absurd hqos (by decide +kernel)

end Agreement

end UavMonitoring.Stiffness
