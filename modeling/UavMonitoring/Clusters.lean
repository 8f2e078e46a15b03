import UavMonitoring.CounterLoop
import UavMonitoring.EdsMonitor

namespace UavMonitoring.Clusters

open Std Basics EdsMonitor CounterLoop

variable {K : Type} [Field K]

structure Point (K : Type) where
  id : Nat
  x : K
  y : K
  group : Nat
deriving DecidableEq

structure ClusterInfo (K : Type) where
  id : UInt16
  lastTime : Time
  velocity : Vector3D K
  lastPosition : Vector3D K
  weight : K
deriving DecidableEq

/-- No queue of a table is ever empty, so what its ends are then is free. -/
def frontOf (q : List (EdsEntry K)) : EdsEntry K := q.headD ⟨0, 0, 0⟩

def backOf (q : List (EdsEntry K)) : EdsEntry K := q.getLastD ⟨0, 0, 0⟩

/-- What other code answers while clusters are formed: the groups `lloyd` gives
the points, if it comes back, the value of the silhouette (`none` for a NaN),
and the `n`-th `GetInteger` of the random variable. -/
structure Clustering (K : Type) where
  lloyd : List (Point K) → Nat → Option (Nat → Nat)
  silhoutte : List (Point K) → Nat → Option K
  draw : Nat → Nat

def points (m : Monitor K) : List (Point K) :=
  m.edsLost.toList.map fun e => ⟨e.1, (backOf e.2).x, (backOf e.2).y, 0⟩

def setGroups (pt : List (Point K)) (groups : Nat → Nat) : List (Point K) :=
  pt.mapIdx fun i p => { p with group := groups i }

def tryClusters [LinearOrder K] (g : Clustering K) (pt : List (Point K)) :
    List Nat → Option (Nat × List (Point K))
  | [] => some (1, pt)
  | j :: js =>
      if j ≤ pt.length then
        match g.lloyd pt j with
        | none => none
        | some groups =>
            let pt' := setGroups pt groups
            match g.silhoutte pt' j with
            | some sil => if 8 / 10 < sil then some (j, pt') else tryClusters g pt js
            | none => tryClusters g pt js
      else tryClusters g pt js

def createClusters [LinearOrder K] (g : Clustering K) (kMax : Nat) (m : Monitor K) :
    Option (Nat × List (Point K)) :=
  if m.edsLost.size = 0 then some (0, [])
  else tryClusters g (points m) ((List.range (kMax + 1)).drop 2)

def centerStep (k : Nat) (s : Nat × Vector3D K) (p : Point K) : Nat × Vector3D K :=
  if p.group = k then (s.1 + 1, ⟨s.2.x + p.x, s.2.y + p.y, s.2.z⟩) else s

/-- An empty group divides by zero here; no use is made of its centre. -/
def computeClusterCenter (pt : List (Point K)) (k : Nat) : Option (Vector3D K) :=
  (accumulate 16 pt (centerStep k) (0, 0)).map fun s => ⟨s.2.x / s.1, s.2.y / s.1, s.2.z⟩

def previousStep (lost : HistoryMap K) (k : Nat) (s : Nat × Vector3D K) (p : Point K) :
    Nat × Vector3D K :=
  if p.group = k then
    match lost[p.id]? with
    | some q => if q.length < 2 then s else (s.1 + 1, s.2 + ⟨(frontOf q).x, (frontOf q).y, 0⟩)
    | none => s
  else s

def computeCenterMassVel [LinearOrder K] (c : CMath K) (lost : HistoryMap K) (pt : List (Point K))
    (k : Nat) (centerMassCur : Vector3D K) : Option (Vector3D K) :=
  (accumulate 16 pt (previousStep lost k) (0, 0)).map fun s =>
    if getLength c s.2 = 0 then 0 else centerMassCur - ⟨s.2.x / s.1, s.2.y / s.1, s.2.z⟩

def lastTimeStep (lost : HistoryMap K) (k : Nat) (lastTime : Time) (p : Point K) : Time :=
  if p.group = k then
    match lost[p.id]? with
    | some q => if lastTime < (backOf q).time then (backOf q).time else lastTime
    | none => lastTime
  else lastTime

def getLastTimeOf (lost : HistoryMap K) (pt : List (Point K)) (k : Nat) : Option Time :=
  accumulate 16 pt (lastTimeStep lost k) (seconds 0)

def clusterMembers (pt : List (Point K)) : Option (Nat → Nat) :=
  accumulate 16 pt (fun members p => Function.update members p.group (members p.group + 1)) fun _ => 0

def clusterInfo [LinearOrder K] (c : CMath K) (draw : Nat → Nat) (lost : HistoryMap K)
    (pt : List (Point K)) (members : Nat → Nat) (n i : Nat) : Option (Option (ClusterInfo K)) := do
  let centerMass ← computeClusterCenter pt i
  let centerMassVel ← computeCenterMassVel c lost pt i centerMass
  let lastTime ← getLastTimeOf lost pt i
  if 0 < getLength c centerMassVel then
    some (some ⟨UInt16.ofNat (draw n), lastTime, centerMassVel, centerMass, members i⟩)
  else some none

def regroup (pt : List (Point K)) (k : Nat) : Option (List (Point K)) :=
  if k = 1 then accumulate 16 pt (fun pt' p => pt' ++ [{ p with group := 0 }]) [] else some pt

def computeClustersInfo [LinearOrder K] (c : CMath K) (draw : Nat → Nat) (m : Monitor K)
    (pt : List (Point K)) (k : Nat) : Option (List (ClusterInfo K)) :=
  if k = 0 then some []
  else do
    let pt ← regroup pt k
    let members ← clusterMembers pt
    (List.range k).foldlM (fun clusters i => do
      let info ← clusterInfo c draw m.edsLost pt members clusters.length i
      some (clusters ++ info.toList)) []

theorem clusterInfo_returns [LinearOrder K] (c : CMath K) (draw : Nat → Nat) (lost : HistoryMap K)
    {pt : List (Point K)} (hlen : pt.length < 2 ^ 16) (members : Nat → Nat) (n i : Nat) :
    ∃ info, clusterInfo c draw lost pt members n i = some info := by
  obtain ⟨center, hcenter⟩ : ∃ v, computeClusterCenter pt i = some v :=
    ⟨_, by rw [computeClusterCenter, accumulate_of_short hlen]; rfl⟩
  obtain ⟨velocity, hvelocity⟩ : ∃ v, computeCenterMassVel c lost pt i center = some v :=
    ⟨_, by rw [computeCenterMassVel, accumulate_of_short hlen]; rfl⟩
  obtain ⟨time, htime⟩ : ∃ t, getLastTimeOf lost pt i = some t := ⟨_, accumulate_of_short hlen _ _⟩
  simp only [clusterInfo, hcenter, hvelocity, htime, Option.bind_eq_bind, Option.bind_some]
  split
  · exact ⟨_, rfl⟩
  · exact ⟨_, rfl⟩

theorem computeClustersInfo_returns [LinearOrder K] (c : CMath K) (draw : Nat → Nat) (m : Monitor K)
    {pt : List (Point K)} (hlen : pt.length < 2 ^ 16) (k : Nat) :
    ∃ clusters, computeClustersInfo c draw m pt k = some clusters ∧ clusters.length ≤ k := by
  by_cases hk : k = 0
  · exact ⟨[], if_pos hk, Nat.zero_le _⟩
  obtain ⟨pt', hregroup, hlen'⟩ : ∃ pt', regroup pt k = some pt' ∧ pt'.length < 2 ^ 16 := by
    rw [regroup]
    split
    · exact ⟨_, accumulate_of_short hlen _ _, by
        rwa [foldl_collect, List.nil_append, List.length_map]⟩
    · exact ⟨pt, rfl, hlen⟩
  have hmembers : clusterMembers pt' = some _ := accumulate_of_short hlen' _ _
  have hloop (is : List Nat) (clusters : List (ClusterInfo K)) (members : Nat → Nat) :
      ∃ r, is.foldlM (fun clusters i => do
        let info ← clusterInfo c draw m.edsLost pt' members clusters.length i
        some (clusters ++ info.toList)) clusters = some r ∧ r.length ≤ clusters.length + is.length := by
    induction is generalizing clusters with
    | nil => exact ⟨clusters, rfl, le_rfl⟩
    | cons i is ih =>
        obtain ⟨info, hinfo⟩ := clusterInfo_returns c draw m.edsLost hlen' members clusters.length i
        obtain ⟨r, hr, hle⟩ := ih (clusters ++ info.toList)
        have hone : info.toList.length ≤ 1 := by cases info <;> simp
        rw [List.length_append] at hle
        rw [List.foldlM_cons, hinfo, List.length_cons]
        exact ⟨r, hr, by omega⟩
  obtain ⟨r, hr, hle⟩ := hloop (List.range k) [] _
  rw [computeClustersInfo, if_neg hk, hregroup]
  simp only [Option.bind_eq_bind, Option.bind_some, hmembers]
  exact ⟨r, hr, by simpa using hle⟩

def direction [LinearOrder K] (theta : K) : Nat :=
  if 0 < theta ∧ theta < 45 then 0
  else if 45 < theta ∧ theta ≤ 90 then 1
  else if 90 < theta ∧ theta ≤ 135 then 2
  else if 135 < theta ∧ theta ≤ 180 then 3
  else if 180 < theta ∧ theta ≤ 225 then 4
  else if 225 < theta ∧ theta ≤ 270 then 5
  else if 270 < theta ∧ theta ≤ 315 then 6
  else 7

def directionOf [LinearOrder K] (c : CMath K) (q : List (EdsEntry K)) : Nat :=
  let e₁ := frontOf q
  let e₂ := backOf q
  direction (c.atan2 (e₂.y - e₁.y) (e₂.x - e₁.x) * 180 / c.pi)

def directionCluster [LinearOrder K] (c : CMath K) (m : Monitor K) (i : Nat) : HistoryMap K :=
  m.edsLost.filter fun _ q => decide (2 ≤ q.length) && decide (directionOf c q = i)

/-- The weight is the one the constructor of the structure sets. -/
def directionInfo (i : Nat) (cluster : HistoryMap K) : Option (ClusterInfo K) :=
  if cluster.size < 4 then none
  else cluster.toList.head?.map fun e =>
    let e₁ := frontOf e.2
    let e₂ := backOf e.2
    ⟨UInt16.ofNat i, e₂.time, ⟨e₂.x - e₁.x, e₂.y - e₁.y, 0⟩, ⟨e₂.x, e₂.y, 0⟩, 0⟩

def getClusterInfo [LinearOrder K] (c : CMath K) (m : Monitor K) : List (ClusterInfo K) :=
  (List.range 8).filterMap fun i => directionInfo i (directionCluster c m i)

end UavMonitoring.Clusters
