import UavMonitoring.Basics
import UavMonitoring.BoundedQueue
import UavMonitoring.MapSweep

namespace UavMonitoring.EdsMonitor

open Std Basics BoundedQueue MapSweep

variable {K : Type}

structure EdsEntry (K : Type) where
  x : K
  y : K
  time : Time
deriving DecidableEq

abbrev EdsMap (K : Type) := ExtTreeMap Nat (EdsEntry K)

/-- Queues are lists with the front first. -/
abbrev HistoryMap (K : Type) := ExtTreeMap Nat (List (EdsEntry K))

structure Monitor (K : Type) where
  eds : EdsMap K
  edsHist : List (EdsEntry K)
  edsSingleHist : HistoryMap K
  edsLost : HistoryMap K

def empty : Monitor K := ⟨∅, [], ∅, ∅⟩

def updateHistoryOf (id : Nat) (pos : Vector3D K) (delta : Time) (m : Monitor K) : Monitor K :=
  let e : EdsEntry K := ⟨pos.x, pos.y, delta⟩
  match m.edsSingleHist[id]? with
  | none => { m with edsSingleHist := m.edsSingleHist.insert id [e] }
  | some q => { m with edsSingleHist := m.edsSingleHist.insert id (popPush 2 q e) }

/-- `tag` is the device named by the packet's tag, if it carries one; `pos` is
where that device is when the packet arrives. Overwriting the members of an
entry found and inserting a new one store the same value under `tag`. -/
def updateList (now : Time) (tag : Option Nat) (pos : Vector3D K) (m : Monitor K) : Monitor K :=
  match tag with
  | none => m
  | some id =>
      updateHistoryOf id pos now { m with eds := m.eds.insert id ⟨pos.x, pos.y, now⟩ }

def getEdsList (now tolerance : Time) (m : Monitor K) : EdsMap K :=
  m.eds.filter fun _ e => decide (now < e.time + tolerance)

/-- The timer's overload. `e` is the local entry as its declaration leaves it:
its members hold whatever was there before. -/
def updateHistory [Field K] (now tolerance : Time) (e : EdsEntry K) (m : Monitor K) : Monitor K :=
  let eds := getEdsList now tolerance m
  if 0 < eds.size then
    let sum := eds.foldl (fun e _ d => ⟨e.x + d.x, e.y + d.y, d.time⟩) e
    let center : EdsEntry K := ⟨sum.x / eds.size, sum.y / eds.size, sum.time⟩
    { m with edsHist := pushPop 3 m.edsHist center }
  else m

def lastBefore (limit : Time) (q : List (EdsEntry K)) : Bool :=
  match q.getLast? with
  | some e => decide (e.time < limit)
  | none => false

def updateLostEds (now tolerance : Time) (m : Monitor K) : Monitor K :=
  let s := moveIf (fun _ q => lastBefore (now - tolerance) q) m.edsSingleHist m.edsLost
  { m with edsSingleHist := s.1, edsLost := s.2 }

def outdated (now interTol lostTol : Time) (q : List (EdsEntry K)) : Bool :=
  if q.length < 2 then false
  else match q.head?, q.getLast? with
    | some e₁, some e₂ => decide (lostTol < now - e₂.time) || decide (interTol < e₂.time - e₁.time)
    | _, _ => false

def filterLostEds (now interTol lostTol : Time) (m : Monitor K) : Monitor K :=
  { m with edsLost := eraseIf (fun _ q => outdated now interTol lostTol q) m.edsLost }

def getEdsLostSize (m : Monitor K) : Nat := m.edsLost.size

def displacements [Field K] : List (EdsEntry K) → List (Vector3D K)
  | e₁ :: e₂ :: q => ⟨e₂.x - e₁.x, e₂.y - e₁.y, 0⟩ :: displacements (e₂ :: q)
  | _ => []

def getDirection [Field K] (m : Monitor K) : Vector3D K :=
  let res := (displacements m.edsHist).foldl (· + ·) 0
  let size : K := m.edsHist.length
  if 1 < m.edsHist.length then ⟨res.x / (size - 1), res.y / (size - 1), res.z⟩ else res

def getSpeed [Field K] (c : CMath K) (m : Monitor K) : K :=
  let speed := (displacements m.edsHist).foldl (fun s d => s + getLength c d / 10) 0
  let size : K := m.edsHist.length
  if 1 < m.edsHist.length then speed / (size - 1) else speed

def getSpeedVector [Field K] [LinearOrder K] (c : CMath K) (m : Monitor K) : Vector3D K :=
  let dir := getDirection m
  let speed := getSpeed c m
  if 0 < getLength c dir then
    let k := speed / c.sqrt (dir.x * dir.x + dir.y * dir.y)
    ⟨k * dir.x, k * dir.y, 0⟩
  else 0

/-- `junk` is what `back ()` of an empty queue happens to read. -/
def getLastTime (junk : EdsEntry K) (m : Monitor K) : Time := (m.edsHist.getLast?.getD junk).time

def getLastPosition [Field K] (junk : EdsEntry K) (m : Monitor K) : Vector3D K :=
  ⟨(m.edsHist.getLast?.getD junk).x, (m.edsHist.getLast?.getD junk).y, 0⟩

section Lookup

variable (now : Time) (m : Monitor K) (id : Nat)

theorem single_updateHistoryOf (pos : Vector3D K) (j : Nat) :
    (updateHistoryOf j pos now m).edsSingleHist[id]? =
      if j = id then some (popPush 2 (m.edsSingleHist[j]?.getD []) ⟨pos.x, pos.y, now⟩)
      else m.edsSingleHist[id]? := by
  cases h : m.edsSingleHist[j]? <;>
    simp only [updateHistoryOf, h, ExtTreeMap.getElem?_insert, LawfulEqCmp.compare_eq_iff_eq,
      Option.getD_none, Option.getD_some]
  rfl

@[simp] theorem eds_updateHistoryOf (pos : Vector3D K) (j : Nat) :
    (updateHistoryOf j pos now m).eds = m.eds := by
  rw [updateHistoryOf]
  split <;> rfl

@[simp] theorem lost_updateHistoryOf (pos : Vector3D K) (j : Nat) :
    (updateHistoryOf j pos now m).edsLost = m.edsLost := by
  rw [updateHistoryOf]
  split <;> rfl

@[simp] theorem updateList_none (pos : Vector3D K) : updateList now none pos m = m := rfl

@[simp] theorem lost_updateList (tag : Option Nat) (pos : Vector3D K) :
    (updateList now tag pos m).edsLost = m.edsLost := by
  cases tag with
  | none => rfl
  | some j => simp [updateList]

@[simp] theorem edsHist_updateList (tag : Option Nat) (pos : Vector3D K) :
    (updateList now tag pos m).edsHist = m.edsHist := by
  cases tag with
  | none => rfl
  | some j =>
      rw [updateList, updateHistoryOf]
      split <;> rfl

theorem eds_updateList_eq (pos : Vector3D K) (j : Nat) :
    (updateList now (some j) pos m).eds = m.eds.insert j ⟨pos.x, pos.y, now⟩ := by
  rw [updateList, eds_updateHistoryOf]

theorem eds_updateList (pos : Vector3D K) (j : Nat) :
    (updateList now (some j) pos m).eds[id]? =
      if j = id then some ⟨pos.x, pos.y, now⟩ else m.eds[id]? := by
  simp [eds_updateList_eq, ExtTreeMap.getElem?_insert]

theorem single_updateList (pos : Vector3D K) (j : Nat) :
    (updateList now (some j) pos m).edsSingleHist[id]? =
      if j = id then some (popPush 2 (m.edsSingleHist[j]?.getD []) ⟨pos.x, pos.y, now⟩)
      else m.edsSingleHist[id]? := by
  simp [updateList, single_updateHistoryOf]

@[simp] theorem eds_updateLostEds (tolerance : Time) :
    (updateLostEds now tolerance m).eds = m.eds := rfl

theorem single_updateLostEds (tolerance : Time) :
    (updateLostEds now tolerance m).edsSingleHist[id]? =
      m.edsSingleHist[id]?.filter (fun q => !lastBefore (now - tolerance) q) :=
  getElem?_moveIf_src _ _ _ _

theorem lost_updateLostEds (tolerance : Time) :
    (updateLostEds now tolerance m).edsLost[id]? =
      (m.edsSingleHist[id]?.filter (lastBefore (now - tolerance))).or m.edsLost[id]? :=
  getElem?_moveIf_dst _ _ _ _

@[simp] theorem eds_filterLostEds (interTol lostTol : Time) :
    (filterLostEds now interTol lostTol m).eds = m.eds := rfl

@[simp] theorem single_filterLostEds (interTol lostTol : Time) :
    (filterLostEds now interTol lostTol m).edsSingleHist = m.edsSingleHist := rfl

theorem lost_filterLostEds (interTol lostTol : Time) :
    (filterLostEds now interTol lostTol m).edsLost[id]? =
      m.edsLost[id]?.filter (fun q => !outdated now interTol lostTol q) :=
  getElem?_eraseIf _ _ _

variable [Field K]

theorem updateHistory_eq (tolerance : Time) (e : EdsEntry K) :
    ∃ hist, updateHistory now tolerance e m = { m with edsHist := hist } := by
  rw [updateHistory]
  dsimp only
  split
  · exact ⟨_, rfl⟩
  · exact ⟨m.edsHist, rfl⟩

@[simp] theorem eds_updateHistory (tolerance : Time) (e : EdsEntry K) :
    (updateHistory now tolerance e m).eds = m.eds := by
  obtain ⟨hist, h⟩ := updateHistory_eq now m tolerance e
  rw [h]

@[simp] theorem single_updateHistory (tolerance : Time) (e : EdsEntry K) :
    (updateHistory now tolerance e m).edsSingleHist = m.edsSingleHist := by
  obtain ⟨hist, h⟩ := updateHistory_eq now m tolerance e
  rw [h]

@[simp] theorem lost_updateHistory (tolerance : Time) (e : EdsEntry K) :
    (updateHistory now tolerance e m).edsLost = m.edsLost := by
  obtain ⟨hist, h⟩ := updateHistory_eq now m tolerance e
  rw [h]

end Lookup

end UavMonitoring.EdsMonitor
