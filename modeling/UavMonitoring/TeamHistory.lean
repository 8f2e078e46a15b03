import UavMonitoring.EdsMonitor
import Mathlib.Algebra.BigOperators.Group.List.Basic
import Mathlib.Algebra.CharZero.Defs
import Mathlib.Tactic.Ring

namespace UavMonitoring.TeamHistory

open Std Basics BoundedQueue EdsMonitor

variable {K : Type} [Field K]

/-- The devices `GetEdsList` returns, in the order of their ids. -/
def heard (now tolerance : Time) (m : Monitor K) : List (EdsEntry K) :=
  (getEdsList now tolerance m).toList.map Prod.snd

/-- What the timer's overload computes from the devices heard and the local
entry it starts from. -/
def entryOf (junk : EdsEntry K) (ds : List (EdsEntry K)) : EdsEntry K where
  x := (junk.x + (ds.map EdsEntry.x).sum) / ds.length
  y := (junk.y + (ds.map EdsEntry.y).sum) / ds.length
  time := (ds.getLastD junk).time

structure Center (ds : List (EdsEntry K)) (e : EdsEntry K) : Prop where
  x : e.x = (ds.map EdsEntry.x).sum / ds.length
  y : e.y = (ds.map EdsEntry.y).sum / ds.length
  heard : ∃ d ∈ ds, d.time = e.time
  latest : ∀ d ∈ ds, d.time ≤ e.time

omit [Field K] in
theorem heard_ne_nil_iff (now tolerance : Time) (m : Monitor K) :
    heard now tolerance m ≠ [] ↔
      ∃ (id : Nat) (e : EdsEntry K), m.eds[id]? = some e ∧ now < e.time + tolerance := by
  have hmem (p : Nat × EdsEntry K) : p ∈ (getEdsList now tolerance m).toList ↔
      m.eds[p.1]? = some p.2 ∧ now < p.2.time + tolerance := by
    rw [ExtTreeMap.mem_toList_iff_getElem?_eq_some, getEdsList, ExtTreeMap.getElem?_filter',
      Option.filter_eq_some_iff, decide_eq_true_eq]
  rw [heard, ne_eq, List.map_eq_nil_iff, List.eq_nil_iff_forall_not_mem]
  simp only [hmem, Prod.forall, not_forall, not_not]

theorem foldl_entry (junk : EdsEntry K) (ds : List (EdsEntry K)) :
    ds.foldl (fun e d => ⟨e.x + d.x, e.y + d.y, d.time⟩) junk =
      ⟨junk.x + (ds.map EdsEntry.x).sum, junk.y + (ds.map EdsEntry.y).sum, (ds.getLastD junk).time⟩ := by
  induction ds generalizing junk with
  | nil => simp
  | cons d ds ih =>
      rw [List.foldl_cons, ih]
      simp only [List.map_cons, List.sum_cons, add_assoc, EdsEntry.mk.injEq, true_and]
      cases ds with
      | nil => rfl
      | cons d' ds => simp only [List.getLastD_cons]

theorem updateHistory_of_none {now tolerance : Time} {m : Monitor K} (h : heard now tolerance m = [])
    (junk : EdsEntry K) : updateHistory now tolerance junk m = m := by
  have hsize : (getEdsList now tolerance m).size = 0 := by
    rw [← ExtTreeMap.length_toList, ← List.length_map Prod.snd]
    exact congrArg List.length h
  rw [updateHistory, hsize]
  rfl

theorem updateHistory_of_some {now tolerance : Time} {m : Monitor K} (h : heard now tolerance m ≠ [])
    (junk : EdsEntry K) :
    updateHistory now tolerance junk m =
      { m with edsHist := pushPop 3 m.edsHist (entryOf junk (heard now tolerance m)) } := by
  have hsize : (getEdsList now tolerance m).size = (heard now tolerance m).length := by
    rw [heard, List.length_map, ExtTreeMap.length_toList]
  have hfold : (getEdsList now tolerance m).foldl (fun e _ d => ⟨e.x + d.x, e.y + d.y, d.time⟩) junk =
      (heard now tolerance m).foldl (fun e d => ⟨e.x + d.x, e.y + d.y, d.time⟩) junk := by
    rw [ExtTreeMap.foldl_eq_foldl_toList, heard, List.foldl_map]
  rw [updateHistory]
  dsimp only
  rw [hsize, if_pos (List.length_pos_iff.mpr h), hfold, foldl_entry]
  rfl

theorem center_iff [CharZero K] {ds : List (EdsEntry K)} (h : ds ≠ []) (junk : EdsEntry K) :
    Center ds (entryOf junk ds) ↔
      junk.x = 0 ∧ junk.y = 0 ∧ ∀ d ∈ ds, d.time ≤ (ds.getLastD junk).time := by
  have hlen : (ds.length : K) ≠ 0 := Nat.cast_ne_zero.mpr (by simpa using h)
  have hmean (a b : K) : (a + b) / ds.length = b / ds.length ↔ a = 0 := by
    rw [div_left_inj' hlen, add_eq_right]
  have hlast : ds.getLastD junk ∈ ds := by
    rw [List.getLastD_eq_getLast?, List.getLast?_eq_some_getLast h]
    exact List.getLast_mem h
  constructor
  · rintro ⟨hx, hy, _, hlatest⟩
    exact ⟨(hmean _ _).mp hx, (hmean _ _).mp hy, hlatest⟩
  · rintro ⟨hx, hy, hlatest⟩
    exact ⟨(hmean _ _).mpr hx, (hmean _ _).mpr hy, ⟨_, hlast, rfl⟩, hlatest⟩

/-- A call records the true centre: with nothing heard it leaves the monitor as
it is, else the history, the last three of all entries so far, gets one more. -/
def RecordsCenter (log : List (EdsEntry K)) (now tolerance : Time) (junk : EdsEntry K)
    (m : Monitor K) : Prop :=
  let before : Monitor K := { m with edsHist := log.rtake 3 }
  if heard now tolerance m = [] then updateHistory now tolerance junk before = before
  else ∃ e, Center (heard now tolerance m) e ∧
    updateHistory now tolerance junk before = { m with edsHist := (log ++ [e]).rtake 3 }

theorem rtake_concat_inj {α : Type} {k : Nat} (hk : 0 < k) {log : List α} {a b : α}
    (h : (log ++ [a]).rtake k = (log ++ [b]).rtake k) : a = b := by
  have hlast := congrArg List.getLast? h
  simpa [getLast?_rtake hk] using hlast

/-- The true centre is recorded exactly when nothing is heard, or when the
uninitialised coordinates happen to be zero and the device of greatest id is
among the last ones heard. -/
theorem recordsCenter_iff [CharZero K] (log : List (EdsEntry K)) (now tolerance : Time)
    (junk : EdsEntry K) (m : Monitor K) :
    RecordsCenter log now tolerance junk m ↔
      ∀ last ∈ (heard now tolerance m).getLast?,
        junk.x = 0 ∧ junk.y = 0 ∧ ∀ d ∈ heard now tolerance m, d.time ≤ last.time := by
  let before : Monitor K := { m with edsHist := log.rtake 3 }
  have hbefore : heard now tolerance before = heard now tolerance m := rfl
  rw [RecordsCenter]
  by_cases h : heard now tolerance m = []
  · rw [if_pos h, h]
    refine iff_of_true (updateHistory_of_none (hbefore.trans h) junk) ?_
    simp
  · have hrun : updateHistory now tolerance junk before =
        { m with edsHist := (log ++ [entryOf junk (heard now tolerance m)]).rtake 3 } := by
      rw [updateHistory_of_some (by rwa [hbefore]), hbefore, pushPop_rtake]
    rw [if_neg h, hrun, List.getLast?_eq_some_getLast h]
    simp only [Option.mem_some_iff, forall_eq']
    have hlast : (heard now tolerance m).getLast h = (heard now tolerance m).getLastD junk := by
      rw [List.getLastD_eq_getLast?, List.getLast?_eq_some_getLast h]
      rfl
    rw [hlast, ← center_iff h]
    constructor
    · rintro ⟨e, hcenter, heq⟩
      rw [rtake_concat_inj (by decide) (congrArg Monitor.edsHist heq)]
      exact hcenter
    · exact fun hcenter => ⟨_, hcenter, rfl⟩

def heardInTurn : Monitor ℚ :=
  updateList (seconds 8) (some 3) ⟨1, 2, 0⟩ (updateList (seconds 5) (some 7) ⟨1, 2, 0⟩ empty)

theorem recordsCenter_iff_in_turn :
    RecordsCenter [] (seconds 10) (seconds 20) ⟨0, 0, 0⟩ heardInTurn ↔
      ∀ last ∈ (heard (seconds 10) (seconds 20) heardInTurn).getLast?, (0 : ℚ) = 0 ∧ (0 : ℚ) = 0 ∧
        ∀ d ∈ heard (seconds 10) (seconds 20) heardInTurn, d.time ≤ last.time :=
  recordsCenter_iff [] (seconds 10) (seconds 20) ⟨0, 0, 0⟩ heardInTurn

theorem older_time_recorded :
    ¬ ∀ (log : List (EdsEntry ℚ)) (now tolerance : Time) (junk : EdsEntry ℚ) (m : Monitor ℚ),
      RecordsCenter log now tolerance junk m := by
  intro h
  have hcenter := h [] (seconds 10) (seconds 20) ⟨0, 0, 0⟩ heardInTurn
  have hsome : heard (seconds 10) (seconds 20) heardInTurn ≠ [] := by decide +kernel
  rw [RecordsCenter, if_neg hsome] at hcenter
  obtain ⟨e, hcenter, heq⟩ := hcenter
  have he : [e] = (updateHistory (seconds 10) (seconds 20) ⟨0, 0, 0⟩ heardInTurn).edsHist :=
    (congrArg Monitor.edsHist heq).symm
  have htime : (updateHistory (seconds 10) (seconds 20) ⟨0, 0, 0⟩ heardInTurn).edsHist.map
      EdsEntry.time = [seconds 5] := by decide +kernel
  rw [← he, List.map_singleton, List.singleton_inj] at htime
  have hlate := hcenter.latest ⟨1, 2, seconds 8⟩ (by decide +kernel)
  rw [htime] at hlate
  exact absurd hlate (by decide)

end UavMonitoring.TeamHistory
