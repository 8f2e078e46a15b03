import UavMonitoring.ControlRuns
import UavMonitoring.TeamHistory

namespace UavMonitoring.HistoryTimers

open Std Basics BoundedQueue EdsMonitor Runs SeedsManager SpringForces TeamHistory VirtualSprings
  ControlSteps ControlRuns

variable {K : Type} [Field K] [LinearOrder K] [FloorRing K] (c : CMath K) (cfg : Config K)

/-- A UAV in simulated time: `pending` holds the times its scheduled calls of
`UpdateHistory` are due. -/
structure Timed (K : Type) where
  now : Time
  pending : List Time
  uav : Uav K

/-- `DoInitialize` schedules `UpdateHistory` for every mode, and for mode 1 again. -/
def doInitializeAt (junk : Token K) (start : Time) : Timed K where
  now := start
  pending := (start + seconds 10) ::
    if cfg.predictionMode = 1 then [start + seconds 10] else []
  uav := doInitialize junk

def reschedule (pending : List Time) (e : Time × Event K) : Option (List Time) :=
  match e.2 with
  | .updateHistory _ =>
      if e.1 ∈ pending then some (pending.erase e.1 ++ [e.1 + seconds 10]) else none
  | _ => some pending

/-- Time never goes back, and no event passes a scheduled call. Packets arrive
and control steps are made at any time between. -/
def timedStep (s : Timed K) (e : Time × Event K) : Option (Timed K × List (Call K)) :=
  if s.now ≤ e.1 ∧ ∀ due ∈ s.pending, e.1 ≤ due then
    (reschedule s.pending e).bind fun pending =>
      (step c cfg s.uav e).map fun r => (⟨e.1, pending, r.1⟩, r.2)
  else none

abbrev TimedStep (K : Type) := Transition (Timed K) (Time × Event K) (List (Call K))

def timedRun (junk : Token K) (start : Time) (es : List (Time × Event K)) : List (TimedStep K) :=
  transitions (timedStep c cfg) (doInitializeAt cfg junk start) es

variable {c cfg} {s s' : Timed K} {e : Time × Event K} {calls : List (Call K)}

theorem timedStep_eq (h : timedStep c cfg s e = some (s', calls)) :
    s'.now = e.1 ∧ s.now ≤ e.1 ∧ (∀ due ∈ s.pending, e.1 ≤ due) ∧
      reschedule s.pending e = some s'.pending ∧ step c cfg s.uav e = some (s'.uav, calls) := by
  rw [timedStep] at h
  split at h
  · next hdue =>
      obtain ⟨pending, hpending, h⟩ := Option.bind_eq_some_iff.mp h
      obtain ⟨⟨u, calls'⟩, hstep, h⟩ := Option.map_eq_some_iff.mp h
      cases h
      exact ⟨rfl, hdue.1, hdue.2, hpending, hstep⟩
  · exact absurd h (by simp)

omit [Field K] [LinearOrder K] [FloorRing K] in
theorem reschedule_update {pending pending' : List Time} {now : Time} {junk : EdsEntry K}
    (h : reschedule pending (now, .updateHistory junk) = some pending') :
    now ∈ pending ∧ pending' = pending.erase now ++ [now + seconds 10] := by
  dsimp only [reschedule] at h
  split at h
  · next hmem => exact ⟨hmem, (Option.some.inj h).symm⟩
  · exact absurd h (by simp)

omit [Field K] [LinearOrder K] [FloorRing K] in
theorem swept_of_mode (hmode : cfg.predictionMode = 1) (now : Time) (m : Monitor K) :
    swept cfg now m = m := by simp [swept, hmode]

section Summary

def IsReception (t : TimedStep K) : Prop := ∃ id pos, t.event.2 = .updateList (some id) pos

def Received (past : List (TimedStep K)) : Prop := ∃ t ∈ past, IsReception t

def IsUpdate (t : TimedStep K) : Prop := ∃ junk, t.event.2 = .updateHistory junk

def Updated (past : List (TimedStep K)) : Prop :=
  ∃ before t between, past = before ++ t :: between ∧ IsUpdate t ∧ Received before

omit [Field K] [LinearOrder K] [FloorRing K] in
theorem received_concat_iff (past : List (TimedStep K)) (t : TimedStep K) :
    Received (past ++ [t]) ↔ Received past ∨ IsReception t := by
  simp only [Received, List.mem_append, List.mem_singleton, or_and_right, exists_or, exists_eq_left]

omit [Field K] [LinearOrder K] [FloorRing K] in
theorem updated_concat_iff (past : List (TimedStep K)) (t : TimedStep K) :
    Updated (past ++ [t]) ↔ Updated past ∨ (IsUpdate t ∧ Received past) := by
  rw [Updated, exists_cut_concat_iff fun before t _ => IsUpdate t ∧ Received before]
  exact or_comm

/-- What the steps so far say about the pending calls and the monitor: until the
timer fires, a device heard is recent enough for the next call to count it. -/
structure Kept (past : List (TimedStep K)) (s : Timed K) : Prop where
  waiting : s.pending ≠ []
  soon : ∀ due ∈ s.pending, due ≤ s.now + seconds 10
  source : ∀ (id : Nat) (e : EdsEntry K), s.uav.monitor.eds[id]? = some e → Received past
  recent : Received past → ¬ Updated past →
    ∃ (id : Nat) (e : EdsEntry K), s.uav.monitor.eds[id]? = some e ∧ ∃ due ∈ s.pending, due ≤ e.time + seconds 10
  history : s.uav.monitor.edsHist ≠ [] ↔ Updated past

omit [LinearOrder K] [FloorRing K] in
theorem kept_doInitialize (junk : Token K) (start : Time) :
    Kept [] (doInitializeAt cfg junk start) where
  waiting := by simp [doInitializeAt]
  soon := by
    intro due hdue
    simp only [doInitializeAt, List.mem_cons] at hdue
    rcases hdue with rfl | hdue
    · exact le_rfl
    · split at hdue <;> simp_all [doInitializeAt]
  source := by simp [doInitializeAt, doInitialize, empty]
  recent := by simp [Received]
  history := by simp [doInitializeAt, doInitialize, empty, Updated]

section Step

variable {past : List (TimedStep K)} {t : TimedStep K} (hs : Kept past t.pre)

include hs

omit [Field K] [LinearOrder K] [FloorRing K] in
theorem kept_quiet (hnow : t.pre.now ≤ t.post.now) (hpending : t.post.pending = t.pre.pending)
    (heds : t.post.uav.monitor.eds = t.pre.uav.monitor.eds)
    (hhist : t.post.uav.monitor.edsHist = t.pre.uav.monitor.edsHist) (hreception : ¬ IsReception t)
    (hupdate : ¬ IsUpdate t) : Kept (past ++ [t]) t.post where
  waiting := by rw [hpending]; exact hs.waiting
  soon := by
    intro due hdue
    rw [hpending] at hdue
    exact (hs.soon due hdue).trans (by linarith)
  source := by
    intro id e he
    rw [heds] at he
    exact (received_concat_iff past t).mpr (.inl (hs.source id e he))
  recent := by
    rw [received_concat_iff, updated_concat_iff, heds, hpending]
    intro hreceived hn
    exact hs.recent (hreceived.resolve_right hreception) fun h => hn (.inl h)
  history := by
    rw [hhist, updated_concat_iff, hs.history]
    simp [hupdate]

omit [Field K] [LinearOrder K] [FloorRing K] in
theorem kept_reception {id : Nat} {pos : Vector3D K} (hevent : t.event.2 = .updateList (some id) pos)
    (hnow : t.pre.now ≤ t.event.1) (hpost : t.post.now = t.event.1)
    (hpending : t.post.pending = t.pre.pending)
    (hmonitor : t.post.uav.monitor = updateList t.event.1 (some id) pos t.pre.uav.monitor) :
    Kept (past ++ [t]) t.post := by
  have hreception : IsReception t := ⟨id, pos, hevent⟩
  have hreceived : Received (past ++ [t]) := (received_concat_iff past t).mpr (.inr hreception)
  have hupdate : ¬ IsUpdate t := by rintro ⟨junk, h⟩; simp [hevent] at h
  have hsoon : ∀ due ∈ t.pre.pending, due ≤ t.event.1 + seconds 10 := fun due hdue =>
    (hs.soon due hdue).trans (by linarith)
  obtain ⟨due, hdue⟩ := List.exists_mem_of_ne_nil _ hs.waiting
  refine ⟨?_, ?_, fun _ _ _ => hreceived, ?_, ?_⟩
  · rw [hpending]
    exact hs.waiting
  · rw [hpending, hpost]
    exact hsoon
  · intro _ _
    refine ⟨id, ⟨pos.x, pos.y, t.event.1⟩, ?_, due, hpending ▸ hdue, hsoon due hdue⟩
    rw [hmonitor, eds_updateList, if_pos rfl]
  · have hhist : t.post.uav.monitor.edsHist = t.pre.uav.monitor.edsHist := by
      rw [hmonitor, edsHist_updateList]
    rw [hhist, updated_concat_iff, hs.history]
    simp [hupdate]

omit [LinearOrder K] [FloorRing K] in
theorem kept_update {junk : EdsEntry K} (hevent : t.event.2 = .updateHistory junk)
    (hnow : t.pre.now ≤ t.event.1) (hpost : t.post.now = t.event.1)
    (hdue : ∀ due ∈ t.pre.pending, t.event.1 ≤ due)
    (hpending : t.post.pending = t.pre.pending.erase t.event.1 ++ [t.event.1 + seconds 10])
    (hmonitor : t.post.uav.monitor =
      updateHistory t.event.1 (seconds 20) junk t.pre.uav.monitor) : Kept (past ++ [t]) t.post := by
  have hupdate : IsUpdate t := ⟨junk, hevent⟩
  have hreception : ¬ IsReception t := by rintro ⟨id, pos, h⟩; simp [hevent] at h
  have hreceived : Received (past ++ [t]) ↔ Received past := by
    rw [received_concat_iff]
    simp [hreception]
  have heds : t.post.uav.monitor.eds = t.pre.uav.monitor.eds := by rw [hmonitor, eds_updateHistory]
  have hheard : Received past → ¬ Updated past →
      heard t.event.1 (seconds 20) t.pre.uav.monitor ≠ [] := by
    intro hreceived hn
    obtain ⟨id, e, he, due, hmem, hle⟩ := hs.recent hreceived hn
    refine (heard_ne_nil_iff _ _ _).mpr ⟨id, e, he, ?_⟩
    exact ((hdue due hmem).trans hle).trans_lt (by simp only [seconds]; linarith)
  refine ⟨by simp [hpending], ?_, ?_, ?_, ?_⟩
  · intro due hmem
    rw [hpending, List.mem_append, List.mem_singleton] at hmem
    rcases hmem with hmem | rfl
    · exact (hs.soon due (List.mem_of_mem_erase hmem)).trans (by linarith)
    · rw [hpost]
  · intro id e he
    rw [heds] at he
    exact hreceived.mpr (hs.source id e he)
  · intro hrec hn
    exact absurd ((updated_concat_iff past t).mpr (.inr ⟨hupdate, hreceived.mp hrec⟩)) hn
  · rw [updated_concat_iff, hmonitor]
    by_cases hsome : heard t.event.1 (seconds 20) t.pre.uav.monitor = []
    · rw [updateHistory_of_none hsome, hs.history]
      refine ⟨.inl, fun h => ?_⟩
      by_contra hn
      exact hheard (h.resolve_left hn).2 hn hsome
    · rw [updateHistory_of_some hsome]
      refine iff_of_true (pushPop_ne_nil (by decide) _ _) (.inr ⟨hupdate, ?_⟩)
      obtain ⟨id, e, he, _⟩ := (heard_ne_nil_iff _ _ _).mp hsome
      exact hs.source id e he

end Step

theorem kept_step (hmode : cfg.predictionMode = 1) {past : List (TimedStep K)} (hs : Kept past s)
    (h : timedStep c cfg s e = some (s', calls)) : Kept (past ++ [⟨s, e, s', calls⟩]) s' := by
  obtain ⟨hnow, hle, hdue, hpending, hstep⟩ := timedStep_eq h
  have hmonitor : s'.uav.monitor = monitorStep cfg s.uav.monitor e := step_monitor hstep
  obtain ⟨now, e⟩ := e
  have hquiet (hp : reschedule s.pending (now, e) = some s.pending)
      (hm : monitorStep cfg s.uav.monitor (now, e) = s.uav.monitor)
      (hr : ∀ id pos, e ≠ .updateList (some id) pos) (hu : ∀ junk, e ≠ .updateHistory junk) :
      Kept (past ++ [⟨s, (now, e), s', calls⟩]) s' := by
    rw [hp, Option.some.injEq] at hpending
    rw [hm] at hmonitor
    exact kept_quiet hs (hnow ▸ hle) hpending.symm (by rw [hmonitor]) (by rw [hmonitor])
      (fun ⟨id, pos, h⟩ => hr id pos h) fun ⟨junk, h⟩ => hu junk h
  cases e with
  | updateList tag pos =>
      cases tag with
      | none => exact hquiet rfl rfl (by simp) (by simp)
      | some id =>
          rw [reschedule, Option.some.injEq] at hpending
          exact kept_reception hs rfl hle hnow hpending.symm hmonitor
  | updateHistory junk =>
      exact kept_update hs rfl hle hnow hdue (reschedule_update hpending).2 hmonitor
  | forwardedPacket | receiveToken token => exact hquiet rfl rfl (by simp) (by simp)
  | doInitializePrivate w => exact hquiet rfl (swept_of_mode hmode now _) (by simp) (by simp)

theorem kept_run (hmode : cfg.predictionMode = 1) (junk : Token K) (start : Time)
    {es : List (Time × Event K)} {past rest : List (TimedStep K)} {t : TimedStep K}
    (h : timedRun c cfg junk start es = past ++ t :: rest) : Kept past t.pre :=
  history_invariant Kept (fun _ _ _ _ _ hs hstep => kept_step hmode hs hstep)
    (kept_doInitialize junk start) h

/-- Each token of mode 1 summarises a history exactly when each comes after the
timer has fired at least once since a device was first heard. -/
theorem history_known_iff (hmode : cfg.predictionMode = 1) (junk : Token K) (start : Time)
    (es : List (Time × Event K)) :
    (∀ t ∈ timedRun c cfg junk start es, .generateToken ∈ t.out →
      t.pre.uav.monitor.edsHist ≠ []) ↔
    ∀ past t rest, timedRun c cfg junk start es = past ++ t :: rest → .generateToken ∈ t.out →
      Updated past := by
  constructor
  · intro h past t rest hrun hissue
    exact (kept_run hmode junk start hrun).history.mp (h t (by simp [hrun]) hissue)
  · intro h t ht hissue
    obtain ⟨past, rest, hrun⟩ := List.append_of_mem ht
    exact (kept_run hmode junk start hrun).history.mpr (h past t rest hrun hissue)

def earlyToken : List (Time × Event ℚ) :=
  [control 0 toBs, hear 5 200 1, control 2 [], control 3 [], control 4 []]

theorem history_known_iff_early :
    (∀ t ∈ timedRun rationalMath (config 1 1) noToken (seconds 0) earlyToken,
      .generateToken ∈ t.out → t.pre.uav.monitor.edsHist ≠ []) ↔
    ∀ past t rest, timedRun rationalMath (config 1 1) noToken (seconds 0) earlyToken =
      past ++ t :: rest → .generateToken ∈ t.out → Updated past :=
  history_known_iff rfl noToken (seconds 0) earlyToken

theorem history_empty :
    ¬ ∀ t ∈ timedRun rationalMath (config 1 1) noToken (seconds 0) earlyToken,
      .generateToken ∈ t.out → t.pre.uav.monitor.edsHist ≠ [] := by
  intro h
  have hissue : (timedRun rationalMath (config 1 1) noToken (seconds 0) earlyToken).any (fun t =>
      decide (t.pre.uav.monitor.edsHist = []) && t.out.any isIssue) = true := by decide +kernel
  obtain ⟨t, ht, hfacts⟩ := List.any_eq_true.mp hissue
  rw [Bool.and_eq_true, decide_eq_true_eq, List.any_eq_true] at hfacts
  obtain ⟨hempty, call, hcall, hcalled⟩ := hfacts
  exact h t ht (eq_of_isIssue hcalled ▸ hcall) hempty

end Summary

end UavMonitoring.HistoryTimers
