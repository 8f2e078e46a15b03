import UavMonitoring.Headings
import UavMonitoring.HistoryTimers
import Mathlib.Tactic.FieldSimp
import Mathlib.Tactic.Ring

namespace UavMonitoring.SpeedVector

open Basics BoundedQueue EdsMonitor Headings Runs SeedsManager TeamHistory VirtualSprings ControlSteps
  ControlRuns HistoryTimers

open SpringForces (Call Config)

section Timer

variable {K : Type} [Field K] [LinearOrder K] [FloorRing K] {c : CMath K} {cfg : Config K}

/-- When the `i`-th call of `UpdateHistory` is due in mode 1: every 10 s, twice. -/
def dueAt (start : Time) (i : Nat) : Time := start + seconds (10 * (i / 2 + 1 : Nat))

theorem dueAt_of_half {start : Time} {i j : Nat} (h : j / 2 = i / 2 + 1) :
    dueAt start j = dueAt start i + seconds 10 := by
  rw [dueAt, dueAt, h, seconds, seconds, seconds]
  push_cast
  ring

theorem dueAt_add_two (start : Time) (i : Nat) : dueAt start (i + 2) = dueAt start i + seconds 10 :=
  dueAt_of_half (by omega)

theorem dueAt_succ (start : Time) (i : Nat) :
    dueAt start (i + 1) = dueAt start i ∨ dueAt start (i + 1) = dueAt start i + seconds 10 := by
  have hhalf : (i + 1) / 2 = i / 2 ∨ (i + 1) / 2 = i / 2 + 1 := by omega
  rcases hhalf with h | h
  · exact .inl (by rw [dueAt, dueAt, h])
  · exact .inr (dueAt_of_half h)

theorem dueAt_mono (start : Time) {i j : Nat} (h : i ≤ j) : dueAt start i ≤ dueAt start j := by
  have hhalf : ((i / 2 + 1 : Nat) : Int) ≤ (j / 2 + 1 : Nat) := by omega
  rw [dueAt, dueAt, seconds, seconds]
  linarith

def updateTime (t : TimedStep K) : Option Time :=
  match t.event.2 with
  | .updateHistory _ => some t.event.1
  | _ => none

def updates (past : List (TimedStep K)) : List Time := past.filterMap updateTime

/-- The calls made so far are the first ones, and the next two are pending. -/
structure OnTime (start : Time) (past : List (TimedStep K)) (s : Timed K) : Prop where
  made : updates past = (List.range (updates past).length).map (dueAt start)
  next : s.pending = [dueAt start (updates past).length, dueAt start ((updates past).length + 1)]

omit [Field K] [LinearOrder K] [FloorRing K] in
theorem updates_concat (past : List (TimedStep K)) (t : TimedStep K) :
    updates (past ++ [t]) = updates past ++ (updateTime t).toList := by
  rw [updates, List.filterMap_append]
  cases h : updateTime t <;> simp [updates, h]

omit [LinearOrder K] [FloorRing K] in
theorem onTime_doInitialize (hmode : cfg.predictionMode = 1) (junk : Token K) (start : Time) :
    OnTime start [] (doInitializeAt cfg junk start) := by
  have hfirst : dueAt start 0 = start + seconds 10 := by simp [dueAt]
  have hsecond : dueAt start 1 = start + seconds 10 := by simp [dueAt]
  refine ⟨rfl, ?_⟩
  simp [doInitializeAt, hmode, updates, hfirst, hsecond]

theorem onTime_step {start : Time} {past : List (TimedStep K)} {s s' : Timed K} {e : Time × Event K}
    {calls : List (Call K)} (hs : OnTime start past s)
    (h : timedStep c cfg s e = some (s', calls)) : OnTime start (past ++ [⟨s, e, s', calls⟩]) s' := by
  obtain ⟨_, _, hdue, hpending, _⟩ := timedStep_eq h
  obtain ⟨now, e⟩ := e
  cases e with
  | updateHistory junk =>
      obtain ⟨hmem, hnext⟩ := reschedule_update hpending
      have hnow : now = dueAt start (updates past).length := by
        apply le_antisymm (hdue _ (by simp [hs.next]))
        rw [hs.next, List.mem_cons, List.mem_singleton] at hmem
        rcases hmem with hmem | hmem
        · exact hmem.ge
        · exact (dueAt_mono start (Nat.le_succ _)).trans hmem.ge
      have hupdates : updates (past ++ [⟨s, (now, .updateHistory junk), s', calls⟩]) =
          updates past ++ [now] := updates_concat _ _
      constructor
      · rw [hupdates, List.length_append, List.length_singleton, List.range_succ, List.map_append,
          ← hs.made, List.map_singleton, ← hnow]
      · rw [hupdates, hnext, hs.next, List.length_append, List.length_singleton, hnow,
          List.erase_cons_head, List.singleton_append, ← dueAt_add_two]
  | updateList tag pos | forwardedPacket | receiveToken token | doInitializePrivate w =>
      have hsame (t : TimedStep K) (ht : updateTime t = none) :
          updates (past ++ [t]) = updates past := by simp [updates_concat, ht]
      have hkeep : s.pending = s'.pending := Option.some.inj hpending
      exact ⟨by rw [hsame _ rfl]; exact hs.made, by rw [hsame _ rfl, ← hkeep]; exact hs.next⟩

omit [Field K] [LinearOrder K] [FloorRing K] in
theorem OnTime.le_pending {start : Time} {past : List (TimedStep K)} {s : Timed K}
    (hs : OnTime start past s) {made due : Time} (hmade : made ∈ updates past)
    (hdue : due ∈ s.pending) : made ≤ due := by
  rw [hs.made, List.mem_map] at hmade
  obtain ⟨i, hi, rfl⟩ := hmade
  have hlt : i < (updates past).length := List.mem_range.mp hi
  rw [hs.next, List.mem_cons, List.mem_singleton] at hdue
  rcases hdue with rfl | rfl
  · exact dueAt_mono start hlt.le
  · exact dueAt_mono start (hlt.le.trans (Nat.le_succ _))

omit [Field K] [LinearOrder K] [FloorRing K] in
theorem OnTime.last_three {start : Time} {past : List (TimedStep K)} {s : Timed K}
    (hs : OnTime start past s) (period : Time)
    (h : 3 ≤ ((updates past).filter fun t => decide (period ≤ t)).length) :
    ∃ made middle, (middle = made ∨ middle = made + seconds 10) ∧
      ((updates past).filter fun t => decide (period ≤ t)).rtake 3 = [made, middle, made + seconds 10] := by
  have hsorted : (updates past).Pairwise (· ≤ ·) := by
    rw [hs.made, List.pairwise_map]
    exact List.pairwise_le_range.imp (dueAt_mono start)
  rw [← dropWhile_lt_eq_filter period hsorted] at h ⊢
  obtain ⟨n, hn⟩ : ∃ n, (updates past).length = n + 3 :=
    Nat.exists_eq_add_of_le' (h.trans (List.dropWhile_suffix _).length_le)
  have hlast : (updates past).rtake 3 = [dueAt start n, dueAt start (n + 1), dueAt start (n + 2)] := by
    rw [hs.made, hn, List.range_add, List.map_append, rtake_append_of_le _ (by simp)]
    rfl
  obtain ⟨older, holder⟩ := List.dropWhile_suffix (fun t => decide (t < period)) (l := updates past)
  rw [← holder, rtake_append_of_le older h] at hlast
  exact ⟨dueAt start n, dueAt start (n + 1), dueAt_succ start n, by rw [hlast, dueAt_add_two]⟩

end Timer

section History

variable {K : Type} [Field K] [LinearOrder K] [FloorRing K] {c : CMath K} {cfg : Config K}

def place (e : EdsEntry K) : K × K := (e.x, e.y)

def course (p v : Vector3D K) (t : Time) : K × K :=
  (p.x + v.x * getSeconds t, p.y + v.y * getSeconds t)

def RecordsCourse (p v : Vector3D K) (t : TimedStep K) : Prop :=
  ∃ e, place e = course p v t.event.1 ∧
    t.post.uav.monitor.edsHist = pushPop 3 t.pre.uav.monitor.edsHist e

def Uniform (p v : Vector3D K) (period : Time) (ts : List (TimedStep K)) : Prop :=
  ∀ t ∈ ts, IsUpdate t → period ≤ t.event.1 → RecordsCourse p v t

/-- The history holds the last three places recorded; those of the period are
on the course. -/
structure Followed (p v : Vector3D K) (start period : Time) (past : List (TimedStep K))
    (s : Timed K) : Prop where
  onTime : OnTime start past s
  places : Uniform p v period past → ∃ older, s.uav.monitor.edsHist.map place =
    (older ++ ((updates past).filter fun t => decide (period ≤ t)).map (course p v)).rtake 3

variable {p v : Vector3D K} {start period : Time} {past : List (TimedStep K)} {s s' : Timed K}
  {e : Time × Event K} {calls : List (Call K)}

omit [LinearOrder K] [FloorRing K] in
theorem map_updateHistory (now : Time) (junk : EdsEntry K) {m : Monitor K} {log : List (K × K)}
    (h : m.edsHist.map place = log.rtake 3) :
    ∃ older : List (K × K), (updateHistory now (seconds 20) junk m).edsHist.map place = older.rtake 3 := by
  by_cases hsome : heard now (seconds 20) m = []
  · exact ⟨log, by rw [updateHistory_of_none hsome, h]⟩
  · rw [updateHistory_of_some hsome]
    exact ⟨_, by rw [map_pushPop, h, pushPop_rtake]⟩

theorem followed_update {junk : EdsEntry K} (hs : Followed p v start period past s)
    (h : timedStep c cfg s (e.1, .updateHistory junk) = some (s', calls))
    (huniform : Uniform p v period (past ++ [⟨s, (e.1, .updateHistory junk), s', calls⟩])) :
    ∃ older, s'.uav.monitor.edsHist.map place =
      (older ++ ((updates past ++ [e.1]).filter fun t => decide (period ≤ t)).map
        (course p v)).rtake 3 := by
  obtain ⟨_, _, hdue, hpending, hstep⟩ := timedStep_eq h
  obtain ⟨hmem, _⟩ := reschedule_update hpending
  obtain ⟨older, hplaces⟩ := hs.places fun t ht => huniform t (List.mem_append_left _ ht)
  by_cases hperiod : period ≤ e.1
  · obtain ⟨d, hd, hrecorded⟩ := huniform _ (List.mem_append_right past (List.mem_singleton_self _))
      ⟨junk, rfl⟩ hperiod
    refine ⟨older, ?_⟩
    dsimp only at hrecorded hd
    rw [hrecorded, map_pushPop, hplaces, pushPop_rtake, hd, List.filter_append,
      List.filter_singleton, decide_eq_true hperiod, List.map_append, List.append_assoc]
    rfl
  · have hbefore : (updates past).filter (fun t => decide (period ≤ t)) = [] := by
      rw [List.filter_eq_nil_iff]
      intro made hmade
      have hle : made ≤ e.1 := hs.onTime.le_pending hmade hmem
      simpa using hle.trans_lt (not_le.mp hperiod)
    rw [hbefore] at hplaces
    obtain ⟨older', h'⟩ := map_updateHistory e.1 junk hplaces
    refine ⟨older', ?_⟩
    have hmonitor : s'.uav.monitor = updateHistory e.1 (seconds 20) junk s.uav.monitor :=
      step_monitor hstep
    rw [hmonitor, h', List.filter_append, hbefore, List.filter_singleton, decide_eq_false hperiod]
    simp

theorem followed_step (hmode : cfg.predictionMode = 1) (hs : Followed p v start period past s)
    (h : timedStep c cfg s e = some (s', calls)) :
    Followed p v start period (past ++ [⟨s, e, s', calls⟩]) s' := by
  refine ⟨onTime_step hs.onTime h, fun huniform => ?_⟩
  obtain ⟨_, _, _, _, hstep⟩ := timedStep_eq h
  have hmonitor : s'.uav.monitor = monitorStep cfg s.uav.monitor e := step_monitor hstep
  obtain ⟨now, e⟩ := e
  have hquiet (ht : updateTime ⟨s, (now, e), s', calls⟩ = none)
      (hm : (monitorStep cfg s.uav.monitor (now, e)).edsHist = s.uav.monitor.edsHist) :
      ∃ older, s'.uav.monitor.edsHist.map place = (older ++
        ((updates (past ++ [⟨s, (now, e), s', calls⟩])).filter fun t => decide (period ≤ t)).map
          (course p v)).rtake 3 := by
    rw [hmonitor, hm, updates_concat, ht, Option.toList_none, List.append_nil]
    exact hs.places fun t ht => huniform t (List.mem_append_left _ ht)
  cases e with
  | updateHistory junk =>
      rw [updates_concat]
      exact followed_update hs h huniform
  | updateList tag pos => exact hquiet rfl (edsHist_updateList _ _ _ _)
  | forwardedPacket | receiveToken token => exact hquiet rfl rfl
  | doInitializePrivate w =>
      exact hquiet rfl (congrArg Monitor.edsHist (swept_of_mode hmode now _))

theorem followed_run (hmode : cfg.predictionMode = 1) (junk : Token K) {es : List (Time × Event K)}
    {rest : List (TimedStep K)} {t : TimedStep K}
    (h : timedRun c cfg junk start es = past ++ t :: rest) :
    Followed p v start period (past ++ [t]) t.post := by
  have hstep := step_of_mem (h ▸ List.mem_append_right past List.mem_cons_self)
  refine followed_step hmode (history_invariant (Followed p v start period)
    (fun _ _ _ _ _ hs hstep => followed_step hmode hs hstep) ?_ h) hstep
  refine ⟨onTime_doInitialize hmode junk start, fun _ => ⟨[], ?_⟩⟩
  simp [doInitializeAt, doInitialize, empty, updates]

end History

section Estimate

variable {K : Type} [Field K] [LinearOrder K] [IsStrictOrderedRing K] {c : CMath K}

theorem getLength_smul (hc : c.SqrtExact) (v : Vector3D K) {k : K} (hk : 0 ≤ k) :
    getLength c ⟨k * v.x, k * v.y, 0⟩ = k * planar c v := by
  obtain ⟨hnonneg, hsq⟩ : 0 ≤ planar c v ∧ planar c v * planar c v = v.x * v.x + v.y * v.y :=
    hc _ (add_nonneg (mul_self_nonneg _) (mul_self_nonneg _))
  have hscaled : k * v.x * (k * v.x) + k * v.y * (k * v.y) + 0 * 0 =
      k * planar c v * (k * planar c v) := by
    linear_combination -(k * k) * hsq
  rw [getLength, hscaled, sqrt_mul_self hc, abs_of_nonneg (mul_nonneg hk hnonneg)]

theorem planar_smul (hc : c.SqrtExact) (v : Vector3D K) {k : K} (hk : 0 ≤ k) :
    c.sqrt (k * v.x * (k * v.x) + k * v.y * (k * v.y)) = k * planar c v := by
  rw [← getLength_smul hc v hk, getLength, mul_zero, add_zero]

variable {m : Monitor K} {v : Vector3D K} {e₁ e₂ e₃ : EdsEntry K}

theorem planar_nonneg (hc : c.SqrtExact) (v : Vector3D K) : 0 ≤ planar c v :=
  (hc _ (add_nonneg (mul_self_nonneg _) (mul_self_nonneg _))).1

theorem getDirection_three (hist : m.edsHist = [e₁, e₂, e₃]) (hx : e₃.x - e₁.x = 10 * v.x)
    (hy : e₃.y - e₁.y = 10 * v.y) : getDirection m = ⟨5 * v.x, 5 * v.y, 0⟩ := by
  have hsize : ((3 : Nat) : K) - 1 = 2 := by norm_num
  have hsum : getDirection m = ⟨(0 + (e₂.x - e₁.x) + (e₃.x - e₂.x)) / (((3 : Nat) : K) - 1),
      (0 + (e₂.y - e₁.y) + (e₃.y - e₂.y)) / (((3 : Nat) : K) - 1), 0 + 0 + 0⟩ := by
    rw [getDirection, hist]
    rfl
  rw [hsum, hsize, Vector3D.mk.injEq]
  refine ⟨?_, ?_, by simp⟩ <;> linarith

/-- Of the two steps between three entries one is none at all, the other is
the way of 10 s; the estimate takes either for 10 s. -/
theorem getSpeed_three (hc : c.SqrtExact) (hist : m.edsHist = [e₁, e₂, e₃])
    (hx : e₃.x - e₁.x = 10 * v.x) (hy : e₃.y - e₁.y = 10 * v.y)
    (hmiddle : place e₂ = place e₁ ∨ place e₂ = place e₃) : getSpeed c m = planar c v / 2 := by
  have hsize : ((3 : Nat) : K) - 1 = 2 := by norm_num
  have hsum : getSpeed c m = (0 + getLength c ⟨e₂.x - e₁.x, e₂.y - e₁.y, 0⟩ / 10 +
      getLength c ⟨e₃.x - e₂.x, e₃.y - e₂.y, 0⟩ / 10) / (((3 : Nat) : K) - 1) := by
    rw [getSpeed, hist]
    rfl
  have hstay (a b : EdsEntry K) (h : place b = place a) :
      getLength c ⟨b.x - a.x, b.y - a.y, 0⟩ = 0 := by
    obtain ⟨hbx, hby⟩ := Prod.mk.inj h
    rw [hbx, hby, sub_self, sub_self]
    exact getLength_zero hc.positive
  have hway (a b : EdsEntry K) (h₁ : b.x - a.x = 10 * v.x) (h₂ : b.y - a.y = 10 * v.y) :
      getLength c ⟨b.x - a.x, b.y - a.y, 0⟩ = 10 * planar c v := by
    rw [h₁, h₂]
    exact getLength_smul hc v (by norm_num)
  rw [hsum, hsize]
  rcases hmiddle with h | h
  · obtain ⟨h₁, h₂⟩ := Prod.mk.inj h
    rw [hstay e₁ e₂ h, hway e₂ e₃ (h₁ ▸ hx) (h₂ ▸ hy)]
    ring
  · obtain ⟨h₁, h₂⟩ := Prod.mk.inj h
    rw [hstay e₂ e₃ h.symm, hway e₁ e₂ (h₁ ▸ hx) (h₂ ▸ hy)]
    ring

theorem getSpeedVector_half (hc : c.SqrtExact) (hist : m.edsHist = [e₁, e₂, e₃])
    (hx : e₃.x - e₁.x = 10 * v.x) (hy : e₃.y - e₁.y = 10 * v.y)
    (hmiddle : place e₂ = place e₁ ∨ place e₂ = place e₃) :
    getSpeedVector c m = ⟨v.x / 2, v.y / 2, 0⟩ := by
  rw [getSpeedVector]
  dsimp only
  rw [getDirection_three hist hx hy, getSpeed_three hc hist hx hy hmiddle,
    getLength_smul hc v (by norm_num), planar_smul hc v (by norm_num)]
  split
  · next hpos =>
      have hne : planar c v ≠ 0 := by
        rintro h
        simp [h] at hpos
      rw [Vector3D.mk.injEq]
      refine ⟨?_, ?_, rfl⟩ <;> field_simp
  · next hn =>
      have hzero : getLength c ⟨1 * v.x, 1 * v.y, 0⟩ = 0 := by
        have hnonneg := planar_nonneg hc v
        rw [getLength_smul hc v zero_le_one]
        linarith
      obtain ⟨hvx, hvy, _⟩ := (getLength_eq_zero_iff hc.positive _).mp hzero
      dsimp only at hvx hvy
      rw [one_mul] at hvx hvy
      rw [hvx, hvy, zero_div]
      rfl

end Estimate

section Run

variable {K : Type} [Field K] [LinearOrder K] [IsStrictOrderedRing K] [FloorRing K] {c : CMath K}
  {cfg : Config K} {p v : Vector3D K} {start period : Time}

omit [LinearOrder K] [FloorRing K] [IsStrictOrderedRing K] in
theorem getSeconds_add [CharZero K] (t : Time) :
    (getSeconds (t + seconds 10) : K) = getSeconds t + 10 := by
  rw [getSeconds, getSeconds, seconds]
  push_cast
  ring

theorem half_speed (hc : c.SqrtExact) {past : List (TimedStep K)} {s : Timed K}
    (hs : Followed p v start period past s) (huniform : Uniform p v period past)
    (hthree : 3 ≤ ((updates past).filter fun t => decide (period ≤ t)).length) :
    getSpeedVector c s.uav.monitor = ⟨v.x / 2, v.y / 2, 0⟩ := by
  obtain ⟨older, hplaces⟩ := hs.places huniform
  obtain ⟨made, middle, hmiddle, hlast⟩ := hs.onTime.last_three period hthree
  have hmap : (((updates past).filter fun t => decide (period ≤ t)).map (course p v)).rtake 3 =
      [course p v made, course p v middle, course p v (made + seconds 10)] := by
    rw [List.rtake, List.length_map, ← List.map_drop, ← List.rtake, hlast]
    rfl
  rw [rtake_append_of_le older (by simpa using hthree), hmap] at hplaces
  obtain ⟨e₁, hist₁, h₁, hplace₁, hplaces⟩ := List.map_eq_cons_iff.mp hplaces
  obtain ⟨e₂, hist₂, rfl, hplace₂, hplaces⟩ := List.map_eq_cons_iff.mp hplaces
  obtain ⟨e₃, hist₃, rfl, hplace₃, hnil⟩ := List.map_eq_cons_iff.mp hplaces
  obtain rfl := List.map_eq_nil_iff.mp hnil
  obtain ⟨hx₁, hy₁⟩ := Prod.mk.inj hplace₁
  obtain ⟨hx₃, hy₃⟩ := Prod.mk.inj hplace₃
  rw [getSeconds_add] at hx₃ hy₃
  refine getSpeedVector_half hc h₁ ?_ ?_ ?_
  · rw [hx₁, hx₃]
    ring
  · rw [hy₁, hy₃]
    ring
  · rw [hplace₁, hplace₂, hplace₃]
    exact hmiddle.imp (congrArg _) (congrArg _)

/-- Mode 1 schedules the timer twice, so that it finds its estimate right
exactly for a team that does not move. -/
theorem speed_vector_iff (hc : c.SqrtExact) (hmode : cfg.predictionMode = 1) (junk : Token K)
    (start period : Time) (p v : Vector3D K) (es : List (Time × Event K))
    (huniform : Uniform p v period (timedRun c cfg junk start es)) :
    ∀ past t rest, timedRun c cfg junk start es = past ++ t :: rest →
      3 ≤ ((updates (past ++ [t])).filter fun time => decide (period ≤ time)).length →
      (getSpeedVector c t.post.uav.monitor = ⟨v.x, v.y, 0⟩ ↔ v.x = 0 ∧ v.y = 0) := by
  intro past t rest hrun hthree
  have hpast : Uniform p v period (past ++ [t]) := by
    intro t' ht'
    apply huniform t'
    rw [hrun, ← List.singleton_append, ← List.append_assoc]
    exact List.mem_append_left rest ht'
  have hhalf (a : K) : a / 2 = a ↔ a = 0 := ⟨fun h => by linarith, fun h => by rw [h, zero_div]⟩
  rw [half_speed hc (followed_run hmode junk hrun) hpast hthree, Vector3D.mk.injEq]
  simp only [hhalf, and_true]

end Run

section Scenario

noncomputable def teamConfig : Config ℝ := ⟨1, 10, 30, 1 / 2, 10, 10, 1, 0, 100, true, [2]⟩

noncomputable def eastward : List (Time × Event ℝ) :=
  [(seconds 10, .updateList (some 5) ⟨10, 50, 0⟩), (seconds 10, .updateHistory ⟨0, 0, 0⟩),
    (seconds 10, .updateHistory ⟨0, 0, 0⟩), (seconds 20, .updateList (some 5) ⟨20, 50, 0⟩),
    (seconds 20, .updateHistory ⟨0, 0, 0⟩)]

def only (id : Nat) (e : EdsEntry ℝ) : EdsMap ℝ := (∅ : EdsMap ℝ).insert id e

theorem insert_only (id : Nat) (e e' : EdsEntry ℝ) : (only id e).insert id e' = only id e' := by
  apply Std.ExtTreeMap.ext_getElem?
  intro k
  simp only [only, Std.ExtTreeMap.getElem?_insert]
  split <;> rfl

theorem heard_only {id : Nat} {d : EdsEntry ℝ} {m : Monitor ℝ} {now tolerance : Time}
    (h : m.eds = only id d) (hd : now < d.time + tolerance) : heard now tolerance m = [d] := by
  have hall : getEdsList now tolerance m = only id d := by
    apply Std.ExtTreeMap.ext_getElem?
    intro k
    rw [getEdsList, h, Std.ExtTreeMap.getElem?_filter', only, Std.ExtTreeMap.getElem?_insert]
    split <;> simp [hd, Option.filter]
  rw [heard, hall]
  rfl

theorem eastward_run : ∃ t₀ t₁ t₂ t₃ t₄ : TimedStep ℝ,
    timedRun realMath teamConfig ⟨0, 0, 0, 0, 0, 0⟩ 0 eastward = [t₀, t₁, t₂, t₃, t₄] ∧
    t₁.pre.uav.monitor.eds = only 5 ⟨10, 50, seconds 10⟩ ∧
    t₂.pre.uav.monitor.eds = only 5 ⟨10, 50, seconds 10⟩ ∧
    t₄.pre.uav.monitor.eds = only 5 ⟨20, 50, seconds 20⟩ := by
  have hfirst (m : Monitor ℝ) (h : m.eds = ∅) :
      (updateList (seconds 10) (some 5) ⟨10, 50, 0⟩ m).eds = only 5 ⟨10, 50, seconds 10⟩ := by
    rw [eds_updateList_eq, h]
    rfl
  have hsecond (m : Monitor ℝ) (h : m.eds = only 5 ⟨10, 50, seconds 10⟩) :
      (updateList (seconds 20) (some 5) ⟨20, 50, 0⟩ m).eds = only 5 ⟨20, 50, seconds 20⟩ := by
    rw [eds_updateList_eq, h, insert_only]
  refine ⟨_, _, _, _, _, rfl, hfirst _ rfl, (eds_updateHistory _ _ _ _).trans (hfirst _ rfl), ?_⟩
  apply hsecond
  exact (eds_updateHistory _ _ _ _).trans ((eds_updateHistory _ _ _ _).trans (hfirst _ rfl))

theorem recordsCourse_of_heard {p v : Vector3D ℝ} {t : TimedStep ℝ} {time : Time} {d : EdsEntry ℝ}
    (hstep : timedStep realMath teamConfig t.pre t.event = some (t.post, t.out))
    (hevent : t.event.2 = .updateHistory ⟨0, 0, time⟩)
    (hheard : heard t.event.1 (seconds 20) t.pre.uav.monitor = [d])
    (hd : place d = course p v t.event.1) : RecordsCourse p v t := by
  obtain ⟨_, _, _, _, hstep⟩ := timedStep_eq hstep
  have hmonitor : t.post.uav.monitor =
      updateHistory t.event.1 (seconds 20) ⟨0, 0, time⟩ t.pre.uav.monitor := by
    rw [step_monitor hstep, monitorStep, hevent]
  refine ⟨entryOf ⟨0, 0, time⟩ [d], ?_, ?_⟩
  · rw [← hd]
    simp [place, entryOf]
  · rw [hmonitor, updateHistory_of_some (by simp [hheard]), hheard]

theorem eastward_uniform : Uniform ⟨0, 50, 0⟩ ⟨1, 0, 0⟩ 0
    (timedRun realMath teamConfig ⟨0, 0, 0, 0, 0, 0⟩ 0 eastward) := by
  obtain ⟨t₀, t₁, t₂, t₃, t₄, hrun, h₁, h₂, h₄⟩ := eastward_run
  have hevent (i : Nat) (t : TimedStep ℝ) (h : [t₀, t₁, t₂, t₃, t₄][i]? = some t) :
      eastward[i]? = some t.event := event_of_getElem? (hrun ▸ h)
  have hstep (t : TimedStep ℝ) (h : t ∈ [t₀, t₁, t₂, t₃, t₄]) :
      timedStep realMath teamConfig t.pre t.event = some (t.post, t.out) := step_of_mem (hrun ▸ h)
  have he₀ := Option.some.inj (hevent 0 t₀ rfl)
  have he₁ := Option.some.inj (hevent 1 t₁ rfl)
  have he₂ := Option.some.inj (hevent 2 t₂ rfl)
  have he₃ := Option.some.inj (hevent 3 t₃ rfl)
  have he₄ := Option.some.inj (hevent 4 t₄ rfl)
  rw [hrun]
  rintro t ht ⟨junk, hj⟩ _
  have hrecords (x : ℝ) (time : Int) (hte : t.event = (seconds time, .updateHistory ⟨0, 0, 0⟩))
      (heds : t.pre.uav.monitor.eds = only 5 ⟨x, 50, seconds time⟩)
      (hx : x = getSeconds (seconds time)) : RecordsCourse ⟨0, 50, 0⟩ ⟨1, 0, 0⟩ t := by
    refine recordsCourse_of_heard (hstep t ht) (congrArg Prod.snd hte)
      (heard_only heds (by rw [hte]; simp [seconds])) ?_
    rw [hte, hx]
    simp [place, course]
  simp only [List.mem_cons, List.not_mem_nil, or_false] at ht
  rcases ht with rfl | rfl | rfl | rfl | rfl
  · rw [← he₀] at hj
    cases hj
  · exact hrecords 10 10 he₁.symm h₁ (by norm_num [getSeconds, seconds])
  · exact hrecords 10 10 he₂.symm h₂ (by norm_num [getSeconds, seconds])
  · rw [← he₃] at hj
    cases hj
  · exact hrecords 20 20 he₄.symm h₄ (by norm_num [getSeconds, seconds])

theorem eastward_three : ∃ past t,
    timedRun realMath teamConfig ⟨0, 0, 0, 0, 0, 0⟩ 0 eastward = past ++ [t] ∧
    3 ≤ ((updates (past ++ [t])).filter fun time => decide (0 ≤ time)).length := by
  obtain ⟨t₀, t₁, t₂, t₃, t₄, hrun, _⟩ := eastward_run
  have hevent (i : Nat) (t : TimedStep ℝ) (h : [t₀, t₁, t₂, t₃, t₄][i]? = some t) :
      eastward[i]? = some t.event := event_of_getElem? (hrun ▸ h)
  have he₀ := Option.some.inj (hevent 0 t₀ rfl)
  have he₁ := Option.some.inj (hevent 1 t₁ rfl)
  have he₂ := Option.some.inj (hevent 2 t₂ rfl)
  have he₃ := Option.some.inj (hevent 3 t₃ rfl)
  have he₄ := Option.some.inj (hevent 4 t₄ rfl)
  refine ⟨[t₀, t₁, t₂, t₃], t₄, hrun, ?_⟩
  simp [updates, updateTime, ← he₀, ← he₁, ← he₂, ← he₃, ← he₄, seconds]

theorem speed_vector_iff_eastward : ∃ past t,
    timedRun realMath teamConfig ⟨0, 0, 0, 0, 0, 0⟩ 0 eastward = past ++ [t] ∧
    (getSpeedVector realMath t.post.uav.monitor = ⟨1, 0, 0⟩ ↔ (1 : ℝ) = 0 ∧ (0 : ℝ) = 0) := by
  obtain ⟨past, t, hrun, hthree⟩ := eastward_three
  refine ⟨past, t, hrun, ?_⟩
  exact speed_vector_iff realMath_sqrtExact rfl ⟨0, 0, 0, 0, 0, 0⟩ 0 0 ⟨0, 50, 0⟩ ⟨1, 0, 0⟩ eastward
    eastward_uniform past t [] hrun hthree

theorem speed_halved :
    ¬ ∀ (es : List (Time × Event ℝ)) (p v : Vector3D ℝ) (period : Time),
      Uniform p v period (timedRun realMath teamConfig ⟨0, 0, 0, 0, 0, 0⟩ 0 es) → ∀ past t rest,
        timedRun realMath teamConfig ⟨0, 0, 0, 0, 0, 0⟩ 0 es = past ++ t :: rest →
        3 ≤ ((updates (past ++ [t])).filter fun time => decide (period ≤ time)).length →
        getSpeedVector realMath t.post.uav.monitor = ⟨v.x, v.y, 0⟩ := by
  intro h
  obtain ⟨past, t, hrun, hthree⟩ := eastward_three
  have hfull := h eastward ⟨0, 50, 0⟩ ⟨1, 0, 0⟩ 0 eastward_uniform past t [] hrun hthree
  have hhalf : getSpeedVector realMath t.post.uav.monitor = ⟨1 / 2, 0 / 2, 0⟩ :=
    half_speed realMath_sqrtExact (followed_run rfl _ hrun) (hrun ▸ eastward_uniform) hthree
  rw [hhalf, Vector3D.mk.injEq] at hfull
  norm_num at hfull

end Scenario

end UavMonitoring.SpeedVector
