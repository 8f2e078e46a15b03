import UavMonitoring.LoadMonitor
import UavMonitoring.BoundedQueue
import UavMonitoring.Rounding
import UavMonitoring.Runs

namespace UavMonitoring.LoadRuns

open Basics LoadMonitor BoundedQueue Rounding Runs

inductive Event
  | forwardedPacket
  | getLoad
  | isBusy
deriving DecidableEq

inductive Answer (K : Type)
  | nothing
  | load (l : K)
  | busy (b : Bool)

section Run

variable {K : Type} [Field K] [LinearOrder K]

def step (r : Arithmetic K) (m : LoadWindow) (e : Time × Event) : Option (LoadWindow × Answer K) :=
  match e.2 with
  | .forwardedPacket => some (forwardedPacket e.1 m, .nothing)
  | .getLoad => some (m, .load (getLoad r.round e.1 m))
  | .isBusy => some (m, .busy (isBusy e.1 m))

def start (interval : Time) : LoadWindow := setLoadInterval interval ⟨0, []⟩

def forwardedAt (e : Time × Event) : Option Time := if e.2 = .forwardedPacket then some e.1 else none

def fullLog (past : List (Transition LoadWindow (Time × Event) (Answer K))) : List Time :=
  past.filterMap fun t => forwardedAt t.event

def InOrder (es : List (Time × Event)) : Prop :=
  es.Pairwise fun a b => a.2 = .forwardedPacket → a.1 ≤ b.1

omit [Field K] [LinearOrder K] in
theorem mem_fullLog {past : List (Transition LoadWindow (Time × Event) (Answer K))} {t : Time} :
    t ∈ fullLog past ↔ ∃ e ∈ past.map Transition.event, e.2 = .forwardedPacket ∧ e.1 = t := by
  simp only [fullLog, forwardedAt, List.mem_filterMap, List.mem_map, exists_exists_and_eq_and]
  simp

omit [Field K] [LinearOrder K] in
theorem fullLog_concat (past : List (Transition LoadWindow (Time × Event) (Answer K)))
    (t : Transition LoadWindow (Time × Event) (Answer K)) :
    fullLog (past ++ [t]) = fullLog past ++ (forwardedAt t.event).toList := by
  cases h : forwardedAt t.event <;> simp [fullLog, h]

omit [Field K] [LinearOrder K] in
theorem fullLog_sorted {past : List (Transition LoadWindow (Time × Event) (Answer K))}
    (h : InOrder (past.map Transition.event)) : (fullLog past).Pairwise (· ≤ ·) := by
  rw [InOrder, List.pairwise_map] at h
  rw [fullLog, List.pairwise_filterMap]
  apply h.imp
  intro a b hab t ht t' ht'
  simp only [forwardedAt, Option.ite_none_right_eq_some, Option.some.injEq] at ht ht'
  rw [← ht.2, ← ht'.2]
  exact hab ht.1

omit [Field K] [LinearOrder K] in
theorem fullLog_le {past : List (Transition LoadWindow (Time × Event) (Answer K))}
    {t : Transition LoadWindow (Time × Event) (Answer K)}
    (hord : InOrder ((past ++ [t]).map Transition.event)) : ∀ a ∈ fullLog past, a ≤ t.event.1 := by
  rw [InOrder, List.map_append, List.pairwise_append] at hord
  intro a ha
  obtain ⟨e, he, hf, rfl⟩ := mem_fullLog.mp ha
  exact hord.2.2 e he _ (List.mem_singleton_self _) hf

/-- Once the packets were forwarded in order, the window is a suffix of the full
log, cut at a point that no later cut-off lies before. -/
def Window (interval : Time) (past : List (Transition LoadWindow (Time × Event) (Answer K)))
    (m : LoadWindow) : Prop :=
  m.interval = interval ∧ (InOrder (past.map Transition.event) →
    ∃ cut, m.load = (fullLog past).filter (fun t => decide (cut ≤ t)) ∧
      ∀ now, (∀ t ∈ fullLog past, t ≤ now) → fullLog past ≠ [] → cut ≤ now - interval)

omit [Field K] [LinearOrder K] in
theorem prune_window {interval now : Time}
    {past : List (Transition LoadWindow (Time × Event) (Answer K))} {m : LoadWindow}
    (h : Window interval past m) (hord : InOrder (past.map Transition.event))
    (hnow : ∀ t ∈ fullLog past, t ≤ now) :
    prune now m = (fullLog past).filter (fun t => decide (now - interval ≤ t)) := by
  obtain ⟨rfl, hload⟩ := h
  obtain ⟨cut, hcut, hle⟩ := hload hord
  rw [prune, hcut]
  by_cases hnil : fullLog past = []
  · rw [hnil]
    rfl
  · exact dropWhile_lt_filter (hle now hnow hnil) (fullLog_sorted hord)

omit [Field K] [LinearOrder K] in
theorem window_start (interval : Time) :
    Window interval ([] : List (Transition LoadWindow (Time × Event) (Answer K))) (start interval) :=
  ⟨rfl, fun _ => ⟨0, rfl, fun _ _ hne => absurd rfl hne⟩⟩

omit [Field K] [LinearOrder K] in
theorem window_query {interval : Time}
    {past : List (Transition LoadWindow (Time × Event) (Answer K))} {m : LoadWindow}
    (h : Window interval past m) (t : Transition LoadWindow (Time × Event) (Answer K))
    (hquery : t.event.2 ≠ .forwardedPacket) : Window interval (past ++ [t]) m := by
  have hlog : fullLog (past ++ [t]) = fullLog past := by
    rw [fullLog_concat, forwardedAt, if_neg hquery]
    simp
  refine ⟨h.1, fun hord => ?_⟩
  rw [hlog]
  rw [InOrder, List.map_append, List.pairwise_append] at hord
  exact h.2 hord.1

omit [Field K] [LinearOrder K] in
theorem window_forwardedPacket {interval : Time} (hpos : 0 < interval)
    {past : List (Transition LoadWindow (Time × Event) (Answer K))} {m : LoadWindow}
    (h : Window interval past m) (t : Transition LoadWindow (Time × Event) (Answer K))
    (hevent : t.event.2 = .forwardedPacket) :
    Window interval (past ++ [t]) (forwardedPacket t.event.1 m) := by
  have hlog : fullLog (past ++ [t]) = fullLog past ++ [t.event.1] := by
    rw [fullLog_concat, forwardedAt, if_pos hevent]
    rfl
  refine ⟨h.1, fun hord => ⟨t.event.1 - interval, ?_, ?_⟩⟩
  · have hkeep : [t.event.1].filter (fun a => decide (t.event.1 - interval ≤ a)) = [t.event.1] := by
      simpa using hpos.le
    rw [hlog, List.filter_append, hkeep, forwardedPacket,
      prune_window h (hord.sublist (by simp)) (fullLog_le hord)]
  · intro now hnow _
    exact sub_le_sub_right (hnow t.event.1 (by simp [hlog])) interval

theorem window_step (r : Arithmetic K) {interval : Time} (hpos : 0 < interval)
    (past : List (Transition LoadWindow (Time × Event) (Answer K))) (m : LoadWindow)
    (e : Time × Event) (m' : LoadWindow) (o : Answer K) (h : Window interval past m)
    (hstep : step r m e = some (m', o)) : Window interval (past ++ [⟨m, e, m', o⟩]) m' := by
  obtain ⟨now, e⟩ := e
  cases e with
  | forwardedPacket =>
      obtain ⟨rfl, _⟩ := Prod.mk.inj (Option.some.inj hstep)
      exact window_forwardedPacket hpos h _ rfl
  | getLoad =>
      obtain ⟨rfl, _⟩ := Prod.mk.inj (Option.some.inj hstep)
      exact window_query h _ (by simp)
  | isBusy =>
      obtain ⟨rfl, _⟩ := Prod.mk.inj (Option.some.inj hstep)
      exact window_query h _ (by simp)

def recent (interval now : Time) (log : List Time) : Nat :=
  log.countP fun t => decide (now - interval ≤ t)

omit [Field K] [LinearOrder K] in
theorem length_prune {interval now : Time}
    {past : List (Transition LoadWindow (Time × Event) (Answer K))} {m : LoadWindow}
    (h : Window interval past m) (hord : InOrder (past.map Transition.event))
    (hnow : ∀ t ∈ fullLog past, t ≤ now) :
    (prune now m).length = recent interval now (fullLog past) := by
  rw [prune_window h hord hnow, recent, List.countP_eq_length_filter]

theorem prune_nil {now : Time} {m : LoadWindow} (h : m.load = []) : prune now m = [] := by
  rw [prune, h]
  rfl

theorem isBusy_iff (now : Time) (m : LoadWindow) : isBusy now m = true ↔ 0 < (prune now m).length := by
  rw [isBusy]
  split
  · next h => simp [prune_nil h]
  · simp

theorem getLoad_eq [IsStrictOrderedRing K] (r : Arithmetic K) (now : Time) (m : LoadWindow) :
    getLoad r.round now m = r.round (r.round (prune now m).length / r.round (getSeconds m.interval)) := by
  rw [getLoad]
  split
  · next h => simp [prune_nil h, r.round_zero]
  · rfl

theorem getLoad_mul [IsStrictOrderedRing K] (r : Arithmetic K) (now : Time) {m : LoadWindow}
    (hpos : 0 < m.interval) :
    |getLoad r.round now m * getSeconds m.interval - (prune now m).length| ≤
      r.divError * (prune now m).length := by
  have hsec : (0 : K) < getSeconds m.interval := by
    have hint : (0 : K) < m.interval := Int.cast_pos.mpr hpos
    rw [getSeconds]
    positivity
  rw [getLoad_eq]
  exact r.div_mul_close (Nat.cast_nonneg _) hsec

theorem getLoad_unrounded [IsStrictOrderedRing K] (now : Time) {m : LoadWindow} (hpos : 0 < m.interval) :
    getLoad id now m * getSeconds m.interval = ((prune now m).length : K) := by
  have h := getLoad_mul (unrounded : Arithmetic K) now hpos
  rwa [divError_unrounded, zero_mul, abs_nonpos_iff, sub_eq_zero] at h

def packetsOnly (interval : Time) (log : List Time) : LoadWindow :=
  log.foldl (fun m now => forwardedPacket now m) (start interval)

theorem packetsOnly_step (r : Arithmetic K) (interval : Time)
    (past : List (Transition LoadWindow (Time × Event) (Answer K))) (m : LoadWindow)
    (e : Time × Event) (m' : LoadWindow) (o : Answer K) (h : m = packetsOnly interval (fullLog past))
    (hstep : step r m e = some (m', o)) :
    m' = packetsOnly interval (fullLog (past ++ [⟨m, e, m', o⟩])) := by
  rw [fullLog_concat, packetsOnly, List.foldl_append]
  obtain ⟨now, e⟩ := e
  cases e <;> obtain ⟨rfl, _⟩ := Prod.mk.inj (Option.some.inj hstep)
  · exact congrArg (forwardedPacket now) h
  · exact h
  · exact h

/-- Whatever packets and queries came before, a query is answered as from the
full log, up to the rounding of the quotient, and in the state the packets
alone would have led to. -/
theorem window_refines_log [IsStrictOrderedRing K] (r : Arithmetic K) {interval : Time}
    (hpos : 0 < interval) {es : List (Time × Event)} (hord : InOrder es)
    {pre post : List (Transition LoadWindow (Time × Event) (Answer K))}
    {t : Transition LoadWindow (Time × Event) (Answer K)}
    (h : transitions (step r) (start interval) es = pre ++ t :: post) :
    let n := recent interval t.event.1 (fullLog pre)
    (t.event.2 = .getLoad → ∃ l, t.out = .load l ∧
      l = r.round (r.round n / r.round (getSeconds interval)) ∧
      |l * getSeconds interval - n| ≤ r.divError * n) ∧
    (t.event.2 = .isBusy → ∃ b, t.out = .busy b ∧ (b = true ↔ 0 < n)) ∧
    t.pre = packetsOnly interval (fullLog pre) := by
  intro n
  have hwin : Window interval pre t.pre :=
    history_invariant (Window interval) (window_step r hpos) (window_start interval) h
  have hmem : t ∈ transitions (step r) (start interval) es := by simp [h]
  have hstep := step_of_mem hmem
  have hpast : InOrder ((pre ++ [t]).map Transition.event) := by
    have hprefix := events_prefix (step r) (start interval) es
    rw [h, List.append_cons, List.map_append] at hprefix
    exact hord.sublist ((List.prefix_append _ _).trans hprefix).sublist
  have hlen : (prune t.event.1 t.pre).length = n :=
    length_prune hwin (hpast.sublist (by simp)) (fullLog_le hpast)
  refine ⟨?_, ?_, ?_⟩
  · intro hevent
    rw [step, hevent] at hstep
    refine ⟨_, (Prod.mk.inj (Option.some.inj hstep)).2.symm, ?_⟩
    rw [← hlen, ← hwin.1]
    exact ⟨getLoad_eq r _ _, getLoad_mul r _ (hwin.1 ▸ hpos)⟩
  · intro hevent
    rw [step, hevent] at hstep
    refine ⟨_, (Prod.mk.inj (Option.some.inj hstep)).2.symm, ?_⟩
    rw [← hlen]
    exact isBusy_iff _ _
  · exact history_invariant (fun past m => m = packetsOnly interval (fullLog past))
      (packetsOnly_step r interval) rfl h

end Run

def threePackets : List (Time × Event) :=
  [(seconds 0, .forwardedPacket), (seconds 4, .isBusy), (seconds 7, .forwardedPacket),
    (seconds 8, .forwardedPacket), (seconds 12, .getLoad)]

def packetsBefore : List (Transition LoadWindow (Time × Event) (Answer ℚ)) :=
  (transitions (step binary64) (start (seconds 10)) threePackets).take 4

def query : Transition LoadWindow (Time × Event) (Answer ℚ) :=
  let m : LoadWindow := ⟨seconds 10, [seconds 0, seconds 7, seconds 8]⟩
  ⟨m, (seconds 12, .getLoad), m, .load (getLoad binary64.round (seconds 12) m)⟩

theorem window_refines_log_three_packets :
    recent (seconds 10) (seconds 12) (fullLog packetsBefore) = 2 ∧
      ∃ l : ℚ, query.out = .load l ∧
        l = binary64.round (binary64.round 2 / binary64.round (getSeconds (seconds 10))) ∧
        |l * getSeconds (seconds 10) - 2| ≤ binary64.divError * 2 :=
  ⟨by decide, (window_refines_log binary64 (by decide) (by simp [InOrder, threePackets, seconds])
    (show transitions (step binary64) (start (seconds 10)) threePackets = packetsBefore ++ query :: [] from
      rfl)).1 rfl⟩

def thirteenPackets : List (Time × Event) :=
  (List.range 13).map (fun i => (seconds i, .forwardedPacket)) ++ [(seconds 20, .getLoad)]

/-- Thirteen packets in three minutes make a load of which neither the exact
nor the rounded product with the interval is 13. -/
theorem rounded_load :
    ¬ ∀ (interval : Time) (es : List (Time × Event)), 0 < interval → InOrder es →
      ∀ (pre post : List (Transition LoadWindow (Time × Event) (Answer ℚ)))
        (t : Transition LoadWindow (Time × Event) (Answer ℚ)),
      transitions (step binary64) (start interval) es = pre ++ t :: post → t.event.2 = .getLoad →
      ∃ l : ℚ, t.out = .load l ∧
        (l * getSeconds interval = recent interval t.event.1 (fullLog pre) ∨
          binary64.round (l * getSeconds interval) = recent interval t.event.1 (fullLog pre)) := by
  intro h
  let m : LoadWindow := ⟨seconds 180, (List.range 13).map seconds⟩
  let past := (transitions (step binary64) (start (seconds 180)) thirteenPackets).take 13
  have hrun : transitions (step binary64) (start (seconds 180)) thirteenPackets =
      past ++ ⟨m, (seconds 20, .getLoad), m, .load (getLoad binary64.round (seconds 20) m)⟩ :: [] := rfl
  have hord : InOrder thirteenPackets := by
    rw [InOrder]
    decide
  obtain ⟨l, hl, hl'⟩ := h (seconds 180) thirteenPackets (by decide) hord _ _ _ hrun rfl
  cases hl
  have hcount : recent (seconds 180) (seconds 20) (fullLog past) = 13 := by decide +kernel
  rw [hcount] at hl'
  exact absurd hl' (by decide +kernel)

end UavMonitoring.LoadRuns
