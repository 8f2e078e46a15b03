import Mathlib.Data.Finset.Card
import Mathlib.Data.Finset.Lattice.Lemmas
import Mathlib.Data.List.Dedup
import UavMonitoring.Basics
import UavMonitoring.CounterLoop

namespace UavMonitoring.CoverageTracker

open Basics CounterLoop

structure Tracker where
  connTracker : List (Int × Nat)
  lastInsert : Time
  curConn : Finset Int
deriving DecidableEq

def start : Tracker := ⟨[], seconds (-1), ∅⟩

def nextInstant (curTime : Time) (s : Tracker) : Tracker :=
  if s.lastInsert < curTime then
    ⟨s.connTracker ++ [(getMilliSeconds s.lastInsert, s.curConn.card)], curTime, ∅⟩
  else s

def changedConnectivity (curTime : Time) (coveredList : List Int) (s : Tracker) : Option Tracker :=
  let s' := nextInstant curTime s
  (accumulate 16 coveredList (fun conn ed => insert ed conn) s'.curConn).map
    fun conn => { s' with curConn := conn }

abbrev Reports := List (Time × List Int)

def run (es : Reports) : Option Tracker :=
  es.foldlM (fun s e => changedConnectivity e.1 e.2 s) start

section Average

variable {K : Type} [Field K] [DecidableEq K]

def addShare (members : UInt32) (totCovered : Option K) (pair : Int × Nat) : Option K := do
  (← totCovered) + (← divDouble (pair.2 : K) (members.toNat : K))

def writeAvgCoverageStats (numMembers numTeams : UInt32) (connTracker : List (Int × Nat)) :
    Option (Option K) :=
  (accumulate 16 connTracker (addShare (numMembers * numTeams)) (some 0)).map
    fun totCovered => totCovered.bind (divDouble · connTracker.length)

end Average

def reportTimes (es : Reports) : List Time := (es.map Prod.fst).dedup

def covered (es : Reports) (t : Time) : Finset Int :=
  ((es.filter (fun e => e.1 = t)).flatMap Prod.snd).toFinset

def measurement (es : Reports) (t : Time) : Int × Nat := (getMilliSeconds t, (covered es t).card)

/-- One entry for each instant with a report, and nothing else. -/
def Complete (es : Reports) : Prop :=
  ∃ s, run es = some s ∧ s.connTracker.Perm ((reportTimes es).map (measurement es))

theorem foldl_insert (coveredList : List Int) (conn : Finset Int) :
    coveredList.foldl (fun conn ed => insert ed conn) conn = conn ∪ coveredList.toFinset := by
  induction coveredList generalizing conn with
  | nil => simp
  | cons ed coveredList ih =>
      rw [List.foldl_cons, ih, List.toFinset_cons, Finset.insert_union, Finset.union_insert]

theorem changedConnectivity_eq_some_iff (curTime : Time) (coveredList : List Int) (s s' : Tracker) :
    changedConnectivity curTime coveredList s = some s' ↔ coveredList.length < 2 ^ 16 ∧
      s' = ⟨(nextInstant curTime s).connTracker, (nextInstant curTime s).lastInsert,
        (nextInstant curTime s).curConn ∪ coveredList.toFinset⟩ := by
  simp only [changedConnectivity, Option.map_eq_some_iff, accumulate_eq_some_iff, foldl_insert]
  constructor
  · rintro ⟨conn, ⟨hlen, rfl⟩, rfl⟩
    exact ⟨hlen, rfl⟩
  · rintro ⟨hlen, rfl⟩
    exact ⟨_, ⟨hlen, rfl⟩, rfl⟩

theorem covered_concat (es : Reports) (e : Time × List Int) (t : Time) :
    covered (es ++ [e]) t = if e.1 = t then covered es t ∪ e.2.toFinset else covered es t := by
  by_cases h : e.1 = t
  · simp [covered, List.filter_append, h, List.toFinset_append]
  · simp [covered, List.filter_append, h]

theorem mem_reportTimes {es : Reports} {t : Time} : t ∈ reportTimes es ↔ ∃ e ∈ es, e.1 = t := by
  rw [reportTimes, List.mem_dedup, List.mem_map]

theorem covered_of_not_mem {es : Reports} {t : Time} (h : t ∉ reportTimes es) : covered es t = ∅ := by
  have hnone : es.filter (fun e => e.1 = t) = [] := by
    rw [List.filter_eq_nil_iff]
    intro e he
    simpa using fun ht => h (mem_reportTimes.mpr ⟨e, he, ht⟩)
  rw [covered, hnone]
  rfl

theorem reportTimes_concat_of_not_mem {es : Reports} {e : Time × List Int}
    (h : e.1 ∉ reportTimes es) : reportTimes (es ++ [e]) = reportTimes es ++ [e.1] := by
  have hdisj : List.Disjoint (es.map Prod.fst) [e.1] := by
    rw [reportTimes, List.mem_dedup] at h
    simpa using h
  rw [reportTimes, List.map_append, List.map_singleton, hdisj.dedup_append]
  rfl

theorem dedup_concat_last {τ : Type} [DecidableEq τ] {l earlier : List τ} {t : τ}
    (h : l.dedup = earlier ++ [t]) : (l ++ [t]).dedup = earlier ++ [t] := by
  induction l generalizing earlier with
  | nil => simp at h
  | cons a l ih =>
      have ht : t ∈ a :: l := List.mem_dedup.mp (by simp [h])
      rw [List.cons_append]
      by_cases ha : a ∈ l
      · rw [List.dedup_cons_of_mem ha] at h
        rw [List.dedup_cons_of_mem (List.mem_append_left _ ha), ih h]
      · rw [List.dedup_cons_of_notMem ha] at h
        cases earlier with
        | nil =>
            obtain ⟨rfl, hl⟩ := List.cons.inj h
            rw [(List.dedup_eq_nil l).mp hl, List.nil_append,
              List.dedup_cons_of_mem (List.mem_singleton_self a)]
            rfl
        | cons b earlier =>
            obtain ⟨rfl, hl⟩ := List.cons.inj h
            have htl : t ∈ l := List.mem_dedup.mp (by simp [hl])
            have ha' : a ∉ l ++ [t] := by
              rw [List.mem_append, List.mem_singleton, not_or]
              exact ⟨ha, fun he => ha (he ▸ htl)⟩
            rw [List.dedup_cons_of_notMem ha', ih hl]
            rfl

/-- After a report: the instant of the last one is still held back, and the
tracker shows all earlier ones behind an entry for the second before the start. -/
structure Flushed (es : Reports) (s : Tracker) (earlier : List Time) : Prop where
  times : reportTimes es = earlier ++ [s.lastInsert]
  latest : ∀ t ∈ reportTimes es, t ≤ s.lastInsert
  curConn : s.curConn = covered es s.lastInsert
  connTracker : s.connTracker = (-1000, 0) :: earlier.map (measurement es)

theorem measurement_concat {es : Reports} {e : Time × List Int} {t : Time} (h : t ≠ e.1) :
    measurement (es ++ [e]) t = measurement es t := by
  rw [measurement, covered_concat, if_neg h.symm, measurement]

theorem flushed_first {e : Time × List Int} {s : Tracker} (he : 0 ≤ e.1)
    (h : changedConnectivity e.1 e.2 start = some s) : Flushed [e] s [] := by
  have hlt : start.lastInsert < e.1 := lt_of_lt_of_le (by decide) he
  obtain ⟨_, rfl⟩ := (changedConnectivity_eq_some_iff ..).mp h
  rw [nextInstant, if_pos hlt]
  refine ⟨rfl, ?_, ?_, rfl⟩
  · intro t ht
    exact (List.mem_singleton.mp ht).le
  · simp [covered]

theorem flushed_step {es : Reports} {e : Time × List Int} {s s' : Tracker} {earlier : List Time}
    (hs : Flushed es s earlier) (hle : s.lastInsert ≤ e.1)
    (h : changedConnectivity e.1 e.2 s = some s') : ∃ earlier', Flushed (es ++ [e]) s' earlier' := by
  obtain ⟨_, rfl⟩ := (changedConnectivity_eq_some_iff ..).mp h
  rcases hle.lt_or_eq with hlt | heq
  · have hnew : e.1 ∉ reportTimes es := fun he => (hs.latest _ he).not_gt hlt
    have hsame : ∀ t ∈ reportTimes es, measurement (es ++ [e]) t = measurement es t :=
      fun t ht => measurement_concat fun he => hnew (he ▸ ht)
    have hmap : (reportTimes es).map (measurement (es ++ [e])) =
        (reportTimes es).map (measurement es) := List.map_congr_left hsame
    rw [nextInstant, if_pos hlt]
    refine ⟨earlier ++ [s.lastInsert], ?_, ?_, ?_, ?_⟩
    · rw [reportTimes_concat_of_not_mem hnew, hs.times]
    · rw [reportTimes_concat_of_not_mem hnew]
      intro t ht
      rcases List.mem_append.mp ht with ht | ht
      · exact (hs.latest t ht).trans hle
      · exact (List.mem_singleton.mp ht).le
    · rw [covered_concat, if_pos rfl, covered_of_not_mem hnew]
    · rw [hs.times, List.map_append, List.map_append] at hmap
      simp only [List.map_append, hs.connTracker, hs.curConn, hmap, List.cons_append]
      rfl
  · have hold : reportTimes (es ++ [e]) = reportTimes es := by
      have htimes := hs.times
      rw [reportTimes] at htimes ⊢
      rw [List.map_append, List.map_singleton, ← heq, dedup_concat_last htimes, reportTimes, htimes]
    have hnodup : (earlier ++ [s.lastInsert]).Nodup := hs.times ▸ List.nodup_dedup _
    rw [nextInstant, if_neg heq.not_lt]
    refine ⟨earlier, ?_, ?_, ?_, ?_⟩
    · rw [hold, hs.times]
    · rw [hold]
      exact hs.latest
    · rw [covered_concat, if_pos heq.symm, hs.curConn]
    · rw [hs.connTracker]
      congr 1
      apply List.map_congr_left
      intro t ht
      rw [measurement_concat]
      rintro rfl
      exact (List.nodup_append.mp hnodup).2.2 _ ht _ (List.mem_singleton_self _) heq.symm

theorem run_concat (es : Reports) (e : Time × List Int) (s : Tracker) :
    run (es ++ [e]) = some s ↔ ∃ s₀, run es = some s₀ ∧ changedConnectivity e.1 e.2 s₀ = some s := by
  simp only [run, List.foldlM_append, List.foldlM_cons, List.foldlM_nil, bind_pure]
  exact Option.bind_eq_some_iff

theorem flushed_run {es : Reports} (hne : es ≠ []) (htime : es.Pairwise (fun a b => a.1 ≤ b.1))
    (hstart : ∀ e ∈ es, 0 ≤ e.1) {s : Tracker} (h : run es = some s) :
    ∃ earlier, Flushed es s earlier := by
  induction es using List.reverseRecOn generalizing s with
  | nil => exact absurd rfl hne
  | append_singleton es e ih =>
      obtain ⟨s₀, hrun, hstep⟩ := (run_concat es e s).mp h
      obtain ⟨hes, _, hlast⟩ := List.pairwise_append.mp htime
      by_cases hnil : es = []
      · subst hnil
        obtain rfl := Option.some.inj hrun
        exact ⟨[], flushed_first (hstart e (by simp)) hstep⟩
      · obtain ⟨earlier, hs⟩ := ih hnil hes (fun a ha => hstart a (by simp [ha])) hrun
        have hmem : s₀.lastInsert ∈ reportTimes es := by simp [hs.times]
        obtain ⟨a, ha, hle⟩ := mem_reportTimes.mp hmem
        exact flushed_step hs (hle ▸ hlast a ha e (List.mem_singleton_self e)) hstep

section Average

variable {K : Type} [Field K] [DecidableEq K] [CharZero K]

theorem divDouble_toNat {n : UInt32} (hn : n ≠ 0) (a : K) :
    divDouble a (n.toNat : K) = some (a / n.toNat) := by
  have hne : (n.toNat : K) ≠ 0 := by
    rw [Nat.cast_ne_zero]
    exact fun h => hn (UInt32.toNat_inj.mp h)
  rw [divDouble, if_neg hne]

theorem foldl_addShare {members : UInt32} (hm : members ≠ 0) (pairs : List (Int × Nat)) (tot : K) :
    pairs.foldl (addShare members) (some tot) =
      some (tot + (pairs.map fun pair => (pair.2 : K) / members.toNat).sum) := by
  induction pairs generalizing tot with
  | nil => simp
  | cons pair pairs ih =>
      have hstep : addShare members (some tot) pair = some (tot + (pair.2 : K) / members.toNat) := by
        simp only [addShare, divDouble_toNat hm]
        rfl
      rw [List.foldl_cons, hstep, ih, List.map_cons, List.sum_cons, add_assoc]

theorem average_after_run {es : Reports} (hne : es ≠ []) (htime : es.Pairwise (fun a b => a.1 ≤ b.1))
    (hstart : ∀ e ∈ es, 0 ≤ e.1) {s : Tracker} (h : run es = some s)
    (hlen : (reportTimes es).length < 2 ^ 16) {numMembers numTeams : UInt32}
    (hm : numMembers * numTeams ≠ 0) :
    writeAvgCoverageStats numMembers numTeams s.connTracker =
      some (some (((reportTimes es).dropLast.map fun t =>
        ((covered es t).card : K) / (numMembers * numTeams).toNat).sum / (reportTimes es).length)) := by
  obtain ⟨earlier, hs⟩ := flushed_run hne htime hstart h
  have hcount : s.connTracker.length = (reportTimes es).length := by simp [hs.connTracker, hs.times]
  have hpos : ((reportTimes es).length : K) ≠ 0 := by simp [hs.times, Nat.cast_add_one_ne_zero]
  rw [writeAvgCoverageStats, accumulate_of_short (hcount ▸ hlen), foldl_addShare hm, Option.map_some,
    Option.bind_some, divDouble, hcount, if_neg hpos, hs.times, List.dropLast_concat, hs.connTracker]
  simp [measurement, Function.comp_def]

end Average

/-- The first report puts in an entry for an instant before the start and the
last instant is never put in, so only a run without a report is complete. -/
theorem complete_iff (es : Reports) (htime : es.Pairwise (fun a b => a.1 ≤ b.1))
    (hstart : ∀ e ∈ es, 0 ≤ e.1) : Complete es ↔ es = [] := by
  constructor
  · rintro ⟨s, hrun, hperm⟩
    by_contra hne
    obtain ⟨earlier, hs⟩ := flushed_run hne htime hstart hrun
    have hmem : (-1000, 0) ∈ (reportTimes es).map (measurement es) :=
      hperm.subset (by simp [hs.connTracker])
    obtain ⟨t, ht, hm⟩ := List.mem_map.mp hmem
    obtain ⟨e, he, rfl⟩ := mem_reportTimes.mp ht
    have hms : 0 ≤ getMilliSeconds e.1 := Int.tdiv_nonneg (hstart e he) (by decide)
    rw [(Prod.mk.inj hm).1] at hms
    exact absurd hms (by decide)
  · rintro rfl
    exact ⟨start, rfl, List.Perm.nil⟩

theorem complete_iff_two_instants :
    Complete [(seconds 0, [5, 6]), (seconds 0, [6]), (seconds 10, [5])] ↔
      [(seconds 0, [(5 : Int), 6]), (seconds 0, [6]), (seconds 10, [5])] = [] :=
  complete_iff _ (by decide) (by decide)

theorem first_report_unmeasured :
    ¬ ∀ es : Reports, es.Pairwise (fun a b => a.1 ≤ b.1) → (∀ e ∈ es, 0 ≤ e.1) → Complete es := by
  intro h
  obtain ⟨s, hrun, hperm⟩ := h [(seconds 0, [5])] (by decide) (by decide)
  obtain rfl : (⟨[(-1000, 0)], seconds 0, {5}⟩ : Tracker) = s := Option.some.inj hrun
  exact absurd hperm (by decide)

end UavMonitoring.CoverageTracker
