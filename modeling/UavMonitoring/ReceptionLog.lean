import UavMonitoring.EdsRuns

namespace UavMonitoring.ReceptionLog

open Std Basics EdsMonitor EdsRuns BoundedQueue

variable {K : Type} [Field K]

/-- The monitor next to an unbounded log: for each device the receptions since
it was last removed from `edsSingleHist`, oldest first. -/
structure Observed (K : Type) where
  monitor : Monitor K
  log : Nat → List (EdsEntry K)

def start : Observed K := ⟨empty, fun _ => []⟩

def heard (e : Time × Event K) (id : Nat) : List (EdsEntry K) :=
  match e.2 with
  | .updateList (some j) pos => if j = id then [⟨pos.x, pos.y, e.1⟩] else []
  | _ => []

def observe (o : Observed K) (e : Time × Event K) : Observed K :=
  let m := step o.monitor e
  ⟨m, fun id => if id ∈ o.monitor.edsSingleHist ∧ id ∉ m.edsSingleHist then []
    else o.log id ++ heard e id⟩

def receptions (es : List (Time × Event K)) : Nat → List (EdsEntry K) :=
  (es.foldl observe start).log

theorem monitor_observe (es : List (Time × Event K)) :
    (es.foldl observe start).monitor = es.foldl step empty := by
  induction es using List.reverseRecOn with
  | nil => rfl
  | append_singleton es e ih => rw [List.foldl_concat, List.foldl_concat, ← ih]; rfl

def InOrder (q : List (EdsEntry K)) : Prop := q.Pairwise (fun a b => a.time ≤ b.time)

structure Tracks (tolerance now : Time) (o : Observed K) : Prop where
  single : ∀ id, o.monitor.edsSingleHist[id]? =
    if o.log id = [] then none else some ((o.log id).rtake 2)
  last : ∀ id, o.log id ≠ [] → o.monitor.eds[id]? = (o.log id).getLast?
  inOrder : ∀ id, InOrder (o.log id)
  past : ∀ id, ∀ e ∈ o.log id, e.time ≤ now
  gone : ∀ id e, o.monitor.eds[id]? = some e → o.log id = [] → e.time < now - tolerance
  lost : ∀ (id : Nat) (q : List (EdsEntry K)), o.monitor.edsLost[id]? = some q →
    q ≠ [] ∧ q.length ≤ 2 ∧ InOrder q

omit [Field K] in
theorem Tracks.mono {tolerance now now' : Time} {o : Observed K} (h : Tracks tolerance now o)
    (hle : now ≤ now') : Tracks tolerance now' o where
  single := h.single
  last := h.last
  inOrder := h.inOrder
  past id e he := (h.past id e he).trans hle
  gone id e he hl := (h.gone id e he hl).trans_le (Int.sub_le_sub_right hle _)
  lost := h.lost

omit [Field K] in
theorem tracks_start (tolerance now : Time) : Tracks tolerance now (start : Observed K) where
  single id := by simp [start, empty]
  last id h := absurd rfl h
  inOrder id := .nil
  past id e he := by simp [start] at he
  gone id e he _ := by simp [start, empty] at he
  lost id q hq := by simp [start, empty] at hq

omit [Field K] in
theorem Tracks.mem_iff {tolerance now : Time} {o : Observed K} (h : Tracks tolerance now o) (id : Nat) :
    id ∈ o.monitor.edsSingleHist ↔ o.log id ≠ [] := by
  rw [ExtTreeMap.mem_iff_isSome_getElem?, h.single]
  split <;> simp_all

omit [Field K] in
theorem Tracks.eq_of_single {tolerance now : Time} {o : Observed K} (h : Tracks tolerance now o)
    {id : Nat} {q : List (EdsEntry K)} (hq : o.monitor.edsSingleHist[id]? = some q) :
    o.log id ≠ [] ∧ q = (o.log id).rtake 2 := by
  rw [h.single] at hq
  split at hq
  · cases hq
  · next hne => exact ⟨hne, (Option.some.inj hq).symm⟩

omit [Field K] in
theorem Tracks.getD_single {tolerance now : Time} {o : Observed K} (h : Tracks tolerance now o)
    (id : Nat) : o.monitor.edsSingleHist[id]?.getD [] = (o.log id).rtake 2 := by
  rw [h.single]
  split
  · next hl => rw [hl]; rfl
  · rfl

theorem observe_quiet {tolerance now : Time} {o : Observed K} (h : Tracks tolerance now o)
    (e : Time × Event K) (hheard : ∀ id, heard e id = [])
    (heds : (step o.monitor e).eds = o.monitor.eds)
    (hsingle : (step o.monitor e).edsSingleHist = o.monitor.edsSingleHist)
    (hlost : ∀ (id : Nat) (q : List (EdsEntry K)), (step o.monitor e).edsLost[id]? = some q →
      o.monitor.edsLost[id]? = some q) :
    Tracks tolerance now (observe o e) := by
  have hlog : (observe o e).log = o.log := by
    funext id
    simp [observe, hsingle, hheard]
  have heds' : (observe o e).monitor.eds = o.monitor.eds := heds
  constructor
  · intro id
    rw [hlog, ← h.single]
    exact congrArg (·[id]?) hsingle
  · rw [hlog, heds']; exact h.last
  · rw [hlog]; exact h.inOrder
  · rw [hlog]; exact h.past
  · rw [hlog, heds']; exact h.gone
  · exact fun id q hq => h.lost id q (hlost id q hq)

theorem log_updateList (o : Observed K) (now : Time) (j : Nat) (pos : Vector3D K) (id : Nat) :
    (observe o (now, .updateList (some j) pos)).log id =
      if j = id then o.log id ++ [⟨pos.x, pos.y, now⟩] else o.log id := by
  have hkeep : ¬ (id ∈ o.monitor.edsSingleHist ∧
      id ∉ (updateList now (some j) pos o.monitor).edsSingleHist) := by
    rintro ⟨hin, hout⟩
    rw [ExtTreeMap.mem_iff_isSome_getElem?, single_updateList] at hout
    split at hout
    · simp at hout
    · exact hout (ExtTreeMap.mem_iff_isSome_getElem?.mp hin)
  simp only [observe, step, if_neg hkeep, heard]
  split <;> simp

omit [Field K] in
theorem InOrder.concat {q : List (EdsEntry K)} (h : InOrder q) {e : EdsEntry K}
    (hlast : ∀ a ∈ q, a.time ≤ e.time) : InOrder (q ++ [e]) := by
  apply List.pairwise_append.mpr
  refine ⟨h, List.pairwise_singleton _ _, ?_⟩
  intro a ha b hb
  rw [List.mem_singleton.mp hb]
  exact hlast a ha

theorem observe_updateList {tolerance now : Time} {o : Observed K} (h : Tracks tolerance now o)
    (j : Nat) (pos : Vector3D K) :
    Tracks tolerance now (observe o (now, .updateList (some j) pos)) where
  single id := by
    change (updateList now (some j) pos o.monitor).edsSingleHist[id]? = _
    rw [single_updateList, log_updateList]
    by_cases hj : j = id
    · subst j
      simp only [if_true, List.append_eq_nil_iff, List.cons_ne_self, and_false, if_false]
      rw [h.getD_single, popPush_rtake (by decide)]
    · rw [if_neg hj, if_neg hj, h.single]
  last id hne := by
    change (updateList now (some j) pos o.monitor).eds[id]? = _
    rw [log_updateList] at hne ⊢
    rw [eds_updateList]
    by_cases hj : j = id
    · simp [hj]
    · simp only [if_neg hj] at hne ⊢
      exact h.last id hne
  inOrder id := by
    rw [log_updateList]
    split
    · exact (h.inOrder id).concat (h.past id)
    · exact h.inOrder id
  past id e he := by
    rw [log_updateList] at he
    split at he
    · rcases List.mem_append.mp he with he | he
      · exact h.past id e he
      · rw [List.mem_singleton.mp he]
    · exact h.past id e he
  gone id e he hnil := by
    change (updateList now (some j) pos o.monitor).eds[id]? = some e at he
    rw [eds_updateList] at he
    rw [log_updateList] at hnil
    by_cases hj : j = id
    · simp [hj] at hnil
    · simp only [if_neg hj] at he hnil
      exact h.gone id e he hnil
  lost id q hq := by
    change (updateList now (some j) pos o.monitor).edsLost[id]? = some q at hq
    rw [lost_updateList] at hq
    exact h.lost id q hq

omit [Field K] in
theorem single_of_updateLostEds {now tolerance : Time} {m : Monitor K} {id : Nat}
    {q : List (EdsEntry K)} (h : (updateLostEds now tolerance m).edsSingleHist[id]? = some q)
    {e : EdsEntry K} (he : q.getLast? = some e) : now - tolerance ≤ e.time := by
  rw [single_updateLostEds, Option.filter_eq_some_iff] at h
  simpa [lastBefore, he] using h.2

/-- A sweep either forgets a device, whose last reception is then too old, or
keeps its history and log. -/
theorem log_updateLostEds {tolerance now : Time} {o : Observed K} (h : Tracks tolerance now o)
    (id : Nat) :
    let o' := observe o (now, .updateLostEds tolerance)
    (o'.log id = [] ∧ o'.monitor.edsSingleHist[id]? = none ∧
      ∀ e, o.monitor.eds[id]? = some e → e.time < now - tolerance) ∨
    (o'.log id = o.log id ∧ o.log id ≠ [] ∧
      o'.monitor.edsSingleHist[id]? = some ((o.log id).rtake 2)) := by
  intro o'
  have hsingle : o'.monitor.edsSingleHist[id]? =
      o.monitor.edsSingleHist[id]?.filter (fun q => !lastBefore (now - tolerance) q) :=
    single_updateLostEds now o.monitor id tolerance
  have hlog : o'.log id = if id ∈ o.monitor.edsSingleHist ∧ id ∉ o'.monitor.edsSingleHist then []
      else o.log id := by
    simp only [o', observe, heard, List.append_nil]
  rw [h.single] at hsingle
  by_cases hne : o.log id = []
  · left
    rw [if_pos hne, Option.filter_none] at hsingle
    refine ⟨?_, hsingle, fun e he => h.gone id e he hne⟩
    rw [hlog, hne, ite_self]
  · rw [if_neg hne, Option.filter_some] at hsingle
    have hmem := (h.mem_iff id).mpr hne
    have hlast : (o.log id).getLast? = some ((o.log id).getLast hne) :=
      List.getLast?_eq_some_getLast hne
    simp only [lastBefore, getLast?_rtake (k := 2) (by decide), hlast] at hsingle
    by_cases ht : ((o.log id).getLast hne).time < now - tolerance
    · left
      simp only [ht, decide_true, Bool.not_true, Bool.false_eq_true, if_false] at hsingle
      refine ⟨?_, hsingle, ?_⟩
      · rw [hlog, if_pos ⟨hmem, by rw [ExtTreeMap.mem_iff_isSome_getElem?, hsingle]; simp⟩]
      · intro e he
        rw [h.last id hne, hlast, Option.some.injEq] at he
        rwa [← he]
    · right
      simp only [ht, decide_false, Bool.not_false, if_true] at hsingle
      refine ⟨?_, hne, hsingle⟩
      have hstay : id ∈ o'.monitor.edsSingleHist := by
        rw [ExtTreeMap.mem_iff_isSome_getElem?, hsingle]
        rfl
      rw [hlog, if_neg fun hout => hout.2 hstay]

theorem observe_updateLostEds {tolerance now : Time} {o : Observed K} (h : Tracks tolerance now o) :
    Tracks tolerance now (observe o (now, .updateLostEds tolerance)) where
  single id := by
    rcases log_updateLostEds h id with ⟨hl, hs, _⟩ | ⟨hl, hne, hs⟩
    · rw [hl, hs, if_pos rfl]
    · rw [hl, hs, if_neg hne]
  last id hne := by
    change o.monitor.eds[id]? = _
    rcases log_updateLostEds h id with ⟨hl, _, _⟩ | ⟨hl, hne', _⟩
    · exact absurd hl hne
    · rw [hl]
      exact h.last id hne'
  inOrder id := by
    rcases log_updateLostEds h id with ⟨hl, _, _⟩ | ⟨hl, _, _⟩ <;> rw [hl]
    · exact .nil
    · exact h.inOrder id
  past id e he := by
    rcases log_updateLostEds h id with ⟨hl, _, _⟩ | ⟨hl, _, _⟩ <;> rw [hl] at he
    · simp at he
    · exact h.past id e he
  gone id e he hnil := by
    rcases log_updateLostEds h id with ⟨_, _, hold⟩ | ⟨hl, hne, _⟩
    · exact hold e he
    · exact absurd (hl ▸ hnil) hne
  lost id q hq := by
    change (updateLostEds now tolerance o.monitor).edsLost[id]? = some q at hq
    rw [lost_updateLostEds, Option.or_eq_some_iff, Option.filter_eq_some_iff] at hq
    rcases hq with ⟨hq, _⟩ | ⟨_, hq⟩
    · obtain ⟨hne, rfl⟩ := h.eq_of_single hq
      exact ⟨rtake_ne_nil (by decide) hne, length_rtake_le 2 _,
        (h.inOrder id).sublist (rtake_sublist 2 _)⟩
    · exact h.lost id q hq

theorem observe_tracks {tolerance now : Time} {o : Observed K} (h : Tracks tolerance now o)
    (e : Event K) (he : ∀ τ, e = .updateLostEds τ → τ = tolerance) :
    Tracks tolerance now (observe o (now, e)) := by
  cases e with
  | updateList tag pos =>
      cases tag with
      | none => exact observe_quiet h _ (fun _ => rfl) rfl rfl (fun _ _ hq => hq)
      | some j => exact observe_updateList h j pos
  | updateHistory τ junk =>
      exact observe_quiet h _ (fun _ => rfl) (eds_updateHistory ..) (single_updateHistory ..)
        (fun _ _ hq => by rwa [step, lost_updateHistory] at hq)
  | updateLostEds τ =>
      obtain rfl := he τ rfl
      exact observe_updateLostEds h
  | filterLostEds interTol lostTol =>
      apply observe_quiet h _ (fun _ => rfl) rfl rfl
      intro id q hq
      rw [step, lost_filterLostEds, Option.filter_eq_some_iff] at hq
      exact hq.1

theorem tracks_run (tolerance : Time) (es : List (Time × Event K))
    (htime : es.Pairwise (fun a b => a.1 ≤ b.1))
    (htol : ∀ e ∈ es, ∀ τ, e.2 = .updateLostEds τ → τ = tolerance) (now : Time)
    (hnow : ∀ e ∈ es, e.1 ≤ now) : Tracks tolerance now (es.foldl observe start) := by
  induction es using List.reverseRecOn generalizing now with
  | nil => exact tracks_start tolerance now
  | append_singleton es e ih =>
      obtain ⟨hes, _, hlast⟩ := List.pairwise_append.mp htime
      have h := ih hes (fun e he => htol e (List.mem_append_left _ he)) e.1
        (fun a ha => hlast a ha e (List.mem_singleton_self e))
      rw [List.foldl_concat]
      exact (observe_tracks h e.2 (htol e (by simp))).mono (hnow e (by simp))

omit [Field K] in
theorem exists_now (es : List (Time × Event K)) : ∃ now : Time, ∀ e ∈ es, e.1 ≤ now := by
  induction es with
  | nil => exact ⟨0, by simp⟩
  | cons e es ih =>
      obtain ⟨now, h⟩ := ih
      refine ⟨max e.1 now, List.forall_mem_cons.mpr ⟨le_max_left _ _, ?_⟩⟩
      exact fun a ha => (h a ha).trans (le_max_right _ _)

omit [Field K] in
theorem Tracks.mem_iff_recent {tolerance now : Time} {o : Observed K} (h : Tracks tolerance now o)
    (hsweep : ∀ (id : Nat) q, o.monitor.edsSingleHist[id]? = some q →
      ∀ e, q.getLast? = some e → now - tolerance ≤ e.time) (id : Nat) :
    id ∈ o.monitor.edsSingleHist ↔ ∃ e, o.monitor.eds[id]? = some e ∧ now - tolerance ≤ e.time := by
  rw [h.mem_iff]
  constructor
  · intro hne
    have hlast := List.getLast?_eq_some_getLast hne
    refine ⟨(o.log id).getLast hne, (h.last id hne).trans hlast, ?_⟩
    apply hsweep id ((o.log id).rtake 2) (by rw [h.single, if_neg hne])
    rw [getLast?_rtake (by decide), hlast]
  · rintro ⟨e, he, hle⟩ hnil
    exact absurd (h.gone id e he hnil) hle.not_gt

/-- In every run with non-decreasing times and one tolerance for `UpdateLostEds`,
each history holds the last receptions of its device, a device that was heard
and not removed since has one, each lost queue has one or two receptions in
order, and a sweep leaves exactly the recently heard devices. -/
theorem history_refines_log (tolerance : Time) (es : List (Time × Event K))
    (htime : es.Pairwise (fun a b => a.1 ≤ b.1))
    (htol : ∀ e ∈ es, ∀ τ, e.2 = .updateLostEds τ → τ = tolerance) :
    let m := es.foldl step empty
    (∀ (id : Nat) q, m.edsSingleHist[id]? = some q →
      q ≠ [] ∧ q = (receptions es id).rtake 2 ∧ q.getLast? = m.eds[id]?) ∧
    (∀ id, receptions es id ≠ [] → m.edsSingleHist[id]? = some ((receptions es id).rtake 2)) ∧
    (∀ (id : Nat) q, m.edsLost[id]? = some q → (q.length = 1 ∨ q.length = 2) ∧ InOrder q) ∧
    (∀ es' now, es = es' ++ [(now, .updateLostEds tolerance)] →
      ∀ id, id ∈ m.edsSingleHist ↔ ∃ e, m.eds[id]? = some e ∧ now - tolerance ≤ e.time) := by
  intro m
  have hm : (es.foldl observe start).monitor = m := monitor_observe es
  obtain ⟨now, hnow⟩ := exists_now es
  have h := tracks_run tolerance es htime htol now hnow
  refine ⟨?_, ?_, ?_, ?_⟩
  · intro id q hq
    rw [← hm] at hq
    obtain ⟨hne, rfl⟩ := h.eq_of_single hq
    refine ⟨rtake_ne_nil (by decide) hne, rfl, ?_⟩
    rw [getLast?_rtake (by decide), ← hm, h.last id hne]
  · intro id hne
    rw [← hm, h.single]
    exact if_neg hne
  · intro id q hq
    rw [← hm] at hq
    obtain ⟨hne, hlen, hord⟩ := h.lost id q hq
    have := List.length_pos_iff.mpr hne
    exact ⟨by omega, hord⟩
  · intro es' now hes id
    have hle : ∀ e ∈ es, e.1 ≤ now := by
      subst hes
      intro e he
      rcases List.mem_append.mp he with he | he
      · exact (List.pairwise_append.mp htime).2.2 e he _ (List.mem_singleton_self _)
      · rw [List.mem_singleton.mp he]
    have h' := tracks_run tolerance es htime htol now hle
    have hm' : m = updateLostEds now tolerance (es'.foldl step empty) := by
      rw [show m = es.foldl step empty from rfl, hes, List.foldl_concat, step]
    rw [← hm]
    refine h'.mem_iff_recent (fun id q hq e he => ?_) id
    rw [hm, hm'] at hq
    exact single_of_updateLostEds hq he

theorem history_refines_log_two_devices :
    let es : List (Time × Event ℚ) := [(seconds 0, .updateList (some 5) (spot 1 2)),
      (seconds 5, .updateList (some 7) (spot 0 1)), (seconds 50, .updateList (some 7) (spot 0 2)),
      (seconds 60, .updateList (some 7) (spot 0 3)), (seconds 100, .updateLostEds (seconds 65)),
      (seconds 100, .filterLostEds (seconds 40) (minutes 3)),
      (seconds 101, .updateList (some 5) (spot 3 4)), (seconds 102, .updateLostEds (seconds 65))]
    let m := es.foldl step empty
    (∀ (id : Nat) q, m.edsSingleHist[id]? = some q →
      q ≠ [] ∧ q = (receptions es id).rtake 2 ∧ q.getLast? = m.eds[id]?) ∧
    (∀ id, receptions es id ≠ [] → m.edsSingleHist[id]? = some ((receptions es id).rtake 2)) ∧
    (∀ (id : Nat) q, m.edsLost[id]? = some q → (q.length = 1 ∨ q.length = 2) ∧ InOrder q) ∧
    (∀ es' now, es = es' ++ [(now, .updateLostEds (seconds 65))] →
      ∀ id, id ∈ m.edsSingleHist ↔ ∃ e, m.eds[id]? = some e ∧ now - seconds 65 ≤ e.time) :=
  history_refines_log (seconds 65) _ (by decide +kernel) (by simp)

end UavMonitoring.ReceptionLog
