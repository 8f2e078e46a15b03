import UavMonitoring.EdsMonitor
import UavMonitoring.Runs

namespace UavMonitoring.EdsRuns

open Std Basics EdsMonitor BoundedQueue Runs

variable {K : Type} [Field K]

inductive Event (K : Type)
  | updateList (tag : Option Nat) (pos : Vector3D K)
  | updateHistory (tolerance : Time) (junk : EdsEntry K)
  | updateLostEds (tolerance : Time)
  | filterLostEds (interTol lostTol : Time)

def step (m : Monitor K) (e : Time × Event K) : Monitor K :=
  match e.2 with
  | .updateList tag pos => updateList e.1 tag pos m
  | .updateHistory tolerance junk => updateHistory e.1 tolerance junk m
  | .updateLostEds tolerance => updateLostEds e.1 tolerance m
  | .filterLostEds interTol lostTol => filterLostEds e.1 interTol lostTol m

section Exclusion

def Exclusive (m : Monitor K) : Prop := ∀ id, ¬ (id ∈ m.edsSingleHist ∧ id ∈ m.edsLost)

def LeavesLost (t : Transition (Monitor K) (Time × Event K) Unit) : Prop :=
  ∀ id pos, t.event.2 = .updateList (some id) pos → id ∉ t.post.edsLost

def NotLost (m : Monitor K) (e : Time × Event K) : Prop :=
  ∀ id pos, e.2 = .updateList (some id) pos → id ∉ m.edsLost

omit [Field K] in
theorem exclusive_updateLostEds (now tolerance : Time) (m : Monitor K) (h : Exclusive m) :
    Exclusive (updateLostEds now tolerance m) := by
  rintro id ⟨hs, hl⟩
  rw [ExtTreeMap.mem_iff_isSome_getElem?, single_updateLostEds] at hs
  rw [ExtTreeMap.mem_iff_isSome_getElem?, lost_updateLostEds] at hl
  cases hq : m.edsSingleHist[id]? with
  | none => simp [hq] at hs
  | some q =>
      cases hb : lastBefore (now - tolerance) q with
      | true => simp [hq, hb, Option.filter] at hs
      | false =>
          refine h id ⟨ExtTreeMap.mem_iff_isSome_getElem?.mpr (by simp [hq]), ?_⟩
          simpa [hq, hb, Option.filter] using hl

omit [Field K] in
theorem exclusive_filterLostEds (now interTol lostTol : Time) (m : Monitor K) (h : Exclusive m) :
    Exclusive (filterLostEds now interTol lostTol m) := by
  rintro id ⟨hs, hl⟩
  rw [ExtTreeMap.mem_iff_isSome_getElem?, lost_filterLostEds] at hl
  refine h id ⟨hs, ExtTreeMap.mem_iff_isSome_getElem?.mpr ?_⟩
  cases hq : m.edsLost[id]? with
  | none => simp [hq] at hl
  | some q => rfl

omit [Field K] in
theorem exclusive_updateList_iff (now : Time) (pos : Vector3D K) (id : Nat) (m : Monitor K)
    (h : Exclusive m) : Exclusive (updateList now (some id) pos m) ↔ id ∉ m.edsLost := by
  constructor
  · intro h' hl
    refine h' id ⟨?_, by rwa [lost_updateList]⟩
    rw [ExtTreeMap.mem_iff_isSome_getElem?, single_updateList, if_pos rfl]
    rfl
  · rintro hn j ⟨hs, hl⟩
    rw [lost_updateList] at hl
    rw [ExtTreeMap.mem_iff_isSome_getElem?, single_updateList] at hs
    by_cases hj : id = j
    · exact hn (hj ▸ hl)
    · rw [if_neg hj, ← ExtTreeMap.mem_iff_isSome_getElem?] at hs
      exact h j ⟨hs, hl⟩

theorem exclusive_step_iff (m : Monitor K) (e : Time × Event K) (h : Exclusive m) :
    Exclusive (step m e) ↔ NotLost m e := by
  obtain ⟨now, e⟩ := e
  cases e with
  | updateList tag pos =>
      cases tag with
      | none => exact iff_of_true h (fun _ _ he => by cases he)
      | some id =>
          rw [step, exclusive_updateList_iff now pos id m h]
          exact ⟨fun hn j pos' he => by cases he; exact hn, fun hn => hn id pos rfl⟩
  | updateHistory tolerance junk =>
      refine iff_of_true ?_ (fun _ _ he => by cases he)
      rw [Exclusive, step, single_updateHistory, lost_updateHistory]
      exact h
  | updateLostEds tolerance =>
      exact iff_of_true (exclusive_updateLostEds now tolerance m h) (fun _ _ he => by cases he)
  | filterLostEds interTol lostTol =>
      exact iff_of_true (exclusive_filterLostEds now interTol lostTol m h) (fun _ _ he => by cases he)

/-- No device is tracked and lost at once, and every device heard leaves the
lost table, exactly in the runs that never hear a lost device. -/
theorem exclusive_run_iff (es : List (Time × Event K)) :
    ((∀ m ∈ states (total step) empty es, Exclusive m) ∧
      ∀ t ∈ transitions (total step) empty es, LeavesLost t) ↔
    ∀ t ∈ transitions (total step) empty es, NotLost t.pre t.event := by
  have hiff := states_iff step (fun _ _ => True) Exclusive NotLost (s := empty)
    (fun _ _ _ _ => trivial) (fun m e _ _ h => exclusive_step_iff m e h) es trivial
    (by simp [Exclusive, empty])
  rw [← hiff]
  refine ⟨And.left, fun h => ⟨h, ?_⟩⟩
  intro t ht id pos he
  have hn := hiff.mp h t ht id pos he
  have hpost := step_of_mem ht
  simp only [total, step, he, Option.some.injEq, Prod.mk.injEq, and_true] at hpost
  rwa [← hpost, lost_updateList]

def spot (x y : ℚ) : Vector3D ℚ := ⟨x, y, 0⟩

theorem heard_again :
    ¬ ((∀ m ∈ states (total step) empty [(seconds 0, .updateList (some 5) (spot 1 2)),
          (seconds 100, .updateLostEds (seconds 65)), (seconds 101, .updateList (some 5) (spot 3 4))],
        Exclusive m) ∧
      ∀ t ∈ transitions (total step) empty [(seconds 0, .updateList (some 5) (spot 1 2)),
          (seconds 100, .updateLostEds (seconds 65)), (seconds 101, .updateList (some 5) (spot 3 4))],
        LeavesLost t) := by
  rintro ⟨h, _⟩
  exact h _ (foldl_mem_states step empty _) 5 (by decide +kernel)

end Exclusion

section Filtering

inductive Fixes : List (EdsEntry K) → Prop
  | one (e : EdsEntry K) : Fixes [e]
  | two (e₁ e₂ : EdsEntry K) : Fixes [e₁, e₂]

def Shaped (m : Monitor K) : Prop :=
  ∀ (id : Nat) (q : List (EdsEntry K)),
    m.edsSingleHist[id]? = some q ∨ m.edsLost[id]? = some q → Fixes q

omit [Field K] in
theorem Fixes.popPush {q : List (EdsEntry K)} (h : q = [] ∨ Fixes q) (e : EdsEntry K) :
    Fixes (popPush 2 q e) := by
  rcases h with rfl | h
  · exact .one e
  · cases h with
    | one e₁ => exact .two e₁ e
    | two e₁ e₂ => exact .two e₂ e

omit [Field K] in
theorem shaped_updateList (now : Time) (tag : Option Nat) (pos : Vector3D K) {m : Monitor K}
    (h : Shaped m) : Shaped (updateList now tag pos m) := by
  cases tag with
  | none => exact h
  | some j =>
      intro id q hq
      rw [lost_updateList, single_updateList] at hq
      by_cases hj : j = id
      · rw [if_pos hj] at hq
        rcases hq with hq | hq
        · rw [← Option.some.inj hq]
          apply Fixes.popPush
          cases hs : m.edsSingleHist[j]? with
          | none => exact .inl rfl
          | some q' => exact .inr (h j q' (.inl hs))
        · exact h id q (.inr hq)
      · rw [if_neg hj] at hq
        exact h id q hq

theorem shaped_step {m : Monitor K} (e : Time × Event K) (h : Shaped m) : Shaped (step m e) := by
  obtain ⟨now, e⟩ := e
  cases e with
  | updateList tag pos => exact shaped_updateList now tag pos h
  | updateHistory tolerance junk =>
      rw [Shaped, step, single_updateHistory, lost_updateHistory]
      exact h
  | updateLostEds tolerance =>
      intro id q hq
      rw [step, single_updateLostEds, lost_updateLostEds, Option.filter_eq_some_iff,
        Option.or_eq_some_iff, Option.filter_eq_some_iff] at hq
      rcases hq with ⟨hq, _⟩ | ⟨hq, _⟩ | ⟨_, hq⟩
      · exact h id q (.inl hq)
      · exact h id q (.inl hq)
      · exact h id q (.inr hq)
  | filterLostEds interTol lostTol =>
      intro id q hq
      rw [step, single_filterLostEds, lost_filterLostEds, Option.filter_eq_some_iff] at hq
      exact h id q (hq.imp_right And.left)

theorem shaped_run (es : List (Time × Event K)) : ∀ m ∈ states (total step) empty es, Shaped m := by
  refine states_invariant Shaped ?_ (by simp [Shaped, empty]) es
  intro m e m' _ h he
  cases he
  exact shaped_step e h

inductive Recent (now interTol lostTol : Time) : List (EdsEntry K) → Prop
  | one (e : EdsEntry K) (late : now - e.time ≤ lostTol) : Recent now interTol lostTol [e]
  | two (e₁ e₂ : EdsEntry K) (late : now - e₂.time ≤ lostTol) (near : e₂.time - e₁.time ≤ interTol) :
      Recent now interTol lostTol [e₁, e₂]

/-- The filter leaves recent devices only, and all of them. -/
structure Filters (now interTol lostTol : Time) (m : Monitor K) : Prop where
  sound : ∀ (id : Nat) (q : List (EdsEntry K)),
    (filterLostEds now interTol lostTol m).edsLost[id]? = some q → Recent now interTol lostTol q
  complete : ∀ (id : Nat) (q : List (EdsEntry K)), m.edsLost[id]? = some q →
    Recent now interTol lostTol q → (filterLostEds now interTol lostTol m).edsLost[id]? = some q

/-- The filter is right about a reachable table exactly when the devices heard
only once were all heard recently: it does not look at those. -/
theorem filters_iff (es : List (Time × Event K)) : ∀ m ∈ states (total step) empty es,
    ∀ now interTol lostTol, Filters now interTol lostTol m ↔
      ∀ (id : Nat) (e : EdsEntry K), m.edsLost[id]? = some [e] → now - e.time ≤ lostTol := by
  intro m hm now interTol lostTol
  have hshaped : Shaped m := shaped_run es m hm
  constructor
  · rintro ⟨hsound, _⟩ id e he
    have hleft : (filterLostEds now interTol lostTol m).edsLost[id]? = some [e] := by
      rw [lost_filterLostEds, he]
      rfl
    cases hsound id [e] hleft with
    | one _ late => exact late
  · intro h
    refine ⟨fun id q hq => ?_, fun id q hq hrecent => ?_⟩
    · rw [lost_filterLostEds, Option.filter_eq_some_iff] at hq
      obtain ⟨hq, hkept⟩ := hq
      cases hshaped id q (.inr hq) with
      | one e => exact .one e (h id e hq)
      | two e₁ e₂ =>
          obtain ⟨late, near⟩ : now - e₂.time ≤ lostTol ∧ e₂.time - e₁.time ≤ interTol := by
            simpa [outdated] using hkept
          exact .two e₁ e₂ late near
    · rw [lost_filterLostEds, Option.filter_eq_some_iff]
      refine ⟨hq, ?_⟩
      cases hrecent with
      | one e _ => rfl
      | two e₁ e₂ late near => simp [outdated, late, near]

def heardOnce : List (Time × Event ℚ) :=
  [(seconds 0, .updateList (some 5) (spot 1 2)), (seconds 100, .updateLostEds (seconds 65))]

theorem filters_iff_heardOnce :
    Filters (minutes 60) (seconds 40) (minutes 3) (heardOnce.foldl step empty) ↔
      ∀ (id : Nat) (e : EdsEntry ℚ), (heardOnce.foldl step empty).edsLost[id]? = some [e] →
        minutes 60 - e.time ≤ minutes 3 :=
  filters_iff heardOnce _ (foldl_mem_states step empty heardOnce) _ _ _

theorem stale_device :
    ¬ ∀ m ∈ states (total step) empty heardOnce,
      ∀ now interTol lostTol, Filters now interTol lostTol m := by
  intro h
  obtain ⟨hsound, _⟩ := h _ (foldl_mem_states step empty _) (minutes 60) (seconds 40) (minutes 3)
  have hleft := hsound 5 [⟨1, 2, seconds 0⟩] (by decide +kernel)
  cases hleft with
  | one _ late => exact absurd late (by decide)

end Filtering

end UavMonitoring.EdsRuns
