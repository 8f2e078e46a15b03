import Mathlib.Data.List.Induction
import Mathlib.Order.Lattice

namespace UavMonitoring.BestScan

variable {α ι : Type} [LinearOrder ι] [LinearOrder α] (score : α → ι)

def better (s : ι × α) (x : α) : ι × α :=
  let best := if score x = s.1 ∧ s.2 < x then x else s.2
  if s.1 < score x then (score x, x) else (s.1, best)

structure Best (start : ι × α) (xs : List α) (s : ι × α) : Prop where
  upper : ∀ x ∈ xs, score x < s.1 ∨ (score x = s.1 ∧ x ≤ s.2)
  source : s = start ∨ (s.2 ∈ xs ∧ score s.2 = s.1)

variable {score}

theorem Best.concat {start s : ι × α} {xs : List α} (h : Best score start xs s) (x : α) :
    Best score start (xs ++ [x]) (better score s x) := by
  have hold : ∀ y ∈ xs, y ∈ xs ++ [x] := fun y hy => List.mem_append_left _ hy
  have hnew : x ∈ xs ++ [x] := List.mem_append_right _ (List.mem_singleton_self x)
  have hcases (P : α → Prop) (hxs : ∀ y ∈ xs, P y) (hx : P x) : ∀ y ∈ xs ++ [x], P y := by
    intro y hy
    rcases List.mem_append.mp hy with hy | hy
    · exact hxs y hy
    · rwa [List.mem_singleton.mp hy]
  rw [better]
  rcases lt_trichotomy s.1 (score x) with hlt | heq | hgt
  · rw [if_pos hlt]
    refine ⟨hcases _ (fun y hy => .inl ?_) (.inr ⟨rfl, le_rfl⟩), .inr ⟨hnew, rfl⟩⟩
    rcases h.upper y hy with hy | ⟨hy, _⟩
    · exact hy.trans hlt
    · exact hy.trans_lt hlt
  · rw [if_neg heq.not_lt]
    by_cases hx : s.2 < x
    · rw [if_pos ⟨heq.symm, hx⟩]
      refine ⟨hcases _ (fun y hy => ?_) (.inr ⟨heq.symm, le_rfl⟩), .inr ⟨hnew, heq.symm⟩⟩
      exact (h.upper y hy).imp_right fun h => ⟨h.1, h.2.trans hx.le⟩
    · rw [if_neg fun h => hx h.2]
      exact ⟨hcases _ h.upper (.inr ⟨heq.symm, not_lt.mp hx⟩),
        h.source.imp_right fun h => ⟨hold _ h.1, h.2⟩⟩
  · rw [if_neg hgt.not_gt, if_neg fun h => hgt.ne h.1]
    exact ⟨hcases _ h.upper (.inl hgt), h.source.imp_right fun h => ⟨hold _ h.1, h.2⟩⟩

theorem foldl_better (start : ι × α) (xs : List α) :
    Best score start xs (xs.foldl (better score) start) := by
  induction xs using List.reverseRecOn with
  | nil => exact ⟨by simp, .inl rfl⟩
  | append_singleton xs x ih =>
      rw [List.foldl_append]
      exact ih.concat x

theorem foldl_better_eq {start : ι × α} {xs : List α} {m : α} (hm : m ∈ xs)
    (hstart : start.1 < score m) (hbest : ∀ x ∈ xs, score x < score m ∨ (score x = score m ∧ x ≤ m)) :
    xs.foldl (better score) start = (score m, m) := by
  have hscan : Best score start xs (xs.foldl (better score) start) := foldl_better start xs
  obtain ⟨hupper, hsource⟩ := hscan
  generalize xs.foldl (better score) start = s at hupper hsource
  have hne : s ≠ start := by
    rintro rfl
    rcases hupper m hm with h | ⟨h, _⟩
    · exact absurd h hstart.not_gt
    · exact absurd h hstart.ne'
  obtain ⟨hmem, hscore⟩ := hsource.resolve_left hne
  have hs := hbest s.2 hmem
  have hm' := hupper m hm
  rw [hscore] at hs
  rcases hs with hs | ⟨hs, hle⟩
  · rcases hm' with h | ⟨h, _⟩
    · exact absurd h hs.not_gt
    · exact absurd h hs.ne'
  · rcases hm' with h | ⟨_, hge⟩
    · exact absurd hs h.ne'
    · exact Prod.ext hs (le_antisymm hle hge)

section Maximum

omit [LinearOrder α] in
theorem lt_foldl_max_iff (score : α → ι) (xs : List α) (start b : ι) :
    b < xs.foldl (fun best x => if best < score x then score x else best) start ↔
      b < start ∨ ∃ x ∈ xs, b < score x := by
  induction xs generalizing start with
  | nil => simp
  | cons x xs ih =>
      simp only [List.foldl_cons, ih, List.mem_cons, exists_eq_or_imp, ← or_assoc]
      apply or_congr_left
      split
      · next hlt => exact ⟨.inr, Or.rec hlt.trans' id⟩
      · next hge => exact ⟨.inl, Or.rec id fun h => h.trans_le (not_lt.mp hge)⟩

end Maximum

section First

variable (rank : Nat → ι)

def lower (s : ι × Nat) (i : Nat) : ι × Nat := if rank i < s.1 then (rank i, i) else s

structure First (start : ι × Nat) (n : Nat) (s : ι × Nat) : Prop where
  least : ∀ i < n, s.1 ≤ rank i
  source : s = start ∨
    (s.2 < n ∧ s.1 = rank s.2 ∧ s.1 < start.1 ∧ ∀ i < s.2, s.1 < rank i)

variable {rank}

theorem First.succ {start s : ι × Nat} {n : Nat} (h : First rank start n s) :
    First rank start (n + 1) (lower rank s n) := by
  have hstart : s.1 ≤ start.1 := by
    rcases h.source with hs | ⟨_, _, hlt, _⟩
    · rw [hs]
    · exact hlt.le
  rw [lower]
  split
  · next hlt =>
      refine ⟨?_, .inr ⟨n.lt_succ_self, rfl, hlt.trans_le hstart, ?_⟩⟩
      · intro i hi
        rcases Nat.lt_succ_iff_lt_or_eq.mp hi with hi | rfl
        · exact hlt.le.trans (h.least i hi)
        · exact le_rfl
      · exact fun i hi => hlt.trans_le (h.least i hi)
  · next hge =>
      refine ⟨?_, h.source.imp_right fun hs => ⟨hs.1.trans n.lt_succ_self, hs.2⟩⟩
      intro i hi
      rcases Nat.lt_succ_iff_lt_or_eq.mp hi with hi | rfl
      · exact h.least i hi
      · exact not_lt.mp hge

theorem foldl_lower (start : ι × Nat) (n : Nat) :
    First rank start n ((List.range n).foldl (lower rank) start) := by
  induction n with
  | zero => exact ⟨by simp, .inl rfl⟩
  | succ n ih =>
      rw [List.range_succ, List.foldl_append]
      exact ih.succ

end First

end UavMonitoring.BestScan
