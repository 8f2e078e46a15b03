import Mathlib.Data.List.DropRight
import Mathlib.Order.Lattice

namespace UavMonitoring.BoundedQueue

variable {α : Type}

/-- `if (q.size () >= k) q.pop (); q.push (a)`. -/
def popPush (k : Nat) (q : List α) (a : α) : List α :=
  (if k ≤ q.length then q.tail else q) ++ [a]

/-- `q.push (a); if (q.size () > k) q.pop ();`. -/
def pushPop (k : Nat) (q : List α) (a : α) : List α :=
  if k < (q ++ [a]).length then (q ++ [a]).tail else q ++ [a]

theorem popPush_eq_pushPop {k : Nat} (hk : 0 < k) (q : List α) (a : α) :
    popPush k q a = pushPop k q a := by
  rw [popPush, pushPop]
  by_cases h : k ≤ q.length
  · have hq : q ≠ [] := by rintro rfl; simp at h; omega
    have hlt : k < (q ++ [a]).length := by simp; omega
    rw [if_pos h, if_pos hlt, List.tail_append_of_ne_nil hq]
  · have hlt : ¬ k < (q ++ [a]).length := by simp; omega
    rw [if_neg h, if_neg hlt]

theorem pushPop_rtake (k : Nat) (log : List α) (a : α) :
    pushPop k (log.rtake k) a = (log ++ [a]).rtake k := by
  have hlen : (log.rtake k).length = min log.length k := by
    simp only [List.rtake, List.length_drop]
    omega
  rw [pushPop]
  by_cases h : k ≤ log.length
  · have hlt : k < (log.rtake k ++ [a]).length := by simp [hlen]; omega
    rw [if_pos hlt]
    simp only [List.rtake, List.length_append, List.length_singleton]
    rw [← List.drop_append_of_le_length (by omega), List.tail_drop]
    congr 1
    omega
  · have hlt : ¬ k < (log.rtake k ++ [a]).length := by simp [hlen]; omega
    rw [if_neg hlt]
    simp only [List.rtake, List.length_append, List.length_singleton]
    rw [show log.length - k = 0 by omega, show log.length + 1 - k = 0 by omega, List.drop_zero,
      List.drop_zero]

theorem pushPop_ne_nil {k : Nat} (hk : 0 < k) (q : List α) (a : α) : pushPop k q a ≠ [] := by
  rw [pushPop]
  split
  · next hlt =>
      intro h
      have hlen := congrArg List.length h
      simp only [List.length_tail, List.length_nil] at hlen
      omega
  · simp

/-- A queue bounded by `k` always holds the last `k` entries of the log of
everything pushed into it, oldest first. -/
theorem popPush_rtake {k : Nat} (hk : 0 < k) (log : List α) (a : α) :
    popPush k (log.rtake k) a = (log ++ [a]).rtake k := by
  rw [popPush_eq_pushPop hk, pushPop_rtake]

theorem rtake_ne_nil {k : Nat} (hk : 0 < k) {log : List α} (h : log ≠ []) : log.rtake k ≠ [] := by
  have hpos := List.length_pos_iff.mpr h
  intro he
  have hl := congrArg List.length he
  simp only [List.rtake, List.length_drop, List.length_nil] at hl
  omega

theorem getLast?_rtake {k : Nat} (hk : 0 < k) (log : List α) :
    (log.rtake k).getLast? = log.getLast? := by
  rw [List.rtake, List.getLast?_drop]
  split
  · next h =>
      have : log = [] := List.length_eq_zero_iff.mp (by omega)
      rw [this]; rfl
  · rfl

theorem length_rtake_le (k : Nat) (log : List α) : (log.rtake k).length ≤ k := by
  simp only [List.rtake, List.length_drop]
  omega

theorem rtake_append_of_le {k : Nat} (older : List α) {log : List α} (h : k ≤ log.length) :
    (older ++ log).rtake k = log.rtake k := by
  rw [List.rtake, List.rtake, List.length_append, Nat.add_sub_assoc h, List.drop_append]
  simp

theorem map_pushPop {β : Type} (f : α → β) (k : Nat) (q : List α) (a : α) :
    (pushPop k q a).map f = pushPop k (q.map f) (f a) := by
  simp only [pushPop, List.length_append, List.length_map, List.length_singleton]
  split <;> simp

theorem rtake_sublist (k : Nat) (log : List α) : (log.rtake k).Sublist log := List.drop_sublist _ _

section Age

variable {τ : Type} [LinearOrder τ]

theorem dropWhile_lt_eq_filter (cut : τ) {q : List τ} (hq : q.Pairwise (· ≤ ·)) :
    q.dropWhile (fun t => decide (t < cut)) = q.filter (fun t => decide (cut ≤ t)) := by
  induction q with
  | nil => rfl
  | cons a q ih =>
      obtain ⟨ha, hq⟩ := List.pairwise_cons.mp hq
      by_cases hlt : a < cut
      · rw [List.dropWhile_cons_of_pos (by simpa using hlt), ih hq,
          List.filter_cons_of_neg (by simpa using hlt)]
      · have hall : ∀ t ∈ a :: q, cut ≤ t := by
          intro t ht
          rcases List.mem_cons.mp ht with rfl | ht
          · exact not_lt.mp hlt
          · exact (not_lt.mp hlt).trans (ha t ht)
        rw [List.dropWhile_cons_of_neg (by simpa using hlt)]
        exact (List.filter_eq_self.mpr fun t ht => by simpa using hall t ht).symm

theorem dropWhile_lt_filter {cut cut' : τ} (hcut : cut ≤ cut') {log : List τ}
    (hlog : log.Pairwise (· ≤ ·)) :
    (log.filter (fun t => decide (cut ≤ t))).dropWhile (fun t => decide (t < cut')) =
      log.filter (fun t => decide (cut' ≤ t)) := by
  rw [dropWhile_lt_eq_filter cut' (hlog.filter _), List.filter_filter]
  apply List.filter_congr
  intro t _
  by_cases ht : cut' ≤ t
  · simp [ht, hcut.trans ht]
  · simp [ht]

end Age

end UavMonitoring.BoundedQueue
