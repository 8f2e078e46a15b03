import Mathlib.Algebra.BigOperators.Ring.List
import Mathlib.Algebra.Order.BigOperators.Group.List
import Mathlib.Algebra.Order.Field.Basic
import Mathlib.Tactic.Ring
import UavMonitoring.Tally

namespace UavMonitoring.LeastSquares

open Tally

variable {K P : Type} [Field K]

section Groups

variable (label : P → Nat) (u : P → K) (xs : List P)

def members (g : Nat) : List P := xs.filter fun p => decide (label p = g)

def groupMean (g : Nat) : K := ((members label xs g).map u).sum / (members label xs g).length

def spread (c : Nat → K) : K := (xs.map fun p => (u p - c (label p)) * (u p - c (label p))).sum

end Groups

variable {label : P → Nat} {u : P → K} {xs : List P}

theorem label_of_mem_members {g : Nat} {p : P} (h : p ∈ members label xs g) : label p = g :=
  of_decide_eq_true (List.mem_filter.mp h).2

theorem members_cons_of_eq {g : Nat} {p : P} (h : label p = g) (xs : List P) :
    members label (p :: xs) g = p :: members label xs g :=
  List.filter_cons_of_pos (decide_eq_true h)

theorem members_cons_of_ne {g : Nat} {p : P} (h : label p ≠ g) (xs : List P) :
    members label (p :: xs) g = members label xs g :=
  List.filter_cons_of_neg (by simpa using h)

theorem sum_sub_groupMean [CharZero K] (g : Nat) :
    ((members label xs g).map fun p => u p - groupMean label u xs g).sum = 0 := by
  have hsum : ((members label xs g).map fun p => u p - groupMean label u xs g).sum =
      ((members label xs g).map u).sum - (members label xs g).length * groupMean label u xs g := by
    generalize groupMean label u xs g = m
    induction members label xs g with
    | nil => simp
    | cons p ps ih =>
        rw [List.map_cons, List.sum_cons, ih, List.map_cons, List.sum_cons, List.length_cons,
          Nat.cast_add, Nat.cast_one]
        ring
  rw [hsum, groupMean]
  cases h : members label xs g with
  | nil => simp
  | cons p ps =>
      have hne : ((p :: ps).length : K) ≠ 0 := Nat.cast_ne_zero.mpr (by simp)
      rw [mul_div_cancel₀ _ hne, sub_self]

theorem sum_sub_groupMean_mul [CharZero K] (h : Nat → K) :
    (xs.map fun p => (u p - groupMean label u xs (label p)) * h (label p)).sum = 0 := by
  have hkeys : ∀ p ∈ xs, label p ∈ (xs.map label).dedup :=
    fun p hp => List.mem_dedup.mpr (List.mem_map_of_mem hp)
  rw [← sum_map_keys (List.nodup_dedup _) label _ hkeys]
  apply List.sum_eq_zero
  rw [List.forall_mem_map]
  intro g _
  have hgroup : ((members label xs g).map fun p =>
      (u p - groupMean label u xs (label p)) * h (label p)) =
      (members label xs g).map fun p => (u p - groupMean label u xs g) * h g := by
    apply List.map_congr_left
    intro p hp
    rw [label_of_mem_members hp]
  change ((members label xs g).map _).sum = 0
  rw [hgroup, List.sum_map_mul_right, sum_sub_groupMean, zero_mul]

variable [LinearOrder K] [IsStrictOrderedRing K]

theorem spread_groupMean_le (c : Nat → K) :
    spread label u xs (groupMean label u xs) ≤ spread label u xs c := by
  have hsplit (p : P) : (u p - c (label p)) * (u p - c (label p)) =
      (u p - groupMean label u xs (label p)) * (u p - groupMean label u xs (label p)) +
      ((u p - groupMean label u xs (label p)) * (2 * (groupMean label u xs (label p) - c (label p))) +
        (groupMean label u xs (label p) - c (label p)) *
          (groupMean label u xs (label p) - c (label p))) := by
    ring
  have hcross : (xs.map fun p => (u p - groupMean label u xs (label p)) *
      (2 * (groupMean label u xs (label p) - c (label p)))).sum = 0 :=
    sum_sub_groupMean_mul fun g => 2 * (groupMean label u xs g - c g)
  rw [spread, spread]
  simp only [hsplit]
  rw [List.sum_map_add, List.sum_map_add, hcross, zero_add]
  apply le_add_of_nonneg_right
  apply List.sum_nonneg
  rw [List.forall_mem_map]
  exact fun p _ => mul_self_nonneg _

end UavMonitoring.LeastSquares
