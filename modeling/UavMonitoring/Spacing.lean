import Mathlib.Algebra.BigOperators.Group.List.Basic
import Mathlib.Algebra.Order.Group.Defs
import Mathlib.Data.List.Chain
import Mathlib.Tactic.Abel

namespace UavMonitoring.Spacing

structure Use (T : Type) where
  start : T
  length : T
deriving DecidableEq

variable {T : Type} [AddCommGroup T] [LinearOrder T]

/-- After each use the next one waits for `gap` of the length of it. -/
def Spaced (gap : T → T) (uses : List (Use T)) : Prop :=
  uses.IsChain fun a b => a.start + gap a.length ≤ b.start

theorem spaced_concat_iff {gap : T → T} {uses : List (Use T)} {u : Use T} :
    Spaced gap (uses ++ [u]) ↔
      Spaced gap uses ∧ ∀ last ∈ uses.getLast?, last.start + gap last.length ≤ u.start := by
  rw [Spaced, List.isChain_append]
  simp [Spaced]

variable [IsOrderedAddMonoid T]

theorem sum_gap_le {gap : T → T} {u v : Use T} {uses : List (Use T)}
    (h : Spaced gap (u :: uses ++ [v])) :
    ((u :: uses).map fun w => gap w.length).sum ≤ v.start - u.start := by
  induction uses generalizing u with
  | nil =>
      have hnext : u.start + gap u.length ≤ v.start := List.isChain_pair.mp (by simpa [Spaced] using h)
      rw [List.map_singleton, List.sum_singleton, le_sub_iff_add_le, add_comm]
      exact hnext
  | cons w uses ih =>
      obtain ⟨hnext, hrest⟩ := List.isChain_cons_cons.mp h
      have hsum := ih hrest
      rw [List.map_cons, List.sum_cons]
      calc gap u.length + ((w :: uses).map fun w => gap w.length).sum
          ≤ gap u.length + (v.start - w.start) := add_le_add_right hsum _
        _ = v.start - u.start + (u.start + gap u.length - w.start) := by abel
        _ ≤ v.start - u.start + 0 := add_le_add_right (sub_nonpos.mpr hnext) _
        _ = v.start - u.start := add_zero _

end UavMonitoring.Spacing
