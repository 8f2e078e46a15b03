import Mathlib.Data.List.Basic

namespace UavMonitoring.Countdown

theorem last_cut_unique {α : Type} {P : α → Prop} {xs xs' ys ys' : List α} {x x' : α}
    (h : xs ++ x :: ys = xs' ++ x' :: ys') (hx : P x) (hx' : P x') (hys : ∀ y ∈ ys, ¬ P y)
    (hys' : ∀ y ∈ ys', ¬ P y) : xs = xs' ∧ x = x' ∧ ys = ys' := by
  rcases List.append_eq_append_iff.mp h with ⟨zs, rfl, htail⟩ | ⟨zs, rfl, htail⟩
  · cases zs with
    | nil =>
        obtain ⟨rfl, rfl⟩ := List.cons.inj htail
        exact ⟨(List.append_nil _).symm, rfl, rfl⟩
    | cons z zs =>
        obtain ⟨rfl, rfl⟩ := List.cons.inj htail
        exact absurd hx' (hys x' (by simp))
  · cases zs with
    | nil =>
        obtain ⟨rfl, rfl⟩ := List.cons.inj htail
        exact ⟨List.append_nil _, rfl, rfl⟩
    | cons z zs =>
        obtain ⟨rfl, rfl⟩ := List.cons.inj htail
        exact absurd hx (hys' x (by simp))

variable {α : Type} {resets ticks : α → Prop} [DecidablePred ticks] {value : List α → α → Nat} {past : List α}
  {n : Nat} {a : α}

/-- What is left of a number that some steps set, and others count down as far as zero. -/
def Left (resets ticks : α → Prop) [DecidablePred ticks] (value : List α → α → Nat) (past : List α)
    (n : Nat) : Prop :=
  ((∀ a ∈ past, ¬ resets a) ∧ n = 0) ∨
    ∃ before a between, past = before ++ a :: between ∧ resets a ∧ (∀ b ∈ between, ¬ resets b) ∧
      n = value before a - between.countP ticks

theorem left_nil : Left resets ticks value [] 0 := .inl ⟨nofun, rfl⟩

theorem left_reset (h : resets a) : Left resets ticks value (past ++ [a]) (value past a) :=
  .inr ⟨past, a, [], rfl, h, nofun, rfl⟩

theorem left_step (h : Left resets ticks value past n) (hreset : ¬ resets a) :
    Left resets ticks value (past ++ [a]) (n - if ticks a then 1 else 0) := by
  rcases h with ⟨hnever, rfl⟩ | ⟨before, b, between, rfl, hb, hbetween, rfl⟩
  · refine .inl ⟨?_, Nat.zero_sub _⟩
    rw [List.forall_mem_append, List.forall_mem_singleton]
    exact ⟨hnever, hreset⟩
  · refine .inr ⟨before, b, between ++ [a], by simp, hb, ?_, ?_⟩
    · rw [List.forall_mem_append, List.forall_mem_singleton]
      exact ⟨hbetween, hreset⟩
    · rw [List.countP_append, List.countP_singleton, Nat.sub_sub]
      by_cases ha : ticks a <;> simp [ha]

/-- Something is left exactly if less has been counted down since the last reset than it set. -/
theorem left_pos_iff (h : Left resets ticks value past n) :
    0 < n ↔ ∃ before a between, past = before ++ a :: between ∧ resets a ∧ (∀ b ∈ between, ¬ resets b) ∧
      between.countP ticks < value before a := by
  rcases h with ⟨hnever, rfl⟩ | ⟨before, a, between, hpast, ha, hbetween, rfl⟩
  · refine iff_of_false (Nat.lt_irrefl 0) ?_
    rintro ⟨before, a, between, rfl, ha, _⟩
    exact hnever a (by simp) ha
  · constructor
    · exact fun hpos => ⟨before, a, between, hpast, ha, hbetween, Nat.lt_of_sub_pos hpos⟩
    · rintro ⟨before', a', between', hpast', ha', hbetween', hlt⟩
      obtain ⟨rfl, rfl, rfl⟩ := last_cut_unique (hpast.symm.trans hpast') ha ha' hbetween hbetween'
      exact Nat.sub_pos_of_lt hlt

end UavMonitoring.Countdown
