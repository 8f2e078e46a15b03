import Mathlib.Data.Finset.Card
import Mathlib.Data.List.Basic

namespace UavMonitoring.WhileLoop

variable {σ ρ : Type}

/-- At most `fuel` rounds of a loop. A round may leave the loop with a result,
hand on its state, or never come back itself. -/
def loop (round : σ → Option (ρ ⊕ σ)) : Nat → σ → Option ρ
  | 0, _ => none
  | fuel + 1, s =>
      match round s with
      | none => none
      | some (.inl r) => some r
      | some (.inr s') => loop round fuel s'

theorem loop_left {round : σ → Option (ρ ⊕ σ)} {s : σ} {r : ρ} (h : round s = some (.inl r))
    (fuel : Nat) : loop round (fuel + 1) s = some r := by
  simp only [loop, h]

theorem loop_right {round : σ → Option (ρ ⊕ σ)} {s s' : σ} (h : round s = some (.inr s'))
    (fuel : Nat) : loop round (fuel + 1) s = loop round fuel s' := by
  simp only [loop, h]

theorem loop_mono {round : σ → Option (ρ ⊕ σ)} {s : σ} {r : ρ} {fuel fuel' : Nat}
    (hle : fuel ≤ fuel') (h : loop round fuel s = some r) : loop round fuel' s = some r := by
  induction fuel generalizing s fuel' with
  | zero => simp [loop] at h
  | succ fuel ih =>
      obtain ⟨n, rfl⟩ := Nat.exists_eq_add_of_le' (Nat.succ_pos fuel |>.trans_le hle)
      have hn : fuel ≤ n := Nat.le_of_succ_le_succ hle
      cases hr : round s with
      | none => simp [loop, hr] at h
      | some o =>
          cases o with
          | inl r' =>
              rw [loop_left hr] at h ⊢
              exact h
          | inr s' =>
              rw [loop_right hr] at h ⊢
              exact ih hn h

/-- The rule for a loop with an invariant and a measure that every round which
does not leave brings down: with more fuel than the measure it returns. -/
theorem loop_returns {round : σ → Option (ρ ⊕ σ)} (I : σ → Prop) (μ : σ → Nat) (Q : ρ → Prop)
    (hround : ∀ s, I s → (∃ r, round s = some (.inl r) ∧ Q r) ∨
      ∃ s', round s = some (.inr s') ∧ I s' ∧ μ s' < μ s)
    {s : σ} (hs : I s) {fuel : Nat} (hfuel : μ s < fuel) : ∃ r, loop round fuel s = some r ∧ Q r := by
  induction fuel generalizing s with
  | zero => exact absurd hfuel (Nat.not_lt_zero _)
  | succ fuel ih =>
      rcases hround s hs with ⟨r, hr, hq⟩ | ⟨s', hr, hs', hlt⟩
      · exact ⟨r, loop_left hr fuel, hq⟩
      · rw [loop_right hr]
        exact ih hs' (by omega)

theorem loop_returns_of_finset {κ : Type} [Preorder κ] {round : σ → Option (ρ ⊕ σ)} (S : Finset σ)
    (key : σ → κ) (Q : ρ → Prop)
    (hround : ∀ s ∈ S, (∃ r, round s = some (.inl r) ∧ Q r) ∨
      ∃ s' ∈ S, round s = some (.inr s') ∧ key s' < key s)
    {s : σ} (hs : s ∈ S) {fuel : Nat} (hfuel : S.card ≤ fuel) :
    ∃ r, loop round fuel s = some r ∧ Q r := by
  classical
  have hdown {s s' : σ} (hs' : s' ∈ S) (h : key s' < key s) :
      (S.filter fun t => key t < key s').card < (S.filter fun t => key t < key s).card := by
    apply Finset.card_lt_card
    refine Finset.ssubset_iff_of_subset ?_ |>.mpr ⟨s', ?_, ?_⟩
    · intro t ht
      obtain ⟨ht, hlt⟩ := Finset.mem_filter.mp ht
      exact Finset.mem_filter.mpr ⟨ht, hlt.trans h⟩
    · exact Finset.mem_filter.mpr ⟨hs', h⟩
    · exact fun ht => lt_irrefl _ (Finset.mem_filter.mp ht).2
  have hbelow : (S.filter fun t => key t < key s).card < fuel := by
    refine lt_of_lt_of_le (Finset.card_lt_card ?_) hfuel
    exact Finset.filter_ssubset.mpr ⟨s, hs, lt_irrefl _⟩
  apply loop_returns (fun s => s ∈ S) (fun s => (S.filter fun t => key t < key s).card) Q ?_ hs hbelow
  intro s hs
  refine (hround s hs).imp_right ?_
  rintro ⟨s', hs', hr, hlt⟩
  exact ⟨s', hr, hs', hdown hs' hlt⟩

/-- `r` is the first fixed point of `f` on the way from `s`. -/
def FirstFixed (f : σ → σ) (s r : σ) : Prop :=
  ∃ k, r = f^[k] s ∧ f r = r ∧ ∀ j < k, f (f^[j] s) ≠ f^[j] s

theorem firstFixed_of_loop {round : σ → Option (σ ⊕ σ)} {f : σ → σ} (I : σ → Prop)
    (hround : ∀ s, I s → I (f s) ∧ (f s = s ∧ round s = some (.inl (f s)) ∨
      f s ≠ s ∧ round s = some (.inr (f s))))
    {s r : σ} (hs : I s) {fuel : Nat} (h : loop round fuel s = some r) : FirstFixed f s r := by
  induction fuel generalizing s with
  | zero => simp [loop] at h
  | succ fuel ih =>
      obtain ⟨hnext, ⟨hfix, hr⟩ | ⟨hmoves, hr⟩⟩ := hround s hs
      · rw [loop_left hr, hfix] at h
        cases h
        exact ⟨0, rfl, hfix, fun j hj => absurd hj (Nat.not_lt_zero j)⟩
      · rw [loop_right hr] at h
        obtain ⟨k, hk, hfix, hbefore⟩ := ih hnext h
        refine ⟨k + 1, hk, hfix, fun j hj => ?_⟩
        cases j with
        | zero => exact hmoves
        | succ j => exact hbefore j (Nat.lt_of_succ_lt_succ hj)

theorem loop_never {round : σ → Option (ρ ⊕ σ)} (I : σ → Prop)
    (hround : ∀ s, I s → round s = none ∨ ∃ s', round s = some (.inr s') ∧ I s')
    {s : σ} (hs : I s) (fuel : Nat) : loop round fuel s = none := by
  induction fuel generalizing s with
  | zero => rfl
  | succ fuel ih =>
      rcases hround s hs with hr | ⟨s', hr, hs'⟩
      · simp only [loop, hr]
      · rw [loop_right hr]
        exact ih hs'

end UavMonitoring.WhileLoop
