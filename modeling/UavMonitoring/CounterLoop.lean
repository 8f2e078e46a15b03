import Mathlib.Algebra.Group.Nat.Defs
import Mathlib.Data.List.Basic

namespace UavMonitoring.CounterLoop

variable {α σ ρ : Type}

/-- At most `fuel` rounds of `for (uintw_t i = …; i < xs.size (); i++)`, entered
with counter `i`. A round may leave the loop with a result, hand on its state,
or never come back itself; the counter lives modulo `2 ^ w`. -/
def rounds (w : Nat) (xs : List α) (body : Nat → σ → α → Option (ρ ⊕ σ)) :
    Nat → Nat → σ → Option (ρ ⊕ σ)
  | 0, _, _ => none
  | fuel + 1, i, s =>
      match xs[i]? with
      | none => some (.inr s)
      | some x => match body i s x with
          | none => none
          | some (.inl r) => some (.inl r)
          | some (.inr s') => rounds w xs body fuel ((i + 1) % 2 ^ w) s'

/-- What a loop without an early exit computes, `none` when it never ends. -/
def forEach (w : Nat) (xs : List α) (body : σ → α → Option σ) (s : σ) : Option σ :=
  if xs.length < 2 ^ w then xs.foldlM body s else none

def accumulate (w : Nat) (xs : List α) (f : σ → α → σ) (s : σ) : Option σ :=
  forEach w xs (fun s x => some (f s x)) s

/-- What a loop computes that only looks for the first hit and leaves with its
index: the index, or nothing when the scan runs off the end. -/
def search (w : Nat) (xs : List α) (p : α → Bool) : Option (Option Nat) :=
  match (xs.take (2 ^ w)).findIdx? p with
  | some i => some (some i)
  | none => if xs.length < 2 ^ w then some none else none

theorem rounds_of_none {w : Nat} {xs : List α} (body : Nat → σ → α → Option (ρ ⊕ σ))
    (fuel i : Nat) (s : σ) (h : xs.length ≤ i) : rounds w xs body (fuel + 1) i s = some (.inr s) := by
  simp [rounds, List.getElem?_eq_none h]

theorem rounds_of_some {w : Nat} {xs : List α} {i : Nat} {x : α} (body : Nat → σ → α → Option (ρ ⊕ σ))
    (fuel : Nat) (s : σ) (h : xs[i]? = some x) :
    rounds w xs body (fuel + 1) i s =
      match body i s x with
      | none => none
      | some (.inl r) => some (.inl r)
      | some (.inr s') => rounds w xs body fuel ((i + 1) % 2 ^ w) s' := by
  simp only [rounds, h]

def stepBody (body : σ → α → Option σ) : Nat → σ → α → Option (Empty ⊕ σ) :=
  fun _ s x => (body s x).map .inr

theorem rounds_fold (w : Nat) (xs : List α) (body : σ → α → Option σ) (hw : xs.length < 2 ^ w)
    (n i : Nat) (hi : i + n = xs.length) (fuel : Nat) (s : σ) :
    rounds w xs (stepBody body) (n + 1 + fuel) i s = ((xs.drop i).foldlM body s).map .inr := by
  induction n generalizing i s with
  | zero =>
      rw [Nat.zero_add, Nat.add_comm 1 fuel, rounds_of_none _ _ _ _ (by omega),
        List.drop_eq_nil_of_le (by omega)]
      rfl
  | succ n ih =>
      have hlt : i < xs.length := by omega
      have hnext : (i + 1) % 2 ^ w = i + 1 := Nat.mod_eq_of_lt (by omega)
      rw [show n + 1 + 1 + fuel = (n + 1 + fuel) + 1 by omega,
        rounds_of_some _ _ _ (List.getElem?_eq_getElem hlt), List.drop_eq_getElem_cons hlt,
        List.foldlM_cons]
      cases hb : body s xs[i] with
      | none => simp [stepBody, hb]
      | some s' => simpa [stepBody, hb, hnext] using ih (i + 1) (by omega) s'

theorem rounds_wrap (w : Nat) (xs : List α) (body : σ → α → Option σ) (hw : 2 ^ w ≤ xs.length)
    (fuel i : Nat) (hi : i < 2 ^ w) (s : σ) : rounds w xs (stepBody body) fuel i s = none := by
  induction fuel generalizing i s with
  | zero => rfl
  | succ fuel ih =>
      have hlt : i < xs.length := by omega
      rw [rounds_of_some _ _ _ (List.getElem?_eq_getElem hlt)]
      cases hb : body s xs[i] with
      | none => simp [stepBody, hb]
      | some s' => simpa [stepBody, hb] using ih _ (Nat.mod_lt _ (Nat.two_pow_pos w)) s'

theorem rounds_stable (w : Nat) (xs : List α) (body : Nat → σ → α → Option (ρ ⊕ σ))
    (fuel extra i : Nat) (s : σ) (r : ρ ⊕ σ) (h : rounds w xs body fuel i s = some r) :
    rounds w xs body (fuel + extra) i s = some r := by
  induction fuel generalizing i s with
  | zero => simp [rounds] at h
  | succ fuel ih =>
      rw [Nat.add_right_comm]
      cases hx : xs[i]? with
      | none => simpa [rounds, hx] using h
      | some x =>
          rw [rounds_of_some _ _ _ hx] at h ⊢
          cases hb : body i s x with
          | none => simp [hb] at h
          | some o =>
              cases o with
              | inl r' => simpa [hb] using h
              | inr s' => simp only [hb] at h ⊢; exact ih _ _ h

/-- `forEach` is the loop: it yields what some number of rounds yields, and
nothing exactly when no number of rounds is enough. -/
theorem forEach_eq_some_iff (w : Nat) (xs : List α) (body : σ → α → Option σ) (s r : σ) :
    forEach w xs body s = some r ↔ ∃ fuel, rounds w xs (stepBody body) fuel 0 s = some (.inr r) := by
  by_cases hw : xs.length < 2 ^ w
  · have hf := rounds_fold w xs body hw xs.length 0 (Nat.zero_add _)
    rw [forEach, if_pos hw]
    constructor
    · intro h
      exact ⟨xs.length + 1, by simpa [h] using hf 0 s⟩
    · rintro ⟨fuel, h⟩
      have h' := rounds_stable w xs _ fuel (xs.length + 1) 0 s _ h
      rw [Nat.add_comm fuel, hf fuel s] at h'
      simpa using h'
  · have hn := rounds_wrap w xs body (Nat.le_of_not_lt hw)
    simp [forEach, hw, hn _ 0 (Nat.two_pow_pos w) s]

theorem forEach_of_short {w : Nat} {xs : List α} (hw : xs.length < 2 ^ w)
    (body : σ → α → Option σ) (s : σ) : forEach w xs body s = xs.foldlM body s := if_pos hw

theorem forEach_of_long {w : Nat} {xs : List α} (hw : 2 ^ w ≤ xs.length)
    (body : σ → α → Option σ) (s : σ) : forEach w xs body s = none := if_neg (Nat.not_lt.mpr hw)

theorem forEach_short {w : Nat} {xs : List α} {body : σ → α → Option σ} {s r : σ}
    (h : forEach w xs body s = some r) : xs.length < 2 ^ w := by
  by_contra hw
  simp [forEach, hw] at h

theorem foldlM_invariant_mem {body : σ → α → Option σ} (P : σ → Prop) {xs : List α}
    (hstep : ∀ s, ∀ x ∈ xs, ∀ s', P s → body s x = some s' → P s') {s r : σ} (hs : P s)
    (h : xs.foldlM body s = some r) : P r := by
  induction xs generalizing s with
  | nil => cases h; exact hs
  | cons x xs ih =>
      obtain ⟨hx, hxs⟩ := List.forall_mem_cons.mp fun x hx s => hstep s x hx
      rw [List.foldlM_cons] at h
      obtain ⟨s', hb, h⟩ := Option.bind_eq_some_iff.mp h
      exact ih (fun s x hmem => hxs x hmem s) (hx s s' hs hb) h

theorem foldlM_invariant {body : σ → α → Option σ} (P : σ → Prop) {xs : List α}
    (hstep : ∀ s x s', P s → body s x = some s' → P s') {s r : σ} (hs : P s)
    (h : xs.foldlM body s = some r) : P r :=
  foldlM_invariant_mem P (fun s x _ => hstep s x) hs h

theorem forEach_invariant_mem {w : Nat} {xs : List α} {body : σ → α → Option σ} (P : σ → Prop)
    (hstep : ∀ s, ∀ x ∈ xs, ∀ s', P s → body s x = some s' → P s') {s r : σ} (hs : P s)
    (h : forEach w xs body s = some r) : P r := by
  rw [forEach_of_short (forEach_short h)] at h
  exact foldlM_invariant_mem P hstep hs h

theorem forEach_invariant {w : Nat} {xs : List α} {body : σ → α → Option σ} (P : σ → Prop)
    (hstep : ∀ s x s', P s → body s x = some s' → P s') {s r : σ} (hs : P s)
    (h : forEach w xs body s = some r) : P r :=
  forEach_invariant_mem P (fun s x _ => hstep s x) hs h

theorem foldlM_trace {β : Type} {body : σ → α → Option σ} (R : List β → σ → σ → Prop) (o : α → List β)
    (hrefl : ∀ s, R [] s s) (htrans : ∀ ys zs s t u, R ys s t → R zs t u → R (ys ++ zs) s u)
    {xs : List α} (hstep : ∀ s, ∀ x ∈ xs, ∀ s', body s x = some s' → R (o x) s s') {s r : σ}
    (h : xs.foldlM body s = some r) : R (xs.flatMap o) s r := by
  induction xs generalizing s with
  | nil =>
      cases h
      exact hrefl _
  | cons x xs ih =>
      obtain ⟨hx, hxs⟩ := List.forall_mem_cons.mp fun x hx s => hstep s x hx
      rw [List.foldlM_cons] at h
      obtain ⟨s', hb, h⟩ := Option.bind_eq_some_iff.mp h
      rw [List.flatMap_cons]
      exact htrans _ _ _ _ _ (hx s s' hb) (ih (fun s x hmem => hxs x hmem s) h)

theorem forEach_trace {β : Type} {w : Nat} {body : σ → α → Option σ} (R : List β → σ → σ → Prop)
    (o : α → List β) (hrefl : ∀ s, R [] s s)
    (htrans : ∀ ys zs s t u, R ys s t → R zs t u → R (ys ++ zs) s u) {xs : List α}
    (hstep : ∀ s, ∀ x ∈ xs, ∀ s', body s x = some s' → R (o x) s s') {s r : σ}
    (h : forEach w xs body s = some r) : R (xs.flatMap o) s r := by
  rw [forEach_of_short (forEach_short h)] at h
  exact foldlM_trace R o hrefl htrans hstep h

/-- The rule for a loop that comes back: every round does, from a state with
the invariant to one with it. -/
theorem foldlM_total {body : σ → α → Option σ} (P : σ → Prop) {xs : List α}
    (hstep : ∀ s, ∀ x ∈ xs, P s → ∃ s', body s x = some s' ∧ P s') {s : σ} (hs : P s) :
    ∃ r, xs.foldlM body s = some r ∧ P r := by
  induction xs generalizing s with
  | nil => exact ⟨s, rfl, hs⟩
  | cons x xs ih =>
      obtain ⟨s', hb, hs'⟩ := hstep s x List.mem_cons_self hs
      obtain ⟨r, hr, hP⟩ := ih (fun s y hy => hstep s y (List.mem_cons_of_mem _ hy)) hs'
      exact ⟨r, by rw [List.foldlM_cons, hb]; exact hr, hP⟩

theorem forEach_total {w : Nat} {xs : List α} (hw : xs.length < 2 ^ w) {body : σ → α → Option σ}
    (P : σ → Prop) (hstep : ∀ s, ∀ x ∈ xs, P s → ∃ s', body s x = some s' ∧ P s') {s : σ} (hs : P s) :
    ∃ r, forEach w xs body s = some r ∧ P r := by
  rw [forEach_of_short hw]
  exact foldlM_total P hstep hs

theorem foldlM_returns {xs : List α} {body : σ → α → Option σ}
    (hstep : ∀ s, ∀ x ∈ xs, ∃ s', body s x = some s') (s : σ) : ∃ r, xs.foldlM body s = some r := by
  obtain ⟨r, hr, _⟩ := foldlM_total (fun _ => True)
    (fun s x hx _ => (hstep s x hx).imp fun _ hb => ⟨hb, trivial⟩) (trivial : (fun _ => True) s)
  exact ⟨r, hr⟩

theorem forEach_returns {w : Nat} {xs : List α} (hw : xs.length < 2 ^ w) {body : σ → α → Option σ}
    (hstep : ∀ s, ∀ x ∈ xs, ∃ s', body s x = some s') (s : σ) : ∃ r, forEach w xs body s = some r := by
  rw [forEach_of_short hw]
  exact foldlM_returns hstep s

theorem foldlM_some (f : σ → α → σ) (xs : List α) (s : σ) :
    xs.foldlM (fun s x => some (f s x)) s = some (xs.foldl f s) := by
  induction xs generalizing s with
  | nil => rfl
  | cons x xs ih => exact ih (f s x)

theorem foldlM_guard (p : α → Prop) [DecidablePred p] (f : σ → α → σ) {xs : List α}
    (h : ∀ x ∈ xs, p x) (s : σ) :
    xs.foldlM (fun s x => if p x then some (f s x) else none) s = some (xs.foldl f s) := by
  induction xs generalizing s with
  | nil => rfl
  | cons x xs ih =>
      obtain ⟨hx, hxs⟩ := List.forall_mem_cons.mp h
      rw [List.foldlM_cons, if_pos hx]
      exact ih hxs (f s x)

theorem foldl_collect {β : Type} (f : α → β) (xs : List α) (ys : List β) :
    xs.foldl (fun ys x => ys ++ [f x]) ys = ys ++ xs.map f := by
  induction xs generalizing ys with
  | nil => simp
  | cons x xs ih => rw [List.foldl_cons, ih, List.map_cons, List.append_assoc, List.singleton_append]

theorem foldl_count {N : Type} (next : N → N) (count : Nat → N)
    (hnext : ∀ n, next (count n) = count (n + 1)) (p : α → Prop) [DecidablePred p] (xs : List α)
    (n : Nat) :
    xs.foldl (fun m x => if p x then next m else m) (count n) =
      count (n + xs.countP fun x => decide (p x)) := by
  induction xs generalizing n with
  | nil => rfl
  | cons x xs ih =>
      rw [List.foldl_cons, List.countP_cons]
      by_cases hx : p x
      · rw [if_pos hx, hnext, ih, decide_eq_true hx, if_pos rfl, Nat.add_right_comm, Nat.add_assoc]
      · rw [if_neg hx, ih, decide_eq_false hx, if_neg Bool.false_ne_true, Nat.add_zero]

theorem foldlM_collect {β : Type} {body : α → Option β} {f : α → β} {xs : List α}
    (h : ∀ x ∈ xs, body x = some (f x)) (ys : List β) :
    xs.foldlM (fun ys x => (body x).map fun y => ys ++ [y]) ys = some (ys ++ xs.map f) := by
  induction xs generalizing ys with
  | nil => simp
  | cons x xs ih =>
      obtain ⟨hx, hxs⟩ := List.forall_mem_cons.mp h
      rw [List.foldlM_cons, hx, Option.map_some, Option.bind_eq_bind, Option.bind_some, ih hxs,
        List.map_cons, List.append_assoc, List.singleton_append]

theorem accumulate_of_short {w : Nat} {xs : List α} (hw : xs.length < 2 ^ w) (f : σ → α → σ) (s : σ) :
    accumulate w xs f s = some (xs.foldl f s) := by
  rw [accumulate, forEach_of_short hw, foldlM_some]

theorem accumulate_eq_some_iff (w : Nat) (xs : List α) (f : σ → α → σ) (s r : σ) :
    accumulate w xs f s = some r ↔ xs.length < 2 ^ w ∧ xs.foldl f s = r := by
  by_cases hw : xs.length < 2 ^ w
  · simp [accumulate_of_short hw, hw]
  · simp [accumulate, forEach, hw]

def searchBody (p : α → Bool) : Nat → Unit → α → Option (Nat ⊕ Unit) :=
  fun i _ x => some (if p x then .inl i else .inr ())

def outcome : Option Nat → Nat ⊕ Unit
  | some i => .inl i
  | none => .inr ()

theorem search_of_short {w : Nat} {xs : List α} (hw : xs.length < 2 ^ w) (p : α → Bool) :
    search w xs p = some (xs.findIdx? p) := by
  rw [search, List.take_of_length_le (Nat.le_of_lt hw)]
  cases xs.findIdx? p with
  | some i => rfl
  | none => exact if_pos hw

theorem search_of_long {w : Nat} {xs : List α} (hw : 2 ^ w ≤ xs.length) {p : α → Bool}
    (hp : ∀ x ∈ xs, ¬ p x) : search w xs p = none := by
  have hmiss : (xs.take (2 ^ w)).findIdx? p = none := by
    rw [List.findIdx?_eq_none_iff]
    exact fun x hx => by simpa using hp x (List.mem_of_mem_take hx)
  rw [search, hmiss]
  exact if_neg (Nat.not_lt.mpr hw)

theorem search_hit_iff (w : Nat) (xs : List α) (p : α → Bool) (i : Nat) :
    search w xs p = some (some i) ↔
      i < 2 ^ w ∧ ∃ h : i < xs.length, p xs[i] ∧ ∀ j (hj : j < i), ¬ p xs[j] := by
  have hs : search w xs p = some (some i) ↔ (xs.take (2 ^ w)).findIdx? p = some i := by
    rw [search]
    cases (xs.take (2 ^ w)).findIdx? p with
    | some j => simp
    | none => by_cases hw : xs.length < 2 ^ w <;> simp [hw]
  rw [hs, List.findIdx?_eq_some_iff_getElem]
  simp only [List.length_take, Nat.lt_min, List.getElem_take]
  constructor
  · rintro ⟨⟨hw, hi⟩, hp, hn⟩
    exact ⟨hw, hi, hp, hn⟩
  · rintro ⟨hw, hi, hp, hn⟩
    exact ⟨⟨hw, hi⟩, hp, hn⟩

theorem search_miss_iff (w : Nat) (xs : List α) (p : α → Bool) :
    search w xs p = some none ↔ xs.length < 2 ^ w ∧ ∀ x ∈ xs, ¬ p x := by
  rw [search]
  cases hf : (xs.take (2 ^ w)).findIdx? p with
  | some j =>
      obtain ⟨hj, hp, _⟩ := List.findIdx?_eq_some_iff_getElem.mp hf
      simp only [Option.some.injEq, reduceCtorEq, false_iff, not_and, not_forall]
      exact fun _ => ⟨_, List.mem_of_mem_take (List.getElem_mem hj), fun h => h hp⟩
  | none =>
      by_cases hw : xs.length < 2 ^ w
      · rw [List.take_of_length_le (Nat.le_of_lt hw), List.findIdx?_eq_none_iff] at hf
        simpa [hw] using hf
      · simp [hw]

theorem findIdx?_of_search {w : Nat} {xs : List α} {p : α → Bool} {r : Option Nat}
    (h : search w xs p = some r) : xs.findIdx? p = r := by
  cases r with
  | some i =>
      obtain ⟨_, hi, hp, hn⟩ := (search_hit_iff w xs p i).mp h
      exact List.findIdx?_eq_some_iff_getElem.mpr ⟨hi, hp, hn⟩
  | none =>
      obtain ⟨_, hn⟩ := (search_miss_iff w xs p).mp h
      exact List.findIdx?_eq_none_iff.mpr fun x hx => by simpa using hn x hx

theorem rounds_search (w : Nat) (xs : List α) (p : α → Bool) (n i : Nat) (s : Unit)
    (hi : i + n ≤ xs.length) (hw : i + n < 2 ^ w)
    (hn : ∀ j (hj : j < xs.length), i ≤ j → j < i + n → ¬ p xs[j]) (fuel : Nat) :
    rounds w xs (searchBody p) (n + fuel) i s = rounds w xs (searchBody p) fuel (i + n) s := by
  induction n generalizing i with
  | zero => rw [Nat.zero_add, Nat.add_zero]
  | succ n ih =>
      have hlt : i < xs.length := by omega
      have hnext : (i + 1) % 2 ^ w = i + 1 := Nat.mod_eq_of_lt (by omega)
      have hp : ¬ p xs[i] := hn i hlt (Nat.le_refl i) (by omega)
      rw [show n + 1 + fuel = (n + fuel) + 1 by omega,
        rounds_of_some _ _ _ (List.getElem?_eq_getElem hlt)]
      simp only [searchBody, hp, Bool.false_eq_true, ↓reduceIte, hnext]
      rw [show i + (n + 1) = i + 1 + n by omega]
      exact ih (i + 1) (by omega) (by omega) (fun j hj h h' => hn j hj (by omega) (by omega))

theorem rounds_search_wrap (w : Nat) (xs : List α) (p : α → Bool) (hw : 2 ^ w ≤ xs.length)
    (hn : ∀ j (hj : j < xs.length), j < 2 ^ w → ¬ p xs[j]) (fuel i : Nat) (hi : i < 2 ^ w) (s : Unit) :
    rounds w xs (searchBody p) fuel i s = none := by
  induction fuel generalizing i s with
  | zero => rfl
  | succ fuel ih =>
      have hlt : i < xs.length := by omega
      rw [rounds_of_some _ _ _ (List.getElem?_eq_getElem hlt)]
      simp only [searchBody, hn i hlt hi, Bool.false_eq_true, ↓reduceIte]
      exact ih _ (Nat.mod_lt _ (Nat.two_pow_pos w)) s

theorem search_rounds (w : Nat) (xs : List α) (p : α → Bool) (r : Option Nat)
    (h : search w xs p = some r) :
    ∃ fuel, rounds w xs (searchBody p) fuel 0 () = some (outcome r) := by
  cases r with
  | some i =>
      obtain ⟨hw, hi, hp, hn⟩ := (search_hit_iff w xs p i).mp h
      refine ⟨i + 1, ?_⟩
      rw [rounds_search w xs p i 0 () (by omega) (by omega)
        (fun j _ _ hj => hn j (by omega)), Nat.zero_add,
        rounds_of_some _ _ _ (List.getElem?_eq_getElem hi)]
      simp [searchBody, hp, outcome]
  | none =>
      obtain ⟨hw, hn⟩ := (search_miss_iff w xs p).mp h
      refine ⟨xs.length + 1, ?_⟩
      rw [rounds_search w xs p xs.length 0 () (by omega) (by omega)
        (fun j hj _ _ => hn _ (List.getElem_mem hj)), Nat.zero_add,
        rounds_of_none _ _ _ _ (Nat.le_refl _)]
      rfl

/-- `search` is the scan with an early exit: it yields what some number of
rounds yields, and nothing exactly when the scan goes round for ever. -/
theorem search_eq_some_iff (w : Nat) (xs : List α) (p : α → Bool) (r : Option Nat) :
    search w xs p = some r ↔
      ∃ fuel, rounds w xs (searchBody p) fuel 0 () = some (outcome r) := by
  refine ⟨search_rounds w xs p r, ?_⟩
  rintro ⟨fuel, h⟩
  cases hs : search w xs p with
  | none =>
      have hlong : 2 ^ w ≤ xs.length ∧ ∀ j (hj : j < xs.length), j < 2 ^ w → ¬ p xs[j] := by
        rw [search] at hs
        cases hf : (xs.take (2 ^ w)).findIdx? p with
        | some j => simp [hf] at hs
        | none =>
            simp only [hf, ite_eq_right_iff, reduceCtorEq, imp_false, Nat.not_lt] at hs
            refine ⟨hs, fun j hj hjw => ?_⟩
            have hm : xs[j] ∈ xs.take (2 ^ w) :=
              List.mem_take_iff_getElem.mpr ⟨j, by omega, rfl⟩
            simpa using List.findIdx?_eq_none_iff.mp hf _ hm
      simp [rounds_search_wrap w xs p hlong.1 hlong.2 fuel 0 (Nat.two_pow_pos w)] at h
  | some r' =>
      obtain ⟨fuel', h'⟩ := search_rounds w xs p r' hs
      have h₁ := rounds_stable w xs _ fuel fuel' 0 () _ h
      have h₂ := rounds_stable w xs _ fuel' fuel 0 () _ h'
      rw [Nat.add_comm fuel' fuel, h₁, Option.some.injEq] at h₂
      cases r <;> cases r' <;> simp_all [outcome]

end UavMonitoring.CounterLoop
