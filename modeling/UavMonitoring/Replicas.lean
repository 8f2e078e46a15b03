import Mathlib.Data.List.Basic

namespace UavMonitoring.Replicas

variable {ι σ μ : Type}

/-- A replica takes messages one after the other; taking one may never end. -/
def takeAll (take : μ → σ → Option σ) (s : σ) (ms : List μ) : Option σ :=
  ms.foldlM (fun s m => take m s) s

def repeated (n : Nat) (ms : List μ) : List μ := ms.flatMap (List.replicate n)

def Idempotent (take : μ → σ → Option σ) : Prop := ∀ m s s', take m s = some s' → take m s' = some s'

variable {take : μ → σ → Option σ}

@[simp] theorem takeAll_nil (s : σ) : takeAll take s [] = some s := rfl

theorem takeAll_cons (s : σ) (m : μ) (ms : List μ) :
    takeAll take s (m :: ms) = (take m s).bind fun s' => takeAll take s' ms := by
  rw [takeAll, List.foldlM_cons]
  rfl

theorem takeAll_append (s : σ) (ms ms' : List μ) :
    takeAll take s (ms ++ ms') = (takeAll take s ms).bind fun s' => takeAll take s' ms' := by
  rw [takeAll, List.foldlM_append]
  rfl

theorem takeAll_replicate (h : Idempotent take) (m : μ) (s : σ) (n : Nat) :
    takeAll take s (List.replicate (n + 1) m) = take m s := by
  induction n generalizing s with
  | zero =>
      rw [List.replicate_one, takeAll_cons]
      exact Option.bind_fun_some _
  | succ n ih =>
      rw [List.replicate_succ, takeAll_cons]
      cases hs : take m s with
      | none => rfl
      | some s' => rw [Option.bind_some, ih, h m s s' hs]

theorem takeAll_repeated (h : Idempotent take) {n : Nat} (hn : 0 < n) (s : σ) (ms : List μ) :
    takeAll take s (repeated n ms) = takeAll take s ms := by
  obtain ⟨n, rfl⟩ := Nat.exists_eq_add_one.mpr hn
  induction ms generalizing s with
  | nil => rfl
  | cons m ms ih =>
      rw [repeated, List.flatMap_cons, takeAll_append, takeAll_replicate h, takeAll_cons]
      exact congrArg _ (funext ih)

theorem repeated_zero (ms : List μ) : repeated 0 ms = [] := by simp [repeated]

theorem filterMap_count [DecidableEq ι] (js : List ι) (j : ι) (m : μ) :
    (js.filterMap fun k => if k = j then some m else none) = List.replicate (js.count j) m := by
  induction js with
  | nil => rfl
  | cons k js ih =>
      rw [List.filterMap_cons, ih]
      by_cases hk : k = j
      · rw [if_pos hk, hk, List.count_cons_self, List.replicate_succ]
      · rw [if_neg hk, List.count_cons_of_ne hk]

theorem agree_step (h : Idempotent take) {members : ι → Prop} {s s' : ι → σ} {copies : ι → Nat}
    {ms : List μ} (hagree : ∀ j k, members j → members k → s j = s k)
    (hpos : ∀ j, members j → 0 < copies j)
    (htake : ∀ j, members j → takeAll take (s j) (repeated (copies j) ms) = some (s' j)) :
    ∀ j k, members j → members k → s' j = s' k := by
  intro j k hj hk
  have hj' := htake j hj
  have hk' := htake k hk
  rw [takeAll_repeated h (hpos j hj), hagree j k hj hk] at hj'
  rw [takeAll_repeated h (hpos k hk), hj'] at hk'
  exact Option.some.inj hk'

end UavMonitoring.Replicas
