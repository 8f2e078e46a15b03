import Mathlib.Data.List.Induction
import UavMonitoring.CounterLoop

namespace UavMonitoring.FirstMatch

open CounterLoop

variable {α β : Type}

/-- A store in which an arriving element takes the place of the first one it
matches, or goes to the end. -/
def put (near : α → α → Bool) (xs : List α) (x : α) : List α :=
  match xs.findIdx? (near x) with
  | some i => xs.set i x
  | none => xs ++ [x]

def putAll (near : α → α → Bool) (ts : List α) : List α := ts.foldl (put near) []

theorem put_of_hit {near : α → α → Bool} {xs : List α} {x : α} {i : Nat}
    (h : xs.findIdx? (near x) = some i) : put near xs x = xs.set i x := by
  simp only [put, h]

theorem put_of_miss {near : α → α → Bool} {xs : List α} {x : α}
    (h : xs.findIdx? (near x) = none) : put near xs x = xs ++ [x] := by
  simp only [put, h]

theorem search_put (w : Nat) (near : α → α → Bool) (xs : List α) (x : α) :
    (match search w xs (near x) with
      | none => none
      | some (some i) => some (xs.set i x)
      | some none => some (xs ++ [x])) = (search w xs (near x)).map fun _ => put near xs x := by
  cases h : search w xs (near x) with
  | none => rfl
  | some r =>
      cases r with
      | some i => rw [Option.map_some, put_of_hit (findIdx?_of_search h)]
      | none => rw [Option.map_some, put_of_miss (findIdx?_of_search h)]

theorem search_put_self {w : Nat} {near : α → α → Bool} {xs : List α} {x : α} {r : Option Nat}
    (hself : near x x) (h : search w xs (near x) = some r) :
    ∃ i, search w (put near xs x) (near x) = some (some i) ∧ (put near xs x).set i x = put near xs x := by
  cases r with
  | some i =>
      rw [put_of_hit (findIdx?_of_search h)]
      obtain ⟨hw, hi, _, hbefore⟩ := (search_hit_iff w xs (near x) i).mp h
      refine ⟨i, (search_hit_iff ..).mpr ⟨hw, by rwa [List.length_set], ?_, fun j hj => ?_⟩, List.set_set ..⟩
      · rwa [List.getElem_set_self]
      · rw [List.getElem_set_ne (Nat.ne_of_gt hj)]
        exact hbefore j hj
  | none =>
      rw [put_of_miss (findIdx?_of_search h)]
      obtain ⟨hw, hfar⟩ := (search_miss_iff w xs (near x)).mp h
      refine ⟨xs.length, (search_hit_iff ..).mpr ⟨hw, by simp, ?_, fun j hj => ?_⟩, ?_⟩
      · rwa [List.getElem_append_right (Nat.le_refl _), List.getElem_singleton]
      · rw [List.getElem_append_left hj]
        exact hfar _ (List.getElem_mem hj)
      · rw [List.set_append_right _ _ (Nat.le_refl _), Nat.sub_self]
        rfl

theorem put_cons (near : α → α → Bool) (y : α) (ys : List α) (x : α) :
    put near (y :: ys) x = if near x y then x :: ys else y :: put near ys x := by
  rw [put, put, List.findIdx?_cons]
  cases near x y with
  | true => rfl
  | false => cases ys.findIdx? (near x) <;> rfl

theorem putAll_concat (near : α → α → Bool) (ts : List α) (x : α) :
    putAll near (ts ++ [x]) = put near (putAll near ts) x := List.foldl_append ..

theorem getElem?_put (near : α → α → Bool) {xs : List α} {y : α} {i : Nat} (h : xs[i]? = some y) (x : α) :
    (put near xs x)[i]? = some y ∨
      (xs.findIdx? (near x) = some i ∧ (put near xs x)[i]? = some x) := by
  obtain ⟨hi, _⟩ := List.getElem?_eq_some_iff.mp h
  cases hf : xs.findIdx? (near x) with
  | some j =>
      rw [put_of_hit hf]
      by_cases hij : j = i
      · subst hij
        exact .inr ⟨rfl, List.getElem?_set_self hi⟩
      · rw [List.getElem?_set_ne hij]
        exact .inl h
  | none =>
      rw [put_of_miss hf, List.getElem?_append_left hi]
      exact .inl h

theorem mem_put_self (near : α → α → Bool) (xs : List α) (x : α) : x ∈ put near xs x := by
  cases h : xs.findIdx? (near x) with
  | some i =>
      obtain ⟨hi, _⟩ := List.findIdx?_eq_some_iff_getElem.mp h
      rw [put_of_hit h]
      exact List.mem_set hi x
  | none => simp [put_of_miss h]

theorem mem_of_mem_put {near : α → α → Bool} {xs : List α} {x y : α} (h : y ∈ put near xs x) :
    y ∈ xs ∨ y = x := by
  cases hf : xs.findIdx? (near x) with
  | some i =>
      rw [put_of_hit hf] at h
      exact List.mem_or_eq_of_mem_set h
  | none => simpa [put_of_miss hf] using h

theorem length_put_le (near : α → α → Bool) (xs : List α) (x : α) :
    (put near xs x).length ≤ xs.length + 1 := by
  cases h : xs.findIdx? (near x) with
  | some i => simp [put_of_hit h]
  | none => simp [put_of_miss h]

theorem length_putAll_le (near : α → α → Bool) (ts : List α) :
    (putAll near ts).length ≤ ts.length := by
  induction ts using List.reverseRecOn with
  | nil => exact Nat.le_refl 0
  | append_singleton ts x ih =>
      rw [putAll_concat, List.length_append, List.length_singleton]
      exact Nat.le_trans (length_put_le near _ x) (Nat.succ_le_succ ih)

theorem mem_of_mem_putAll {near : α → α → Bool} {ts : List α} {y : α} (h : y ∈ putAll near ts) :
    y ∈ ts := by
  induction ts using List.reverseRecOn with
  | nil => exact h
  | append_singleton ts x ih =>
      rw [putAll_concat] at h
      rcases mem_of_mem_put h with h | rfl
      · exact List.mem_append_left _ (ih h)
      · exact List.mem_append_right _ (List.mem_singleton_self _)

theorem putAll_of_far (near : α → α → Bool) (ts : List α)
    (hfar : ts.Pairwise (fun y x => ¬ near x y)) : putAll near ts = ts := by
  induction ts using List.reverseRecOn with
  | nil => rfl
  | append_singleton ts x ih =>
      obtain ⟨hts, _, hx⟩ := List.pairwise_append.mp hfar
      rw [putAll_concat, ih hts, put_of_miss]
      rw [List.findIdx?_eq_none_iff]
      exact fun y hy => by simpa using hx y hy x (List.mem_singleton_self x)

section Apart

theorem pairwise_put_iff {near : α → α → Bool} (hsymm : ∀ a b, near a b → near b a) {xs : List α}
    (h : xs.Pairwise fun y z => ¬ near y z) (x : α) :
    (put near xs x).Pairwise (fun y z => ¬ near y z) ↔ xs.countP (near x) ≤ 1 := by
  have hsymm' {a b : α} (hab : ¬ near a b) : ¬ near b a := fun hba => hab (hsymm b a hba)
  have hone (n : Nat) : n + 1 ≤ 1 ↔ n = 0 := by omega
  cases hf : xs.findIdx? (near x) with
  | some i =>
      obtain ⟨hi, hn, _⟩ := List.findIdx?_eq_some_iff_getElem.mp hf
      have hxs : xs = xs.take i ++ xs[i] :: xs.drop (i + 1) := by
        rw [← List.drop_eq_getElem_cons hi, List.take_append_drop]
      have hcount : xs.countP (near x) = (xs.take i ++ xs.drop (i + 1)).countP (near x) + 1 := by
        conv_lhs => rw [hxs]
        rw [List.countP_append, List.countP_cons_of_pos hn, List.countP_append, Nat.add_assoc]
      have hrest : (xs.take i ++ xs.drop (i + 1)).Pairwise fun y z => ¬ near y z := by
        rw [hxs, List.pairwise_middle hsymm'] at h
        exact (List.pairwise_cons.mp h).2
      rw [put_of_hit hf, List.set_eq_take_append_cons_drop, if_pos hi, List.pairwise_middle hsymm',
        List.pairwise_cons, hcount, hone, List.countP_eq_zero]
      exact and_iff_left hrest
  | none =>
      have hfar := List.findIdx?_eq_none_iff.mp hf
      have hcount : xs.countP (near x) = 0 := List.countP_eq_zero.mpr (by simpa using hfar)
      rw [put_of_miss hf, List.pairwise_append, hcount]
      refine iff_of_true ⟨h, List.pairwise_singleton _ _, fun y hy z hz => ?_⟩ (Nat.zero_le 1)
      obtain rfl := List.mem_singleton.mp hz
      exact hsymm' (by simpa using hfar y hy)

end Apart

section Keys

variable (near : α → α → Bool) (key : α → β)

theorem keys_put (xs : List α) (x : α) (halike : ∀ y ∈ xs, near x y → key x = key y) (k : β) :
    k ∈ (put near xs x).map key ↔ k ∈ xs.map key ∨ k = key x := by
  cases h : xs.findIdx? (near x) with
  | some i =>
      obtain ⟨hi, hn, _⟩ := List.findIdx?_eq_some_iff_getElem.mp h
      have hk : key x = key xs[i] := halike _ (List.getElem_mem hi) hn
      have hset : (put near xs x).map key = xs.map key := by
        have hi' : i < (xs.map key).length := by simpa using hi
        rw [put_of_hit h, List.map_set, hk, ← List.getElem_map key (h := hi'), List.set_getElem_self]
      rw [hset, iff_self_or]
      rintro rfl
      rw [hk]
      exact List.mem_map_of_mem (List.getElem_mem hi)
  | none => simp [put_of_miss h]

theorem keys_putAll (ts : List α) (halike : ∀ x ∈ ts, ∀ y ∈ ts, near x y → key x = key y) (k : β) :
    k ∈ (putAll near ts).map key ↔ k ∈ ts.map key := by
  induction ts using List.reverseRecOn with
  | nil => rfl
  | append_singleton ts x ih =>
      have hts := ih fun y hy z hz =>
        halike y (List.mem_append_left _ hy) z (List.mem_append_left _ hz)
      have hx : ∀ y ∈ putAll near ts, near x y → key x = key y := fun y hy =>
        halike x (List.mem_append_right _ (List.mem_singleton_self x)) y
          (List.mem_append_left _ (mem_of_mem_putAll hy))
      rw [putAll_concat, keys_put near key _ x hx, hts]
      simp

variable {near key} in
theorem nodup_put_iff [DecidableEq β] {xs : List α} (h : (xs.map key).Nodup) (x : α) :
    ((put (fun x y => key y == key x || near x y) xs x).map key).Nodup ↔
      (key x ∈ xs.map key → ∀ y ∈ xs.takeWhile (fun y => key y != key x), ¬ near x y) := by
  induction xs with
  | nil => simp [put]
  | cons y ys ih =>
      obtain ⟨hy, hys⟩ := List.nodup_cons.mp h
      rw [put_cons, List.takeWhile_cons, List.map_cons, List.mem_cons]
      by_cases hkey : key y = key x
      · have hx : key x ∉ ys.map key := hkey ▸ hy
        simp only [hkey, beq_self_eq_true, Bool.true_or, if_true, bne_self_eq_false,
          Bool.false_eq_true, if_false, List.map_cons]
        exact iff_of_true (List.nodup_cons.mpr ⟨hx, hys⟩) (by simp)
      · have hne : (key y == key x) = false := beq_eq_false_iff_ne.mpr hkey
        have hne' : (key y != key x) = true := bne_iff_ne.mpr hkey
        rw [hne, hne', if_pos rfl, Bool.false_or, or_iff_right (Ne.symm hkey), List.forall_mem_cons]
        by_cases hnear : near x y = true
        · rw [if_pos hnear, List.map_cons, List.nodup_cons, and_iff_left hys]
          tauto
        · have hfar : key y ∉ (put (fun x y => key y == key x || near x y) ys x).map key := by
            intro hk
            obtain ⟨z, hz, hzk⟩ := List.mem_map.mp hk
            rcases mem_of_mem_put hz with hz | rfl
            · exact hy (hzk ▸ List.mem_map_of_mem hz)
            · exact hkey hzk.symm
          rw [if_neg hnear, List.map_cons, List.nodup_cons, and_iff_right hfar, ih hys, and_iff_right hnear]

theorem key_notMem_foldl (ts xs : List α) (k : β) (hxs : k ∉ xs.map key)
    (hts : ∀ x ∈ ts, key x ≠ k) : k ∉ (ts.foldl (put near) xs).map key := by
  induction ts generalizing xs with
  | nil => exact hxs
  | cons x ts ih =>
      refine ih _ ?_ (fun y hy => hts y (List.mem_cons_of_mem _ hy))
      intro hk
      obtain ⟨y, hy, rfl⟩ := List.mem_map.mp hk
      rcases mem_of_mem_put hy with hy | rfl
      · exact hxs (List.mem_map_of_mem hy)
      · exact hts y List.mem_cons_self rfl

end Keys

section Agreement

variable {near : α → α → Bool} {key : α → Option β}

def Agree (near : α → α → Bool) (key : α → Option β) (ts : List α) : Prop :=
  ∀ us vs : List α, us.Perm ts → vs.Perm ts →
    ∀ k, some k ∈ (putAll near us).map key ↔ some k ∈ (putAll near vs).map key

theorem put_singleton {x y : α} (h : near x y) : put near [y] x = [x] := by
  rw [put_of_hit (i := 0) (by simp [h])]
  rfl

theorem foldl_same_key (hsame : ∀ a b k, key a = some k → key b = some k → near a b) (k : β)
    (ts : List α) (hts : ∀ x ∈ ts, key x = some k) (y : α) (hy : key y = some k) :
    ∃ z, key z = some k ∧ ts.foldl (put near) [y] = [z] := by
  induction ts generalizing y with
  | nil => exact ⟨y, hy, rfl⟩
  | cons x ts ih =>
      have hx := hts x List.mem_cons_self
      rw [List.foldl_cons, put_singleton (hsame x y k hx hy)]
      exact ih (fun z hz => hts z (List.mem_cons_of_mem _ hz)) x hx

variable [DecidableEq α] [DecidableEq β]

theorem exists_order_without (hsame : ∀ a b k, key a = some k → key b = some k → near a b)
    (hnear : ∀ a b k, key a = some k → key b = some k → ∀ x, near x a = near x b)
    {ts : List α} {a b : α} (ha : a ∈ ts) (hb : b ∈ ts) (hab : near a b) {k : β}
    (hbk : key b = some k) (hak : key a ≠ some k) :
    ∃ us : List α, us.Perm ts ∧ some k ∉ (putAll near us).map key := by
  let same := (ts.filter (fun x => key x = some k)).erase b
  let others := (ts.filter (fun x => !decide (key x = some k))).erase a
  refine ⟨b :: same ++ a :: others, ?_, ?_⟩
  · have hb' : b ∈ ts.filter (fun x => key x = some k) := by simp [hb, hbk]
    have ha' : a ∈ ts.filter (fun x => !decide (key x = some k)) := by simp [ha, hak]
    exact ((List.perm_cons_erase hb').symm.append (List.perm_cons_erase ha').symm).trans
      (List.filter_append_perm _ ts)
  · have hsame' : ∀ x ∈ same, key x = some k := fun x hx => by
      simpa using (List.mem_filter.mp (List.mem_of_mem_erase hx)).2
    have hothers : ∀ x ∈ others, key x ≠ some k := fun x hx => by
      simpa using (List.mem_filter.mp (List.mem_of_mem_erase hx)).2
    obtain ⟨z, hz, hfold⟩ := foldl_same_key hsame k same hsame' b hbk
    have haz : near a z := (hnear b z k hbk hz a).symm.trans hab
    have hstart : put near [] b = [b] := rfl
    rw [putAll, List.foldl_append, List.foldl_cons, List.foldl_cons, hstart, hfold,
      put_singleton haz]
    exact key_notMem_foldl near key others [a] (some k) (by simpa using Ne.symm hak) hothers

omit [DecidableEq β] in
theorem exists_order_with {ts : List α} {b : α} (hb : b ∈ ts) :
    ∃ us : List α, us.Perm ts ∧ b ∈ putAll near us := by
  refine ⟨ts.erase b ++ [b], ?_, ?_⟩
  · exact List.perm_append_comm.trans (List.perm_cons_erase hb).symm
  · rw [putAll_concat]
    exact mem_put_self near _ b

/-- The orders of arrival agree exactly when elements only ever replace
elements of their own key. -/
theorem agree_iff (hsymm : ∀ a b, near a b → near b a)
    (hsame : ∀ a b k, key a = some k → key b = some k → near a b)
    (hnear : ∀ a b k, key a = some k → key b = some k → ∀ x, near x a = near x b) (ts : List α) :
    Agree near key ts ↔ ∀ a ∈ ts, ∀ b ∈ ts, near a b → key a = key b := by
  constructor
  · intro h a ha b hb hab
    have hshown (a b : α) (ha : a ∈ ts) (hb : b ∈ ts) (hab : near a b) (k : β)
        (hbk : key b = some k) : key a = some k := by
      by_contra hak
      obtain ⟨us, hus, hout⟩ := exists_order_without hsame hnear ha hb hab hbk hak
      obtain ⟨vs, hvs, hin⟩ : ∃ vs : List α, vs.Perm ts ∧ b ∈ putAll near vs := exists_order_with hb
      have hk : some k ∈ (putAll near vs).map key := hbk ▸ List.mem_map_of_mem hin
      exact hout ((h us vs hus hvs k).mpr hk)
    cases hbk : key b with
    | some k => exact hshown a b ha hb hab k hbk
    | none =>
        cases hak : key a with
        | none => rfl
        | some k => rw [← hbk, hshown b a hb ha (hsymm a b hab) k hak]
  · intro halike us vs hus hvs k
    have hmem (ws : List α) (hws : ws.Perm ts) :
        some k ∈ (putAll near ws).map key ↔ some k ∈ ts.map key := by
      rw [keys_putAll near key ws fun x hx y hy => halike x (hws.mem_iff.mp hx) y (hws.mem_iff.mp hy)]
      exact (hws.map key).mem_iff
    rw [hmem us hus, hmem vs hvs]

end Agreement

end UavMonitoring.FirstMatch
