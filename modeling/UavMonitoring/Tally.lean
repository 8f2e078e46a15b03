import Mathlib.Algebra.BigOperators.Group.List.Basic
import Mathlib.Data.List.Nodup
import Mathlib.Data.UInt
import Mathlib.Logic.Function.Basic
import Std.Data.ExtTreeMap.Lemmas

namespace UavMonitoring.Tally

open Std

section Keys

variable {κ V β : Type} [Ord κ] [TransOrd κ] [LawfulEqOrd κ]

theorem nodup_keys (m : ExtTreeMap κ V) : (m.toList.map Prod.fst).Nodup := by
  rw [List.Nodup, List.pairwise_map]
  exact ExtTreeMap.distinct_keys_toList.imp fun h he => h (by rw [he]; exact ReflOrd.compare_self)

theorem map_toList_perm (m : ExtTreeMap κ V) {keys : List κ} (hnd : keys.Nodup)
    (hk : ∀ k, k ∈ keys ↔ k ∈ m) (g : κ × V → β) (h : κ → β)
    (hg : ∀ k v, m[k]? = some v → g (k, v) = h k) : (m.toList.map g).Perm (keys.map h) := by
  have hmap : m.toList.map g = (m.toList.map Prod.fst).map h := by
    rw [List.map_map]
    apply List.map_congr_left
    rintro ⟨k, v⟩ hmem
    exact hg k v (ExtTreeMap.mem_toList_iff_getElem?_eq_some.mp hmem)
  rw [hmap]
  apply List.Perm.map
  apply (List.perm_ext_iff_of_nodup (nodup_keys m) hnd).mpr
  intro k
  rw [hk, ExtTreeMap.map_fst_toList_eq_keys, ExtTreeMap.mem_keys]

end Keys

variable {α κ : Type} [DecidableEq κ]

theorem sum_indicator {M : Type} [AddMonoid M] {keys : List κ} (hnd : keys.Nodup) {a : κ}
    (ha : a ∈ keys) (n : M) : (keys.map fun k => if a = k then n else 0).sum = n := by
  induction keys with
  | nil => simp at ha
  | cons k keys ih =>
      obtain ⟨hk, hnd⟩ := List.nodup_cons.mp hnd
      rw [List.map_cons, List.sum_cons]
      by_cases he : a = k
      · have hrest : (keys.map fun k => if a = k then n else 0).sum = 0 := by
          apply List.sum_eq_zero
          intro m hm
          obtain ⟨j, hj, rfl⟩ := List.mem_map.mp hm
          exact if_neg fun h : a = j => hk (by rwa [← he, h])
        rw [if_pos he, hrest, add_zero]
      · rw [if_neg he, ih hnd ((List.mem_cons.mp ha).resolve_left he), zero_add]

theorem sum_countP_keys {keys : List κ} (hnd : keys.Nodup) (f : α → κ) (p : α → Bool) {l : List α}
    (hf : ∀ a ∈ l, f a ∈ keys) :
    (keys.map fun k => l.countP fun a => decide (f a = k) && p a).sum = l.countP p := by
  induction l with
  | nil => simp
  | cons a l ih =>
      have hone : (keys.map fun k => if (decide (f a = k) && p a) = true then 1 else 0).sum =
          if p a then 1 else 0 := by
        rw [← sum_indicator hnd (hf a List.mem_cons_self) (if p a then 1 else 0)]
        congr 1
        apply List.map_congr_left
        intro k _
        by_cases hk : f a = k <;> simp [hk]
      simp only [List.countP_cons]
      rw [List.sum_map_add, ih fun b hb => hf b (List.mem_cons_of_mem _ hb), hone]

theorem sum_map_keys {M : Type} [AddCommMonoid M] {keys : List κ} (hnd : keys.Nodup) (f : α → κ)
    (g : α → M) {l : List α} (hf : ∀ a ∈ l, f a ∈ keys) :
    (keys.map fun k => ((l.filter fun a => decide (f a = k)).map g).sum).sum = (l.map g).sum := by
  induction l with
  | nil => simp
  | cons a l ih =>
      have hcons (k : κ) : (((a :: l).filter fun a => decide (f a = k)).map g).sum =
          (if f a = k then g a else 0) + ((l.filter fun a => decide (f a = k)).map g).sum := by
        by_cases hk : f a = k <;> simp [hk]
      simp only [hcons, List.map_cons, List.sum_cons]
      rw [List.sum_map_add, ih fun b hb => hf b (List.mem_cons_of_mem _ hb),
        sum_indicator hnd (hf a List.mem_cons_self)]

/-- A table each element changes at its own key: what a key ends with is what
its elements make of it. -/
theorem foldl_update {S : Type} (f : α → κ) (g : S → α → S) (l : List α) (s : κ → S) :
    l.foldl (fun s a => Function.update s (f a) (g (s (f a)) a)) s =
      fun k => (l.filter fun a => decide (f a = k)).foldl g (s k) := by
  induction l generalizing s with
  | nil => rfl
  | cons a l ih =>
      rw [List.foldl_cons, ih]
      funext k
      by_cases hk : f a = k
      · rw [List.filter_cons_of_pos (by simpa using hk), List.foldl_cons, hk, Function.update_self]
      · rw [List.filter_cons_of_neg (by simpa using hk), Function.update_of_ne (Ne.symm hk)]

theorem foldl_succ (l : List α) (n : Nat) : l.foldl (fun n _ => n + 1) n = n + l.length := by
  induction l generalizing n with
  | nil => rfl
  | cons a l ih => rw [List.foldl_cons, ih, List.length_cons, Nat.add_assoc, Nat.add_comm 1]

theorem countP_mark [DecidableEq α] {l : List (α × κ)} (hnd : (l.map Prod.fst).Nodup) {a : α} {k : κ}
    (hmem : (a, k) ∈ l) {p q : α → Bool} (hp : p a = false) (hq : ∀ b, q b = (p b || decide (b = a)))
    (j : κ) :
    l.countP (fun t => decide (t.2 = j) && q t.1) =
      l.countP (fun t => decide (t.2 = j) && p t.1) + if k = j then 1 else 0 := by
  induction l with
  | nil => simp at hmem
  | cons t l ih =>
      obtain ⟨hnot, hnd⟩ := List.nodup_cons.mp hnd
      rw [List.countP_cons, List.countP_cons]
      rcases List.mem_cons.mp hmem with rfl | hmem
      · have hrest : l.countP (fun t => decide (t.2 = j) && q t.1) =
            l.countP (fun t => decide (t.2 = j) && p t.1) := by
          apply List.countP_congr
          intro b hb
          have hne : b.1 ≠ a := fun he => hnot (List.mem_map.mpr ⟨b, hb, he⟩)
          simp [hq, hne]
        rw [hrest]
        simp [hq, hp]
      · have hne : t.1 ≠ a := fun he => hnot (List.mem_map.mpr ⟨(a, k), hmem, he.symm⟩)
        have hsame : q t.1 = p t.1 := by simp [hq, hne]
        rw [ih hnd hmem, hsame, Nat.add_right_comm]

theorem countP_update_false [DecidableEq α] {l : List α} (hnd : l.Nodup) {a : α} (ha : a ∈ l)
    {p : α → Bool} (hp : p a = true) : l.countP (Function.update p a false) + 1 = l.countP p := by
  induction l with
  | nil => simp at ha
  | cons b l ih =>
      obtain ⟨hb, hnd⟩ := List.nodup_cons.mp hnd
      rw [List.countP_cons, List.countP_cons]
      rcases List.mem_cons.mp ha with rfl | ha
      · have hrest : l.countP (Function.update p a false) = l.countP p := by
          apply List.countP_congr
          intro c hc
          have hne : c ≠ a := fun he => hb (he ▸ hc)
          rw [Function.update_of_ne hne]
        simp [hrest, hp]
      · have hne : b ≠ a := fun he => hb (he ▸ ha)
        rw [Function.update_of_ne hne, ← ih hnd ha, Nat.add_right_comm]

theorem toNat_foldl_add (f : α → UInt32) (l : List α) (n : UInt32) :
    (l.foldl (fun n a => n + f a) n).toNat = (n.toNat + (l.map fun a => (f a).toNat).sum) % 2 ^ 32 := by
  induction l generalizing n with
  | nil => simp [Nat.mod_eq_of_lt n.toNat_lt]
  | cons a l ih =>
      rw [List.foldl_cons, ih, UInt32.toNat_add, List.map_cons, List.sum_cons]
      omega

end UavMonitoring.Tally
