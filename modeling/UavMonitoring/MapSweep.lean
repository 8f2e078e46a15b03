import Std.Data.ExtTreeMap.Lemmas

namespace UavMonitoring.MapSweep

open Std

variable {κ V : Type} [Ord κ] [TransOrd κ] [LawfulEqOrd κ]

/-- `for (it = m.begin (); it != m.end ();) if p then m.erase (it++) else ++it`.
Erasing the current entry leaves the iterator on the next one, so every entry
the map had at the start is visited once. -/
def eraseIf (p : κ → V → Bool) (m : ExtTreeMap κ V) : ExtTreeMap κ V :=
  m.foldl (fun m' k v => if p k v then m'.erase k else m') m

def moveStep (p : κ → V → Bool) (s : ExtTreeMap κ V × ExtTreeMap κ V) (k : κ) (v : V) :
    ExtTreeMap κ V × ExtTreeMap κ V :=
  if p k v then (s.1.erase k, s.2.insert k v) else s

def moveIf (p : κ → V → Bool) (src dst : ExtTreeMap κ V) : ExtTreeMap κ V × ExtTreeMap κ V :=
  src.foldl (moveStep p) (src, dst)

theorem moveStep_other (p : κ → V → Bool) (s : ExtTreeMap κ V × ExtTreeMap κ V) (j k : κ) (v : V)
    (h : j ≠ k) : (moveStep p s j v).1[k]? = s.1[k]? ∧ (moveStep p s j v).2[k]? = s.2[k]? := by
  rw [moveStep]
  split
  · simp [ExtTreeMap.getElem?_erase, ExtTreeMap.getElem?_insert, h]
  · exact ⟨rfl, rfl⟩

theorem moveStep_self (p : κ → V → Bool) (s : ExtTreeMap κ V × ExtTreeMap κ V) (k : κ) (v : V) :
    (moveStep p s k v).1[k]? = (if p k v then none else s.1[k]?) ∧
      (moveStep p s k v).2[k]? = (if p k v then some v else s.2[k]?) := by
  rw [moveStep]
  split <;> simp

theorem fold_other (p : κ → V → Bool) (xs : List (κ × V)) (k : κ) (h : ∀ v, (k, v) ∉ xs)
    (s : ExtTreeMap κ V × ExtTreeMap κ V) :
    (xs.foldl (fun s x => moveStep p s x.1 x.2) s).1[k]? = s.1[k]? ∧
      (xs.foldl (fun s x => moveStep p s x.1 x.2) s).2[k]? = s.2[k]? := by
  induction xs generalizing s with
  | nil => exact ⟨rfl, rfl⟩
  | cons x xs ih =>
      obtain ⟨j, v⟩ := x
      have hj : j ≠ k := fun he => h v (by simp [he])
      have hs := moveStep_other p s j k v hj
      have ht := ih (fun v hv => h v (List.mem_cons_of_mem _ hv)) (moveStep p s j v)
      exact ⟨ht.1.trans hs.1, ht.2.trans hs.2⟩

theorem fold_self (p : κ → V → Bool) (xs : List (κ × V))
    (hd : xs.Pairwise (fun x y => ¬ compare x.1 y.1 = .eq)) (k : κ) (v : V) (h : (k, v) ∈ xs)
    (s : ExtTreeMap κ V × ExtTreeMap κ V) :
    (xs.foldl (fun s x => moveStep p s x.1 x.2) s).1[k]? = (if p k v then none else s.1[k]?) ∧
      (xs.foldl (fun s x => moveStep p s x.1 x.2) s).2[k]? =
        (if p k v then some v else s.2[k]?) := by
  induction xs generalizing s with
  | nil => simp at h
  | cons x xs ih =>
      obtain ⟨hx, hxs⟩ := List.pairwise_cons.mp hd
      rcases List.mem_cons.mp h with rfl | h
      · have hk : ∀ w, (k, w) ∉ xs := fun w hw => hx _ hw (by simp)
        have ht := fold_other p xs k hk (moveStep p s k v)
        have hs := moveStep_self p s k v
        exact ⟨ht.1.trans hs.1, ht.2.trans hs.2⟩
      · have hj : x.1 ≠ k := fun he => hx _ h (by simp [he])
        have hs := moveStep_other p s x.1 k x.2 hj
        have ht := ih hxs h (moveStep p s x.1 x.2)
        rw [hs.1, hs.2] at ht
        exact ht

theorem getElem?_moveIf (p : κ → V → Bool) (src dst : ExtTreeMap κ V) (k : κ) :
    (moveIf p src dst).1[k]? = src[k]?.filter (fun v => !p k v) ∧
      (moveIf p src dst).2[k]? = (src[k]?.filter (p k)).or dst[k]? := by
  rw [moveIf, ExtTreeMap.foldl_eq_foldl_toList]
  cases hk : src[k]? with
  | none =>
      have hn : ∀ v, (k, v) ∉ src.toList := by
        intro v hv
        rw [ExtTreeMap.mem_toList_iff_getElem?_eq_some, hk] at hv
        cases hv
      have h := fold_other p src.toList k hn (src, dst)
      simpa [hk] using h
  | some v =>
      have hv : (k, v) ∈ src.toList := ExtTreeMap.mem_toList_iff_getElem?_eq_some.mpr hk
      have h := fold_self p src.toList ExtTreeMap.distinct_keys_toList k v hv (src, dst)
      rw [h.1, h.2]
      cases hp : p k v <;> simp [hk, hp, Option.filter]

theorem getElem?_moveIf_src (p : κ → V → Bool) (src dst : ExtTreeMap κ V) (k : κ) :
    (moveIf p src dst).1[k]? = src[k]?.filter (fun v => !p k v) := (getElem?_moveIf p src dst k).1

theorem getElem?_moveIf_dst (p : κ → V → Bool) (src dst : ExtTreeMap κ V) (k : κ) :
    (moveIf p src dst).2[k]? = (src[k]?.filter (p k)).or dst[k]? := (getElem?_moveIf p src dst k).2

omit [LawfulEqOrd κ] in
theorem eraseIf_eq_moveIf (p : κ → V → Bool) (m dst : ExtTreeMap κ V) :
    eraseIf p m = (moveIf p m dst).1 := by
  have h (xs : List (κ × V)) (s : ExtTreeMap κ V × ExtTreeMap κ V) :
      xs.foldl (fun m' x => if p x.1 x.2 then m'.erase x.1 else m') s.1 =
        (xs.foldl (fun s x => moveStep p s x.1 x.2) s).1 := by
    induction xs generalizing s with
    | nil => rfl
    | cons x xs ih =>
        rw [List.foldl_cons, List.foldl_cons, ← ih]
        congr 1
        rw [moveStep]
        split <;> rfl
  simpa only [eraseIf, moveIf, ExtTreeMap.foldl_eq_foldl_toList] using h m.toList (m, dst)

theorem getElem?_eraseIf (p : κ → V → Bool) (m : ExtTreeMap κ V) (k : κ) :
    (eraseIf p m)[k]? = m[k]?.filter (fun v => !p k v) := by
  rw [eraseIf_eq_moveIf p m ∅, getElem?_moveIf_src]

theorem forall_insert {m : ExtTreeMap κ V} {P : κ → V → Prop} {a : κ} {b : V} (ha : P a b)
    (hm : ∀ k v, k ≠ a → m[k]? = some v → P k v) :
    ∀ k v, (m.insert a b)[k]? = some v → P k v := by
  intro k v h
  rw [ExtTreeMap.getElem?_insert] at h
  split at h
  · next hk =>
      obtain rfl := LawfulEqCmp.eq_of_compare hk
      rwa [← Option.some.inj h]
  · next hk => exact hm k v (fun he => hk (he ▸ ReflOrd.compare_self)) h

theorem mem_insert_iff {m : ExtTreeMap κ V} {a k : κ} {b : V} : k ∈ m.insert a b ↔ k = a ∨ k ∈ m := by
  rw [ExtTreeMap.mem_insert, LawfulEqCmp.compare_eq_iff_eq, eq_comm]

omit [LawfulEqOrd κ] in
theorem mem_of_getElem? {m : ExtTreeMap κ V} {k : κ} {v : V} (h : m[k]? = some v) : k ∈ m := by
  rw [ExtTreeMap.mem_iff_isSome_getElem?, h]
  rfl

theorem mem_insert_of_getElem? {m : ExtTreeMap κ V} {a : κ} {v : V} (h : m[a]? = some v) (k : κ)
    (b : V) : k ∈ m.insert a b ↔ k ∈ m := by
  rw [mem_insert_iff, or_iff_right_of_imp]
  rintro rfl
  exact mem_of_getElem? h

theorem insertIfNew_of_not_mem {m : ExtTreeMap κ V} {a : κ} (h : a ∉ m) (b : V) :
    m.insertIfNew a b = m.insert a b := by
  apply ExtTreeMap.ext_getElem?
  intro k
  rw [ExtTreeMap.getElem?_insertIfNew, ExtTreeMap.getElem?_insert]
  by_cases hk : compare a k = .eq
  · rw [if_pos ⟨hk, h⟩, if_pos hk]
  · rw [if_neg fun hn => hk hn.1, if_neg hk]

theorem insertIfNew_of_mem {m : ExtTreeMap κ V} {a : κ} (h : a ∈ m) (b : V) :
    m.insertIfNew a b = m := by
  apply ExtTreeMap.ext_getElem?
  intro k
  rw [ExtTreeMap.getElem?_insertIfNew, if_neg fun hn => hn.2 h]

end UavMonitoring.MapSweep
