import Mathlib.Data.List.Nodup

namespace UavMonitoring.EventQueue

variable {C : Type}

structure Entry (C : Type) where
  id : Nat
  call : C
deriving DecidableEq

/-- The pending events of a simulator. An event keeps the number it was given
when it was scheduled, and no number is given twice. -/
structure Queue (C : Type) where
  pending : List (Entry C)
  next : Nat
deriving DecidableEq

def empty : Queue C := ⟨[], 0⟩

def schedule (call : C) (q : Queue C) : Queue C := ⟨q.pending ++ [⟨q.next, call⟩], q.next + 1⟩

/-- `Cancel` and `Remove` alike, of a handle that may be stale or never set. -/
def cancel (handle : Option Nat) (q : Queue C) : Queue C :=
  { q with pending := q.pending.filter fun e => some e.id ≠ handle }

def find (id : Nat) (q : Queue C) : Option (Entry C) := q.pending.find? fun e => e.id = id

def Fresh (q : Queue C) : Prop := ∀ e ∈ q.pending, e.id < q.next

theorem fresh_empty : Fresh (empty : Queue C) := by simp [Fresh, empty]

theorem fresh_schedule {q : Queue C} (h : Fresh q) (call : C) : Fresh (schedule call q) := by
  intro e he
  rcases List.mem_append.mp he with he | he
  · exact Nat.lt_succ_of_lt (h e he)
  · rw [List.mem_singleton.mp he]
    exact Nat.lt_succ_self _

theorem fresh_cancel {q : Queue C} (h : Fresh q) (handle : Option Nat) : Fresh (cancel handle q) :=
  fun e he => h e (List.mem_filter.mp he).1

theorem mem_cancel {q : Queue C} {handle : Option Nat} {e : Entry C} :
    e ∈ (cancel handle q).pending ↔ e ∈ q.pending ∧ some e.id ≠ handle := by
  simp [cancel]

theorem mem_schedule {q : Queue C} {call : C} {e : Entry C} :
    e ∈ (schedule call q).pending ↔ e ∈ q.pending ∨ e = ⟨q.next, call⟩ := by
  simp [schedule]

theorem cancel_eq_self {q : Queue C} {handle : Option Nat} (h : ∀ e ∈ q.pending, some e.id ≠ handle) :
    cancel handle q = q := by
  have hall : q.pending.filter (fun e => some e.id ≠ handle) = q.pending :=
    List.filter_eq_self.mpr fun e he => by simpa using h e he
  rw [cancel, hall]

theorem cancel_pending_of_single {q : Queue C} {e : Entry C} (h : q.pending = [e]) :
    (cancel (some e.id) q).pending = [] := by
  simp [cancel, h]

theorem find_eq_some {q : Queue C} {id : Nat} {e : Entry C} (h : find id q = some e) :
    e ∈ q.pending ∧ e.id = id :=
  ⟨List.mem_of_find?_eq_some h, by simpa using List.find?_some h⟩

theorem length_schedule_le_one {q : Queue C} {call : C} :
    (schedule call q).pending.length ≤ 1 ↔ q.pending = [] := by
  rw [schedule, List.length_append, List.length_singleton, ← List.length_eq_zero_iff]
  omega

section Calls

structure Distinct (q : Queue C) : Prop where
  fresh : Fresh q
  nodup : (q.pending.map Entry.id).Nodup

theorem distinct_schedule {q : Queue C} (h : Distinct q) (call : C) : Distinct (schedule call q) := by
  refine ⟨fresh_schedule h.fresh call, ?_⟩
  rw [schedule, List.map_append, List.map_singleton, List.nodup_append]
  refine ⟨h.nodup, List.nodup_singleton _, fun id hid id' hid' => ?_⟩
  obtain ⟨e, he, rfl⟩ := List.mem_map.mp hid
  rw [List.mem_singleton.mp hid']
  exact Nat.ne_of_lt (h.fresh e he)

theorem distinct_cancel {q : Queue C} (h : Distinct q) (handle : Option Nat) : Distinct (cancel handle q) :=
  ⟨fresh_cancel h.fresh handle, h.nodup.sublist (List.filter_sublist.map _)⟩

theorem eq_of_id {q : Queue C} (h : Distinct q) {e e' : Entry C} (he : e ∈ q.pending) (he' : e' ∈ q.pending)
    (hid : e.id = e'.id) : e = e' :=
  List.inj_on_of_nodup_map h.nodup he he' hid

theorem perm_filter_of_nodup {l : List (Entry C)} (h : (l.map Entry.id).Nodup) {e : Entry C} (he : e ∈ l) :
    l.Perm (e :: l.filter fun e' => some e'.id ≠ some e.id) := by
  induction l with
  | nil => cases he
  | cons x l ih =>
      rw [List.map_cons, List.nodup_cons] at h
      have hx (e' : Entry C) (he' : e' ∈ l) : some e'.id ≠ some x.id := fun hid =>
        h.1 (Option.some.inj hid ▸ List.mem_map_of_mem he')
      rcases List.mem_cons.mp he with rfl | hmem
      · have hall : l.filter (fun e' => some e'.id ≠ some e.id) = l :=
          List.filter_eq_self.mpr fun e' he' => by simpa using hx e' he'
        rw [List.filter_cons_of_neg (by simp), hall]
      · rw [List.filter_cons_of_pos (by simpa using (hx e hmem).symm)]
        exact ((ih h.2 hmem).cons x).trans (.swap _ _ _)

theorem perm_cancel {q : Queue C} (h : Distinct q) {e : Entry C} (he : e ∈ q.pending) :
    q.pending.Perm (e :: (cancel (some e.id) q).pending) := perm_filter_of_nodup h.nodup he

def calls (p : C → Bool) (q : Queue C) : List (Entry C) := q.pending.filter fun e => p e.call

theorem mem_calls {p : C → Bool} {q : Queue C} {e : Entry C} :
    e ∈ calls p q ↔ e ∈ q.pending ∧ p e.call := List.mem_filter

theorem calls_schedule (p : C → Bool) (call : C) (q : Queue C) :
    calls p (schedule call q) = calls p q ++ if p call then [⟨q.next, call⟩] else [] := by
  rw [calls, schedule, List.filter_append]
  cases h : p call <;> simp [calls, h]

theorem calls_cancel (p : C → Bool) (handle : Option Nat) (q : Queue C) :
    calls p (cancel handle q) = (calls p q).filter fun e => some e.id ≠ handle := by
  rw [calls, cancel, calls, List.filter_filter, List.filter_filter]
  exact List.filter_congr fun e _ => Bool.and_comm _ _

theorem calls_cancel_other {q : Queue C} (h : Distinct q) {e : Entry C} (he : e ∈ q.pending) {p : C → Bool}
    (hp : p e.call = false) : calls p (cancel (some e.id) q) = calls p q := by
  rw [calls_cancel]
  refine List.filter_eq_self.mpr fun e' he' => ?_
  obtain ⟨hmem, hp'⟩ := mem_calls.mp he'
  have hne : e'.id ≠ e.id := fun hid => by
    rw [eq_of_id h hmem he hid, hp] at hp'
    cases hp'
  simpa using hne

theorem calls_cancel_single {q : Queue C} {e : Entry C} (he : e ∈ q.pending) {p : C → Bool}
    (hp : p e.call) {call : C} (hone : (calls p q).map Entry.call = [call]) :
    e.call = call ∧ calls p (cancel (some e.id) q) = [] := by
  obtain ⟨e', hsingle, rfl⟩ := List.map_eq_singleton_iff.mp hone
  have hmem : e ∈ calls p q := mem_calls.mpr ⟨he, hp⟩
  rw [hsingle, List.mem_singleton] at hmem
  subst hmem
  refine ⟨rfl, ?_⟩
  rw [calls_cancel, hsingle]
  simp

end Calls

end UavMonitoring.EventQueue
