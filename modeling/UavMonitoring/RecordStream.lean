import UavMonitoring.WhileLoop
import Mathlib.Algebra.GroupWithZero.Nat
import Mathlib.Algebra.Order.BigOperators.Group.List

namespace UavMonitoring.RecordStream

open WhileLoop

variable {α β : Type}

/-- What a reader meets: a tag it does not know and stays at, the end of the
input within a record, or a record with what follows it. -/
inductive Met (α β : Type)
  | unknown
  | pastEnd
  | record (a : α) (rest : List β)

structure Cursor (α β : Type) where
  count : Nat
  records : List α
  rest : List β

/-- One round of a reader that goes on until it has counted `len`. -/
def round (meet : List β → Met α β) (size : α → Nat) (len : Nat) (s : Cursor α β) :
    Option (Option (List α × List β) ⊕ Cursor α β) :=
  if s.count < len then
    match meet s.rest with
    | .unknown => some (.inr s)
    | .pastEnd => some (.inl none)
    | .record a rest => some (.inr ⟨s.count + size a, s.records ++ [a], rest⟩)
  else some (.inl (some (s.records, s.rest)))

def readAll (meet : List β → Met α β) (size : α → Nat) (len : Nat) (bs : List β) :
    Option (Option (List α × List β)) :=
  loop (round meet size len) (len + 1) ⟨0, [], bs⟩

variable {meet : List β → Met α β} {size : α → Nat} {len : Nat}

theorem round_done {s : Cursor α β} (h : len ≤ s.count) :
    round meet size len s = some (.inl (some (s.records, s.rest))) := if_neg (Nat.not_lt.mpr h)

theorem round_unknown {s : Cursor α β} (h : s.count < len) (hmeet : meet s.rest = .unknown) :
    round meet size len s = some (.inr s) := by rw [round, if_pos h, hmeet]

theorem round_pastEnd {s : Cursor α β} (h : s.count < len) (hmeet : meet s.rest = .pastEnd) :
    round meet size len s = some (.inl none) := by rw [round, if_pos h, hmeet]

theorem round_record {s : Cursor α β} {a : α} {rest : List β} (h : s.count < len)
    (hmeet : meet s.rest = .record a rest) :
    round meet size len s = some (.inr ⟨s.count + size a, s.records ++ [a], rest⟩) := by
  rw [round, if_pos h, hmeet]

section Endless

/-- Within its first `len` the reader comes to `rest` after reading `n` of them. -/
inductive Comes (meet : List β → Met α β) (size : α → Nat) (len : Nat) : Nat → List β → List β → Prop
  | here (bs : List β) : Comes meet size len 0 bs bs
  | next {n : Nat} {bs rest rest' : List β} {a : α} (before : Comes meet size len n bs rest)
      (within : n < len) (record : meet rest = .record a rest') :
      Comes meet size len (n + size a) bs rest'

def Stalls (meet : List β → Met α β) (size : α → Nat) (len : Nat) (bs : List β) : Prop :=
  ∃ n rest, Comes meet size len n bs rest ∧ n < len ∧ meet rest = .unknown

theorem loop_of_comes {n : Nat} {bs rest : List β} (h : Comes meet size len n bs rest) :
    ∃ k records, ∀ fuel, loop (round meet size len) (k + fuel) ⟨0, [], bs⟩ =
      loop (round meet size len) fuel ⟨n, records, rest⟩ := by
  induction h with
  | here => exact ⟨0, [], fun fuel => by rw [Nat.zero_add]⟩
  | @next _ _ _ _ a _ within record ih =>
      obtain ⟨k, records, hk⟩ := ih
      refine ⟨k + 1, records ++ [a], fun fuel => ?_⟩
      rw [Nat.add_assoc, Nat.add_comm 1 fuel, hk, loop_right (round_record within record)]

theorem loop_of_stalls {bs : List β} (h : Stalls meet size len bs) (fuel : Nat) :
    loop (round meet size len) fuel ⟨0, [], bs⟩ = none := by
  obtain ⟨n, rest, hcomes, hlt, hmeet⟩ := h
  obtain ⟨k, records, hk⟩ := loop_of_comes hcomes
  have hnone : loop (round meet size len) (k + fuel) ⟨0, [], bs⟩ = none := by
    rw [hk]
    exact loop_never (· = ⟨n, records, rest⟩)
      (fun s hs => .inr ⟨s, by rw [hs]; exact round_unknown hlt hmeet, hs⟩) rfl fuel
  cases hf : loop (round meet size len) fuel ⟨0, [], bs⟩ with
  | none => rfl
  | some r =>
      rw [loop_mono (Nat.le_add_left fuel k) hf] at hnone
      cases hnone

/-- Every record counts, so the reader that does not stall is done in time. -/
theorem readAll_eq_none_iff (hpos : ∀ bs a rest, meet bs = .record a rest → 0 < size a) (bs : List β) :
    readAll meet size len bs = none ↔ Stalls meet size len bs := by
  refine ⟨fun h => ?_, fun h => loop_of_stalls h _⟩
  by_contra hfree
  have hround (s : Cursor α β) (hs : Comes meet size len s.count bs s.rest) :
      (∃ r, round meet size len s = some (.inl r) ∧ True) ∨
        ∃ s', round meet size len s = some (.inr s') ∧ Comes meet size len s'.count bs s'.rest ∧
          len - s'.count < len - s.count := by
    by_cases hlt : s.count < len
    · cases hmeet : meet s.rest with
      | unknown => exact absurd ⟨_, _, hs, hlt, hmeet⟩ hfree
      | pastEnd => exact .inl ⟨_, round_pastEnd hlt hmeet, trivial⟩
      | record a rest =>
          have hsize := hpos _ _ _ hmeet
          exact .inr ⟨_, round_record hlt hmeet, .next hs hlt hmeet, by dsimp only; omega⟩
    · exact .inl ⟨_, round_done (Nat.le_of_not_lt hlt), trivial⟩
  obtain ⟨r, hr, _⟩ := loop_returns (fun s : Cursor α β => Comes meet size len s.count bs s.rest)
    (fun s => len - s.count) (fun _ => True) hround (s := ⟨0, [], bs⟩) (.here bs)
    (Nat.lt_succ_of_le (Nat.sub_le len 0))
  rw [readAll, hr] at h
  cases h

theorem readAll_eq_some_iff (hpos : ∀ bs a rest, meet bs = .record a rest → 0 < size a) (bs : List β)
    (r : Option (List α × List β)) :
    readAll meet size len bs = some r ↔ ∃ fuel, loop (round meet size len) fuel ⟨0, [], bs⟩ = some r := by
  refine ⟨fun h => ⟨_, h⟩, ?_⟩
  rintro ⟨fuel, h⟩
  cases hr : readAll meet size len bs with
  | none =>
      rw [loop_of_stalls ((readAll_eq_none_iff hpos bs).mp hr)] at h
      cases h
  | some r' =>
      have h₁ := loop_mono (Nat.le_add_right fuel (len + 1)) h
      have h₂ := loop_mono (Nat.le_add_left (len + 1) fuel) hr
      rw [← h₁, h₂]

end Endless

section Written

variable {write : α → List β}

theorem loop_of_written (as : List α) (rest : List β)
    (hmeet : ∀ a ∈ as, ∀ rest, meet (write a ++ rest) = .record a rest)
    (hpos : ∀ a ∈ as, 0 < size a) {n : Nat} (hlen : n + (as.map size).sum = len) (before : List α) :
    ∃ fuel, loop (round meet size len) fuel ⟨n, before, as.flatMap write ++ rest⟩ =
      some (some (before ++ as, rest)) := by
  induction as generalizing n before with
  | nil =>
      refine ⟨1, ?_⟩
      rw [loop_left (round_done (by simpa using hlen.ge)), List.append_nil]
      rfl
  | cons a as ih =>
      rw [List.map_cons, List.sum_cons] at hlen
      have ha := hpos a List.mem_cons_self
      obtain ⟨fuel, hfuel⟩ := ih (fun b hb => hmeet b (List.mem_cons_of_mem _ hb))
        (fun b hb => hpos b (List.mem_cons_of_mem _ hb)) (n := n + size a) (by omega) (before ++ [a])
      refine ⟨fuel + 1, ?_⟩
      rw [List.flatMap_cons, List.append_assoc,
        loop_right (round_record (by dsimp only; omega) (hmeet a List.mem_cons_self _)), hfuel,
        List.append_assoc, List.singleton_append]

theorem prefix_of_loop {fuel : Nat} {s : Cursor α β} {as : List α} {rest : List β}
    (h : loop (round meet size len) fuel s = some (some (as, rest))) : s.records <+: as := by
  induction fuel generalizing s with
  | zero => cases h
  | succ fuel ih =>
      by_cases hlt : s.count < len
      · cases hmeet : meet s.rest with
        | unknown =>
            rw [loop_right (round_unknown hlt hmeet)] at h
            exact ih h
        | pastEnd =>
            rw [loop_left (round_pastEnd hlt hmeet)] at h
            cases h
        | record a rest =>
            rw [loop_right (round_record hlt hmeet)] at h
            exact (List.prefix_append _ _).trans (ih h)
      · rw [loop_left (round_done (Nat.le_of_not_lt hlt))] at h
        cases h
        exact List.prefix_rfl

theorem loop_done {fuel : Nat} {s : Cursor α β} {r : Option (List α × List β)} (hge : len ≤ s.count)
    (h : loop (round meet size len) fuel s = some r) : r = some (s.records, s.rest) := by
  cases fuel with
  | zero => cases h
  | succ fuel =>
      rw [loop_left (round_done hge)] at h
      exact (Option.some.inj h).symm

theorem loop_within {fuel : Nat} {s : Cursor α β} {as : List α} {rest : List β} (hlt : s.count < len)
    (h : loop (round meet size len) fuel s = some (some (as, rest))) :
    ∃ a next fuel', meet s.rest = .record a next ∧
      loop (round meet size len) fuel' ⟨s.count + size a, s.records ++ [a], next⟩ = some (some (as, rest)) := by
  induction fuel with
  | zero => cases h
  | succ fuel ih =>
      cases hmeet : meet s.rest with
      | unknown =>
          rw [loop_right (round_unknown hlt hmeet)] at h
          rw [hmeet] at ih
          exact ih h
      | pastEnd =>
          rw [loop_left (round_pastEnd hlt hmeet)] at h
          cases h
      | record a next =>
          rw [loop_right (round_record hlt hmeet)] at h
          exact ⟨a, next, fuel, rfl, h⟩

theorem written_of_loop {P : α → Prop}
    (hback : ∀ a rest r, meet (write a ++ rest) = .record a r → P a ∧ r = rest) (as : List α)
    {rest rest' : List β} {n fuel : Nat} {before : List α}
    (h : loop (round meet size len) fuel ⟨n, before, as.flatMap write ++ rest⟩ =
      some (some (before ++ as, rest'))) :
    (∀ a ∈ as, P a) ∧ rest' = rest ∧ len ≤ n + (as.map size).sum ∧
      ∀ init a, as = init ++ [a] → n + (init.map size).sum < len := by
  induction as generalizing n before fuel with
  | nil =>
      by_cases hlt : n < len
      · obtain ⟨a, next, fuel', _, hloop⟩ := loop_within hlt h
        have hle := (prefix_of_loop hloop).length_le
        rw [List.length_append, List.length_append] at hle
        exact absurd hle (by simp)
      · have hend := Option.some.inj (loop_done (Nat.le_of_not_lt hlt) h)
        refine ⟨by simp, congrArg Prod.snd hend, by simpa using hlt, fun init a hnil => ?_⟩
        simp at hnil
  | cons a as ih =>
      by_cases hlt : n < len
      · obtain ⟨a', next, fuel', hmeet, hloop⟩ := loop_within hlt h
        have hpre := prefix_of_loop hloop
        rw [List.prefix_append_right_inj, List.cons_prefix_cons] at hpre
        obtain rfl := hpre.1
        rw [List.flatMap_cons, List.append_assoc] at hmeet
        obtain ⟨ha, rfl⟩ := hback _ _ _ hmeet
        rw [List.append_cons before a' as] at hloop
        obtain ⟨has, hrest, hle, hlast⟩ := ih hloop
        dsimp only at hle hlast
        refine ⟨List.forall_mem_cons.mpr ⟨ha, has⟩, hrest, ?_, fun init b hinit => ?_⟩
        · rw [List.map_cons, List.sum_cons]
          omega
        · cases init with
          | nil => exact hlt
          | cons a' init =>
              obtain ⟨rfl, hrest⟩ := List.cons.inj hinit
              have hsum := hlast init b hrest
              rw [List.map_cons, List.sum_cons]
              omega
      · have hend := congrArg Prod.fst (Option.some.inj (loop_done (Nat.le_of_not_lt hlt) h))
        simp at hend

end Written

end UavMonitoring.RecordStream
