import Mathlib.Logic.Function.Basic
import Mathlib.Logic.Relation
import UavMonitoring.Basics
import UavMonitoring.CounterLoop
import UavMonitoring.Tally
import UavMonitoring.WhileLoop

namespace UavMonitoring.PathToBs

open Basics CounterLoop Tally WhileLoop

variable {K : Type} [Field K] [LinearOrder K]

structure Search where
  visited : Nat → Bool
  inQueue : Nat → Bool
  toVisit : List Nat

def start : Search := ⟨fun _ => false, fun _ => false, []⟩

def flat (pos : Vector3D K) : Vector3D K := ⟨pos.x, pos.y, 0⟩

section Program

variable (dist : Vector3D K → Vector3D K → K) (bsPos : Vector3D K) (rangeAta : K)
  (ata : List (Vector3D K))

/-- One round of the loops over the nodes, at `pos`; the second of them passes
over the node `cur` it looks from. -/
def enqueue (pos : Vector3D K) (cur : Option Nat) (s : Search) (node : Vector3D K × Nat) : Search :=
  let j := node.2
  let d := dist pos (flat node.1)
  if some j ≠ cur ∧ 0 < d ∧ d < rangeAta ∧ s.visited j = false ∧ s.inQueue j = false then
    { s with toVisit := s.toVisit ++ [j], inQueue := Function.update s.inQueue j true }
  else s

def enqueueAll (pos : Vector3D K) (cur : Option Nat) (s : Search) : Option Search :=
  accumulate 16 ata.zipIdx (enqueue dist rangeAta pos cur) s

def visit (s : Search) : Option (Bool ⊕ Search) :=
  match s.toVisit with
  | [] => some (.inl false)
  | cur :: toVisit =>
      match ata[cur]? with
      | none => none
      | some node =>
          let pos := flat node
          if dist pos bsPos < rangeAta then some (.inl true)
          else (enqueueAll dist rangeAta ata pos (some cur) { s with toVisit := toVisit }).map
            fun s' => .inr { s' with visited := Function.update s'.visited cur true }

def hasPathToBs (fuel : Nat) (myPos : Vector3D K) : Option Bool :=
  if dist myPos bsPos < rangeAta then some true
  else (enqueueAll dist rangeAta ata myPos none start).bind
    (loop (visit dist bsPos rangeAta ata) fuel)

def Hop (p q : Vector3D K) : Prop := q ∈ ata.map flat ∧ dist p q < rangeAta

/-- There is a chain of hops from `myPos` to a point in range of the base station. -/
def Connected (myPos : Vector3D K) : Prop :=
  ∃ q, Relation.ReflTransGen (Hop dist rangeAta ata) myPos q ∧ dist q bsPos < rangeAta

end Program

section Scan

variable {dist : Vector3D K → Vector3D K → K} {rangeAta : K} {ata : List (Vector3D K)}

def room (n : Nat) (s : Search) : Nat :=
  s.toVisit.length + (List.range n).countP fun j => !s.inQueue j

structure Grown (dist : Vector3D K → Vector3D K → K) (rangeAta : K) (ata : List (Vector3D K))
    (pos : Vector3D K) (s s' : Search) : Prop where
  visited : s'.visited = s.visited
  inQueue : ∀ j, s.inQueue j = true → s'.inQueue j = true
  queued : ∀ j, s'.inQueue j = true → s.inQueue j = true ∨ j ∈ s'.toVisit
  kept : ∀ j ∈ s.toVisit, j ∈ s'.toVisit
  near : ∀ j ∈ s'.toVisit, j ∈ s.toVisit ∨
    ∃ node, ata[j]? = some node ∧ dist pos (flat node) < rangeAta
  room : room ata.length s' = room ata.length s

theorem Grown.refl (pos : Vector3D K) (s : Search) : Grown dist rangeAta ata pos s s where
  visited := rfl
  inQueue _ h := h
  queued _ h := .inl h
  kept _ h := h
  near _ h := .inl h
  room := rfl

theorem Grown.trans {pos : Vector3D K} {s s' s'' : Search} (h : Grown dist rangeAta ata pos s s')
    (h' : Grown dist rangeAta ata pos s' s'') : Grown dist rangeAta ata pos s s'' where
  visited := h'.visited.trans h.visited
  inQueue j hj := h'.inQueue j (h.inQueue j hj)
  queued j hj := by
    rcases h'.queued j hj with hj | hj
    · exact (h.queued j hj).imp_right (h'.kept j)
    · exact .inr hj
  kept j hj := h'.kept j (h.kept j hj)
  near j hj := by
    rcases h'.near j hj with hj | hj
    · exact h.near j hj
    · exact .inr hj
  room := h'.room.trans h.room

theorem room_enqueue {s : Search} {n j : Nat} (hj : j < n) (hq : s.inQueue j = false) :
    room n { s with toVisit := s.toVisit ++ [j], inQueue := Function.update s.inQueue j true } =
      room n s := by
  have hupd : (fun i => !(Function.update s.inQueue j true) i) =
      Function.update (fun i => !s.inQueue i) j false := by
    funext i
    by_cases hi : i = j
    · simp [hi]
    · simp [hi]
  have hcount := countP_update_false List.nodup_range (List.mem_range.mpr hj)
    (p := fun i => !s.inQueue i) (by simp [hq])
  rw [room, room, hupd, ← hcount, List.length_append, List.length_singleton]
  omega

theorem enqueue_grown (pos : Vector3D K) (cur : Option Nat) (s : Search) {node : Vector3D K × Nat}
    (hnode : ata[node.2]? = some node.1) :
    Grown dist rangeAta ata pos s (enqueue dist rangeAta pos cur s node) := by
  obtain ⟨p, j⟩ := node
  rw [enqueue]
  split
  · next h =>
      obtain ⟨_, _, hnear, _, hq⟩ := h
      have hj : j < ata.length := (List.getElem?_eq_some_iff.mp hnode).1
      refine ⟨rfl, ?_, ?_, ?_, ?_, room_enqueue hj hq⟩
      · intro i hi
        by_cases hij : i = j
        · simp [hij]
        · simpa [hij] using hi
      · intro i hi
        by_cases hij : i = j
        · simp [hij]
        · exact .inl (by simpa [hij] using hi)
      · exact fun i hi => List.mem_append_left _ hi
      · intro i hi
        rcases List.mem_append.mp hi with hi | hi
        · exact .inl hi
        · rw [List.mem_singleton.mp hi]
          exact .inr ⟨p, hnode, hnear⟩
  · exact Grown.refl pos s

def Marked (s : Search) (j : Nat) : Prop := s.inQueue j = true ∨ s.visited j = true

theorem Grown.marked {pos : Vector3D K} {s s' : Search} (h : Grown dist rangeAta ata pos s s')
    {j : Nat} (hj : Marked s j) : Marked s' j :=
  hj.imp (h.inQueue j) fun hj => h.visited ▸ hj

theorem enqueue_marked {pos : Vector3D K} {cur : Option Nat} {s : Search} {node : Vector3D K × Nat}
    (hcur : some node.2 ≠ cur) (hpos : 0 < dist pos (flat node.1))
    (hnear : dist pos (flat node.1) < rangeAta) :
    Marked (enqueue dist rangeAta pos cur s node) node.2 := by
  rw [enqueue]
  split
  · exact .inl (by simp)
  · next h =>
      by_contra hm
      rw [Marked, not_or, Bool.not_eq_true, Bool.not_eq_true] at hm
      exact h ⟨hcur, hpos, hnear, hm.2, hm.1⟩

theorem foldl_enqueue (pos : Vector3D K) (cur : Option Nat) (s : Search)
    (nodes : List (Vector3D K × Nat)) (hnodes : ∀ node ∈ nodes, ata[node.2]? = some node.1) :
    Grown dist rangeAta ata pos s (nodes.foldl (enqueue dist rangeAta pos cur) s) ∧
      ∀ node ∈ nodes, some node.2 ≠ cur → 0 < dist pos (flat node.1) →
        dist pos (flat node.1) < rangeAta →
        Marked (nodes.foldl (enqueue dist rangeAta pos cur) s) node.2 := by
  induction nodes generalizing s with
  | nil => exact ⟨Grown.refl pos s, by simp⟩
  | cons node nodes ih =>
      obtain ⟨hgrown, hmarked⟩ := ih (enqueue dist rangeAta pos cur s node)
        fun n hn => hnodes n (List.mem_cons_of_mem _ hn)
      refine ⟨(enqueue_grown pos cur s (hnodes node List.mem_cons_self)).trans hgrown, ?_⟩
      intro n hn hcur hpos hnear
      rcases List.mem_cons.mp hn with rfl | hn
      · exact hgrown.marked (enqueue_marked hcur hpos hnear)
      · exact hmarked n hn hcur hpos hnear

theorem enqueueAll_returns (dist : Vector3D K → Vector3D K → K) (rangeAta : K)
    (hlen : ata.length < 2 ^ 16) (pos : Vector3D K) (cur : Option Nat)
    (s : Search) :
    ∃ s', enqueueAll dist rangeAta ata pos cur s = some s' ∧ Grown dist rangeAta ata pos s s' ∧
      ∀ j node, ata[j]? = some node → some j ≠ cur → 0 < dist pos (flat node) →
        dist pos (flat node) < rangeAta → Marked s' j := by
  have hnodes : ∀ node ∈ ata.zipIdx, ata[node.2]? = some node.1 :=
    fun node hn => List.mem_zipIdx_iff_getElem?.mp hn
  have hlen' : ata.zipIdx.length < 2 ^ 16 := by simpa using hlen
  refine ⟨_, accumulate_of_short hlen' _ _, (foldl_enqueue pos cur s ata.zipIdx hnodes).1, ?_⟩
  intro j node hj
  exact (foldl_enqueue pos cur s ata.zipIdx hnodes).2 (node, j) (List.mem_zipIdx_iff_getElem?.mpr hj)

end Scan

section Loop

variable {dist : Vector3D K → Vector3D K → K} {bsPos : Vector3D K} {rangeAta : K}
  {ata : List (Vector3D K)} {myPos : Vector3D K}

def Source (ata : List (Vector3D K)) (myPos : Vector3D K) (s : Search) (p : Vector3D K) : Prop :=
  p = myPos ∨ ∃ j node, s.visited j = true ∧ ata[j]? = some node ∧ p = flat node

structure Explored (dist : Vector3D K → Vector3D K → K) (bsPos : Vector3D K) (rangeAta : K)
    (ata : List (Vector3D K)) (myPos : Vector3D K) (s : Search) : Prop where
  queued : ∀ j, s.inQueue j = true → j ∈ s.toVisit ∨ s.visited j = true
  waiting : ∀ j ∈ s.toVisit, ∃ node, ata[j]? = some node ∧
    Relation.ReflTransGen (Hop dist rangeAta ata) myPos (flat node)
  far : ∀ p, Source ata myPos s p → ¬ dist p bsPos < rangeAta
  closed : ∀ p, Source ata myPos s p → ∀ k node, ata[k]? = some node →
    0 < dist p (flat node) → dist p (flat node) < rangeAta → Marked s k

omit [LinearOrder K] in
theorem flat_mem {j : Nat} {node : Vector3D K} (h : ata[j]? = some node) : flat node ∈ ata.map flat :=
  List.mem_map.mpr ⟨node, List.mem_of_getElem? h, rfl⟩

/-- A hop of length zero stays where it is, so a search that follows only the
others misses no point. -/
theorem source_of_reach (hdist : Metric dist) {s : Search}
    (h : Explored dist bsPos rangeAta ata myPos s) (hdone : s.toVisit = []) {p : Vector3D K}
    (hp : Relation.ReflTransGen (Hop dist rangeAta ata) myPos p) : Source ata myPos s p := by
  induction hp with
  | refl => exact .inl rfl
  | @tail p q _ hop ih =>
      obtain ⟨hq, hlt⟩ := hop
      obtain ⟨node, hnode, rfl⟩ := List.mem_map.mp hq
      obtain ⟨k, hk⟩ := List.getElem?_of_mem hnode
      rcases (hdist.nonneg p (flat node)).eq_or_lt with hzero | hpos
      · rwa [← (hdist.eq_zero_iff p (flat node)).mp hzero.symm]
      · have hvisited : s.visited k = true := by
          rcases h.closed p ih k node hk hpos hlt with hq | hv
          · simpa [hdone] using h.queued k hq
          · exact hv
        exact .inr ⟨k, node, hvisited, hk, rfl⟩

theorem explored_start (hlen : ata.length < 2 ^ 16) (hfar : ¬ dist myPos bsPos < rangeAta) :
    ∃ s, enqueueAll dist rangeAta ata myPos none start = some s ∧
      Explored dist bsPos rangeAta ata myPos s ∧ room ata.length s = ata.length := by
  obtain ⟨s, hs, hgrown, hmarked⟩ := enqueueAll_returns dist rangeAta hlen myPos none start
  have hsource : ∀ p, Source ata myPos s p → p = myPos := by
    rintro p (hp | ⟨j, node, hv, _⟩)
    · exact hp
    · rw [hgrown.visited] at hv
      exact absurd hv Bool.false_ne_true
  refine ⟨s, hs, ⟨?_, ?_, ?_, ?_⟩, ?_⟩
  · intro j hj
    rcases hgrown.queued j hj with hj | hj
    · exact absurd hj Bool.false_ne_true
    · exact .inl hj
  · intro j hj
    rcases hgrown.near j hj with hj | ⟨node, hnode, hlt⟩
    · exact absurd hj List.not_mem_nil
    · exact ⟨node, hnode, .single ⟨flat_mem hnode, hlt⟩⟩
  · intro p hp
    rwa [hsource p hp]
  · intro p hp k node hk hpos hlt
    rw [hsource p hp] at hpos hlt
    exact hmarked k node hk (by simp) hpos hlt
  · rw [hgrown.room]
    simp [room, start, List.countP_true]

omit [LinearOrder K] in
theorem source_visit {s : Search} {visited : Nat → Bool} {cur : Nat} {node p : Vector3D K}
    (hvisited : s.visited = Function.update visited cur true) (hnode : ata[cur]? = some node)
    (hp : Source ata myPos s p) :
    p = flat node ∨ Source ata myPos { s with visited := visited } p := by
  rcases hp with hp | ⟨j, n, hv, hn, rfl⟩
  · exact .inr (.inl hp)
  · by_cases hj : j = cur
    · subst hj
      rw [hnode, Option.some.injEq] at hn
      exact .inl (congrArg flat hn.symm)
    · rw [hvisited, Function.update_of_ne hj] at hv
      exact .inr (.inr ⟨j, n, hv, hn, rfl⟩)

theorem explored_visit {s s' : Search} {cur : Nat} {toVisit : List Nat} {node : Vector3D K}
    (h : Explored dist bsPos rangeAta ata myPos s) (hs : s.toVisit = cur :: toVisit)
    (hnode : ata[cur]? = some node) (hfar : ¬ dist (flat node) bsPos < rangeAta)
    (hgrown : Grown dist rangeAta ata (flat node) { s with toVisit := toVisit } s')
    (hmarked : ∀ j n, ata[j]? = some n → some j ≠ some cur → 0 < dist (flat node) (flat n) →
      dist (flat node) (flat n) < rangeAta → Marked s' j) :
    Explored dist bsPos rangeAta ata myPos
      { s' with visited := Function.update s'.visited cur true } := by
  have hreach : Relation.ReflTransGen (Hop dist rangeAta ata) myPos (flat node) := by
    obtain ⟨n, hn, hr⟩ := h.waiting cur (by simp [hs])
    rw [hnode, Option.some.injEq] at hn
    rwa [hn]
  have hold {p : Vector3D K} (hp : Source ata myPos
      { s' with visited := Function.update s'.visited cur true } p) :
      p = flat node ∨ Source ata myPos s p := by
    refine (source_visit rfl hnode hp).imp_right fun hp => ?_
    rw [hgrown.visited] at hp
    exact hp
  have hkeep {j : Nat} (hj : Marked s' j) :
      Marked { s' with visited := Function.update s'.visited cur true } j := by
    refine hj.imp_right fun hv => ?_
    by_cases hjc : j = cur <;> simp [hjc, hv]
  refine ⟨?_, ?_, ?_, ?_⟩
  · intro j hj
    by_cases hjc : j = cur
    · exact .inr (by simp [hjc])
    · rcases hgrown.queued j hj with hq | hq
      · rcases h.queued j hq with hq | hv
        · rw [hs, List.mem_cons] at hq
          exact .inl (hgrown.kept j (hq.resolve_left hjc))
        · exact .inr (by simpa [hjc, hgrown.visited] using hv)
      · exact .inl hq
  · intro j hj
    rcases hgrown.near j hj with hj | ⟨n, hn, hlt⟩
    · exact h.waiting j (by rw [hs]; exact List.mem_cons_of_mem _ hj)
    · exact ⟨n, hn, hreach.tail ⟨flat_mem hn, hlt⟩⟩
  · intro p hp
    rcases hold hp with rfl | hp
    · exact hfar
    · exact h.far p hp
  · intro p hp k n hk hpos hlt
    rcases hold hp with rfl | hp
    · by_cases hkc : k = cur
      · exact .inr (by simp [hkc])
      · exact hkeep (hmarked k n hk (fun he => hkc (Option.some.inj he)) hpos hlt)
    · have hm : Marked { s with toVisit := toVisit } k := h.closed p hp k n hk hpos hlt
      exact hkeep (hgrown.marked hm)

theorem visit_explored (hdist : Metric dist) (hlen : ata.length < 2 ^ 16) (s : Search)
    (h : Explored dist bsPos rangeAta ata myPos s) :
    (∃ b, visit dist bsPos rangeAta ata s = some (.inl b) ∧
      (b = true ↔ Connected dist bsPos rangeAta ata myPos)) ∨
    ∃ s', visit dist bsPos rangeAta ata s = some (.inr s') ∧
      Explored dist bsPos rangeAta ata myPos s' ∧ room ata.length s' < room ata.length s := by
  rw [visit]
  cases hs : s.toVisit with
  | nil =>
      refine .inl ⟨false, rfl, iff_of_false Bool.false_ne_true ?_⟩
      rintro ⟨q, hq, hlt⟩
      exact h.far q (source_of_reach hdist h hs hq) hlt
  | cons cur toVisit =>
      obtain ⟨node, hnode, hreach⟩ := h.waiting cur (by simp [hs])
      simp only [hnode]
      by_cases hnear : dist (flat node) bsPos < rangeAta
      · rw [if_pos hnear]
        exact .inl ⟨true, rfl, iff_of_true rfl ⟨flat node, hreach, hnear⟩⟩
      · obtain ⟨s', hs', hgrown, hmarked⟩ :=
          enqueueAll_returns dist rangeAta hlen (flat node) (some cur) { s with toVisit := toVisit }
        rw [if_neg hnear, hs', Option.map_some]
        refine .inr ⟨_, rfl, explored_visit h hs hnode hnear hgrown hmarked, ?_⟩
        have hroom := hgrown.room
        simp only [room, hs, List.length_cons] at hroom ⊢
        omega

/-- The search returns after at most one round for each node, and finds a path
exactly when there is one; nodes at the same place make no difference. -/
theorem hasPathToBs_iff (hdist : Metric dist) (hlen : ata.length < 2 ^ 16) {fuel : Nat}
    (hfuel : ata.length < fuel) :
    ∃ b, hasPathToBs dist bsPos rangeAta ata fuel myPos = some b ∧
      (b = true ↔ Connected dist bsPos rangeAta ata myPos) := by
  rw [hasPathToBs]
  by_cases hnear : dist myPos bsPos < rangeAta
  · rw [if_pos hnear]
    exact ⟨true, rfl, iff_of_true rfl ⟨myPos, .refl, hnear⟩⟩
  · obtain ⟨s, hs, hexp, hroom⟩ := explored_start hlen hnear
    rw [if_neg hnear, hs, Option.bind_some]
    exact loop_returns (Explored dist bsPos rangeAta ata myPos) (room ata.length) _
      (visit_explored hdist hlen) hexp (hroom.trans_lt hfuel)

end Loop

theorem hasPathToBs_iff_two_relays :
    let relays : List (Vector3D ℚ) := [⟨0, 0, 90⟩, ⟨80, 0, 60⟩, ⟨40, 0, 80⟩]
    ∃ b, hasPathToBs gridDistance ⟨120, 0, 0⟩ 50 relays 4 ⟨0, 0, 0⟩ = some b ∧
      (b = true ↔ Connected gridDistance ⟨120, 0, 0⟩ 50 relays ⟨0, 0, 0⟩) :=
  hasPathToBs_iff gridDistance_metric (by decide) (by decide)

end UavMonitoring.PathToBs
