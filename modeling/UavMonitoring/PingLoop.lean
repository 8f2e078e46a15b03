import UavMonitoring.EventQueue
import UavMonitoring.Runs
import UavMonitoring.SpringForces

namespace UavMonitoring.PingLoop

open Basics EventQueue Runs SpringForces

variable {K : Type} [Field K] [LinearOrder K]

inductive Control
  | doInitializePrivate
  | doTryMove
deriving DecidableEq

inductive Effect (K : Type)
  | update
  | send (size : Nat)
  | setVelocity (v : Force K)
  | unpause
  | pause
  | setPosition (position : Vector3D K)
  | notifyCourseChange

/-- The events of the model that wait in the simulator, the one `m_event`
refers to, whether an answer came, and what was done so far. -/
structure Model (K : Type) where
  queue : Queue Control
  event : Option Nat
  ping : Bool
  effects : List (Effect K)

def start : Model K := ⟨empty, none, false, []⟩

structure Config (K : Type) where
  speed : K
  tol : K

def doInitializePrivate (m : Model K) : Model K :=
  { m with
    queue := schedule .doTryMove m.queue
    ping := false
    effects := m.effects ++ [.update, .send 56] }

def doInitialize (m : Model K) : Model K := doInitializePrivate m

def receivePacket (m : Model K) : Model K := { m with ping := true }

def doWalk (m : Model K) : Model K :=
  let cancelled := cancel m.event m.queue
  { m with
    queue := schedule .doInitializePrivate cancelled
    event := some cancelled.next
    effects := m.effects ++ [.notifyCourseChange] }

def move (c : CMath K) (cfg : Config K) (force : Force K) : List (Effect K) :=
  match force with
  | some f =>
      if cfg.tol < getLength c f then [.setVelocity (pull c cfg.speed f), .unpause] else [.pause]
  | none => [.pause]

def doTryMove (c : CMath K) (cfg : Config K) (force : Force K) (m : Model K) : Model K :=
  doWalk { m with effects := m.effects ++ if m.ping then move c cfg force else [.pause] }

def doSetPosition (position : Vector3D K) (m : Model K) : Model K :=
  let removed := cancel m.event m.queue
  { m with
    queue := schedule .doInitializePrivate removed
    event := some removed.next
    effects := m.effects ++ [.setPosition position] }

def fire (c : CMath K) (cfg : Config K) (id : Nat) (force : Force K) (m : Model K) : Model K :=
  match find id m.queue with
  | none => m
  | some e =>
      let m' := { m with queue := cancel (some id) m.queue }
      match e.call with
      | .doInitializePrivate => doInitializePrivate m'
      | .doTryMove => doTryMove c cfg force m'

/-- Which pending event fires next is left open. -/
inductive Event (K : Type)
  | doInitialize
  | receivePacket
  | doSetPosition (position : Vector3D K)
  | fire (id : Nat) (force : Force K)

def step (c : CMath K) (cfg : Config K) (m : Model K) : Event K → Model K
  | .doInitialize => doInitialize m
  | .receivePacket => receivePacket m
  | .doSetPosition position => doSetPosition position m
  | .fire id force => fire c cfg id force m

def OneLoop (m : Model K) : Prop := m.queue.pending.length ≤ 1

/-- `m_event` refers to every pending `DoInitializePrivate` and to nothing else
that is pending. -/
structure Tracked (m : Model K) : Prop where
  fresh : Fresh m.queue
  handle : ∀ id, m.event = some id → id < m.queue.next
  tracked : ∀ e ∈ m.queue.pending, e.call = .doInitializePrivate ↔ m.event = some e.id

def Undisturbed (m : Model K) : Event K → Prop
  | .doInitialize => m.queue.pending = []
  | .doSetPosition _ => ∀ e ∈ m.queue.pending, e.call ≠ .doTryMove
  | _ => True

omit [Field K] [LinearOrder K] in
theorem tracked_start : Tracked (start : Model K) where
  fresh := fresh_empty
  handle id h := by simp [start] at h
  tracked e h := by simp [start, empty] at h

omit [Field K] [LinearOrder K] in
theorem Tracked.doInitializePrivate {m : Model K} (h : Tracked m) :
    Tracked (doInitializePrivate m) where
  fresh := fresh_schedule h.fresh _
  handle id hid := Nat.lt_succ_of_lt (h.handle id hid)
  tracked e he := by
    rcases mem_schedule.mp he with he | rfl
    · exact h.tracked e he
    · refine iff_of_false (by simp) fun hid => ?_
      exact Nat.lt_irrefl _ (h.handle _ hid)

omit [Field K] [LinearOrder K] in
theorem Tracked.replace {m m' : Model K} (h : Tracked m)
    (hqueue : m'.queue = schedule .doInitializePrivate (cancel m.event m.queue))
    (hevent : m'.event = some m.queue.next) : Tracked m' where
  fresh := hqueue ▸ fresh_schedule (fresh_cancel h.fresh _) _
  handle id hid := by
    rw [hevent, Option.some.injEq] at hid
    rw [← hid, hqueue]
    exact Nat.lt_succ_self _
  tracked e he := by
    rw [hqueue] at he
    rw [hevent, Option.some.injEq]
    rcases mem_schedule.mp he with he | rfl
    · obtain ⟨he, hne⟩ := mem_cancel.mp he
      refine iff_of_false (fun hcall => hne ?_) (h.fresh e he).ne'
      exact ((h.tracked e he).mp hcall).symm
    · exact iff_of_true rfl rfl

omit [Field K] [LinearOrder K] in
theorem Tracked.expire {m : Model K} (h : Tracked m) (id : Nat) :
    Tracked { m with queue := cancel (some id) m.queue } where
  fresh := fresh_cancel h.fresh _
  handle := h.handle
  tracked e he := h.tracked e (mem_cancel.mp he).1

theorem tracked_step {c : CMath K} {cfg : Config K} {m : Model K} (h : Tracked m) (e : Event K) :
    Tracked (step c cfg m e) := by
  cases e with
  | doInitialize => exact h.doInitializePrivate
  | receivePacket => exact ⟨h.fresh, h.handle, h.tracked⟩
  | doSetPosition position => exact h.replace rfl rfl
  | fire id force =>
      rw [step, fire]
      cases hf : find id m.queue with
      | none => exact h
      | some e =>
          have hexp := h.expire id
          cases hcall : e.call with
          | doInitializePrivate => simpa only [hcall] using hexp.doInitializePrivate
          | doTryMove =>
              simp only [hcall]
              exact hexp.replace rfl rfl

omit [Field K] [LinearOrder K] in
theorem oneLoop_cases {m : Model K} (hone : OneLoop m) :
    m.queue.pending = [] ∨ ∃ e, m.queue.pending = [e] := by
  rw [OneLoop] at hone
  cases hp : m.queue.pending with
  | nil => exact .inl rfl
  | cons e rest =>
      cases rest with
      | nil => exact .inr ⟨e, rfl⟩
      | cons e' rest => simp [hp] at hone

omit [Field K] [LinearOrder K] in
theorem pending_cancel_event {m : Model K} (h : Tracked m) (hone : OneLoop m) :
    (cancel m.event m.queue).pending = [] ↔ ∀ e ∈ m.queue.pending, e.call ≠ .doTryMove := by
  rcases oneLoop_cases hone with hp | ⟨e, hp⟩
  · simp [cancel, hp]
  · have htracked := h.tracked e (by simp [hp])
    cases hcall : e.call with
    | doInitializePrivate =>
        rw [htracked.mp hcall, cancel_pending_of_single hp, hp]
        simp [hcall]
    | doTryMove =>
        have hne : m.event ≠ some e.id := fun hid => by simp [htracked.mpr hid] at hcall
        have hkeep : cancel m.event m.queue = m.queue :=
          cancel_eq_self fun e' he' => by
            rw [hp, List.mem_singleton] at he'
            exact he' ▸ hne.symm
        rw [hkeep, hp]
        simp [hcall]

omit [Field K] [LinearOrder K] in
theorem pending_expire {m : Model K} (hone : OneLoop m) {id : Nat} {e : Entry Control}
    (hf : find id m.queue = some e) : (cancel (some id) m.queue).pending = [] := by
  obtain ⟨hmem, rfl⟩ := find_eq_some hf
  rcases oneLoop_cases hone with hp | ⟨e', hp⟩
  · simp [hp] at hmem
  · rw [hp, List.mem_singleton] at hmem
    exact cancel_pending_of_single (hmem ▸ hp)

theorem oneLoop_step {c : CMath K} {cfg : Config K} {m : Model K} (h : Tracked m)
    (hone : OneLoop m) (e : Event K) : OneLoop (step c cfg m e) ↔ Undisturbed m e := by
  cases e with
  | doInitialize => exact length_schedule_le_one
  | receivePacket => exact iff_of_true hone trivial
  | doSetPosition position => exact length_schedule_le_one.trans (pending_cancel_event h hone)
  | fire id force =>
      refine iff_of_true ?_ trivial
      rw [step, fire]
      cases hf : find id m.queue with
      | none => exact hone
      | some e =>
          have hnil := pending_expire hone hf
          cases hcall : e.call with
          | doInitializePrivate =>
              simp only [hcall]
              exact length_schedule_le_one.mpr hnil
          | doTryMove =>
              simp only [hcall]
              apply length_schedule_le_one.mpr
              rw [cancel_eq_self] <;> simp [hnil]

/-- Along a run from the start there is never more than one control event
pending exactly when every `DoInitialize` comes while none is pending and every
`DoSetPosition` while no `DoTryMove` is. -/
theorem one_loop_iff (c : CMath K) (cfg : Config K) (es : List (Event K)) :
    (∀ m ∈ states (total (step c cfg)) start es, OneLoop m) ↔
      ∀ t ∈ transitions (total (step c cfg)) start es, Undisturbed t.pre t.event := by
  apply states_iff (step c cfg) (fun m _ => Tracked m) OneLoop Undisturbed
  · exact fun m e _ h => tracked_step h e
  · exact fun m e _ h hone => oneLoop_step h hone e
  · exact tracked_start
  · exact Nat.zero_le 1

theorem two_loops :
    ¬ ∀ (c : CMath ℚ) (cfg : Config ℚ) (es : List (Event ℚ)),
      ∀ m ∈ states (total (step c cfg)) start es, OneLoop m := by
  intro h
  have hmem := foldl_mem_states (step rationalMath ⟨5, 1⟩) start
    [.doSetPosition ⟨10, 20, 30⟩, .doInitialize]
  have hone : 2 ≤ 1 := h rationalMath ⟨5, 1⟩ [.doSetPosition ⟨10, 20, 30⟩, .doInitialize] _ hmem
  exact absurd hone (by decide)

end UavMonitoring.PingLoop
