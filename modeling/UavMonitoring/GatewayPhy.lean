import UavMonitoring.EndDevice
import UavMonitoring.Interference

namespace UavMonitoring.GatewayPhy

open Basics SubBands EventQueue Interference Runs
open EndDevice (getOnAirTime LoraTxParameters)

variable {K : Type} [Field K] [LinearOrder K]

scoped instance atLeastTwo_hundredThirtyFive : Nat.AtLeastTwo 135 := ⟨by decide⟩

structure ReceptionPath (K : Type) where
  frequencyMHz : K
  available : Bool
  event : Option (Event K)
deriving DecidableEq

namespace ReceptionPath

def new (frequencyMHz : K) : ReceptionPath K := ⟨frequencyMHz, true, none⟩

def free (path : ReceptionPath K) : ReceptionPath K := { path with available := true, event := none }

def lockOnEvent (event : Event K) (path : ReceptionPath K) : ReceptionPath K :=
  { path with available := false, event := some event }

end ReceptionPath

inductive Call (K : Type)
  | endReceive (packet : List UInt8) (event : Event K)
  | txFinished
deriving DecidableEq

/-- What becomes of a signal at a gateway: a trace source is told of it, and a
packet that is received goes to the layer above. -/
inductive Fate
  | underSensitivity
  | noMoreDemodulators
  | interfered (destroyedBy : UInt8)
  | received
deriving DecidableEq

structure Outcome (K : Type) where
  event : Event K
  packet : List UInt8
  fate : Fate
deriving DecidableEq

structure GatewayLoraPhy (K : Type) where
  now : Time
  receptionPaths : List (ReceptionPath K)
  occupiedReceptionPaths : Int
  isTransmitting : Bool
  interference : LoraInterferenceHelper K
  queue : Queue (Time × Call K)

structure Radio (K : Type) [Field K] [LinearOrder K] where
  clock : Clock K
  decibels : Decibels K

def sensitivity : List K := [-130, -265 / 2, -135, -275 / 2, -140, -285 / 2]

namespace GatewayLoraPhy

def schedule (g : GatewayLoraPhy K) (delay : Time) (call : Call K) : GatewayLoraPhy K :=
  { g with queue := EventQueue.schedule (g.now + delay, call) g.queue }

def lockPath (i : Nat) (duration : Time) (packet : List UInt8) (event : Event K) (g : GatewayLoraPhy K) :
    GatewayLoraPhy K :=
  { g with
    receptionPaths := g.receptionPaths.modify i (ReceptionPath.lockOnEvent event)
    occupiedReceptionPaths := g.occupiedReceptionPaths + 1 }.schedule duration (.endReceive packet event)

/-- `none` where the program looks past a table or past the end of the signals it keeps. -/
def startReceive (packet : List UInt8) (rxPowerDbm : K) (sf : UInt8) (duration : Time) (frequencyMHz : K)
    (g : GatewayLoraPhy K) : Option (GatewayLoraPhy K × Option (Outcome K)) := do
  let (event, interference) ← add g.now duration rxPowerDbm sf frequencyMHz g.interference
  let g := { g with interference := interference }
  match g.receptionPaths.findIdx? fun path => path.frequencyMHz = frequencyMHz ∧ path.available with
  | none => some (g, some ⟨event, packet, .noMoreDemodulators⟩)
  | some i =>
      let sensitivity ← (indexOfSf sf).bind fun i => sensitivity[i]?
      if rxPowerDbm < sensitivity then some (g, some ⟨event, packet, .underSensitivity⟩)
      else some (g.lockPath i duration packet event, none)

def freePath (event : Event K) (g : GatewayLoraPhy K) : GatewayLoraPhy K :=
  match g.receptionPaths.findIdx? fun path => path.event.map Event.id = some event.id with
  | none => g
  | some i => { g with
      receptionPaths := g.receptionPaths.modify i ReceptionPath.free
      occupiedReceptionPaths := g.occupiedReceptionPaths - 1 }

def fateOf (packetDestroyed : UInt8) : Fate :=
  if packetDestroyed ≠ 0 then .interfered packetDestroyed else .received

def endReceive (radio : Radio K) (packet : List UInt8) (event : Event K) (g : GatewayLoraPhy K) :
    Option (GatewayLoraPhy K × Option (Outcome K)) :=
  (isDestroyedByInterference radio.decibels event g.interference.events).map fun packetDestroyed =>
    (g.freePath event, some ⟨event, packet, fateOf packetDestroyed⟩)

def call (radio : Radio K) (g : GatewayLoraPhy K) : Call K → Option (GatewayLoraPhy K × Option (Outcome K))
  | .endReceive packet event => g.endReceive radio packet event
  | .txFinished => some ({ g with isTransmitting := false }, none)

def send [FloorRing K] (radio : Radio K) (size : UInt32) (txParams : LoraTxParameters K)
    (frequencyMHz txPowerDbm : K)
    (g : GatewayLoraPhy K) : Option (GatewayLoraPhy K) :=
  let duration := getOnAirTime radio.clock size txParams
  (add g.now duration txPowerDbm txParams.sf frequencyMHz g.interference).map fun (_, interference) =>
    { { g with interference := interference }.schedule duration .txFinished with isTransmitting := true }

end GatewayLoraPhy

inductive Input (K : Type)
  | startReceive (packet : List UInt8) (rxPowerDbm : K) (sf : UInt8) (duration : Time) (frequencyMHz : K)
  | send (size : UInt32) (txParams : LoraTxParameters K) (frequencyMHz txPowerDbm : K)
  | run (id : Nat)

def machine [FloorRing K] (radio : Radio K) (g : GatewayLoraPhy K) (e : Time × Input K) :
    Option (GatewayLoraPhy K × Option (Outcome K)) :=
  let g := { g with now := e.1 }
  match e.2 with
  | .startReceive packet rxPowerDbm sf duration frequencyMHz =>
      g.startReceive packet rxPowerDbm sf duration frequencyMHz
  | .send size txParams frequencyMHz txPowerDbm =>
      (g.send radio size txParams frequencyMHz txPowerDbm).map (·, none)
  | .run id =>
      match find id g.queue with
      | none => some (g, none)
      | some entry => { g with queue := cancel (some id) g.queue }.call radio entry.call.2

def Call.event : Call K → Option (Event K)
  | .endReceive _ event => some event
  | .txFinished => none

def receiving (q : Queue (Time × Call K)) : List (Event K) := q.pending.filterMap fun e => e.call.2.event

def locked (paths : List (ReceptionPath K)) : List (Event K) := paths.filterMap ReceptionPath.event

section Paths

variable {paths : List (ReceptionPath K)} {path : ReceptionPath K} {event : Event K} {i : Nat}

omit [Field K] [LinearOrder K] in
theorem modify_eq_set (hi : paths[i]? = some path) (f : ReceptionPath K → ReceptionPath K) :
    paths.modify i f = paths.set i (f path) := by
  rw [List.modify_eq_set_getElem?, hi]
  rfl

omit [Field K] [LinearOrder K] in
theorem locked_perm (hi : paths[i]? = some path) :
    (locked paths).Perm (path.event.toList ++ locked (paths.eraseIdx i)) := by
  obtain ⟨hlt, rfl⟩ := List.getElem?_eq_some_iff.mp hi
  have hperm := ((List.getElem_cons_eraseIdx_perm hlt).filterMap ReceptionPath.event).symm
  rw [List.filterMap_cons] at hperm
  cases hevent : paths[i].event with
  | none => rwa [hevent] at hperm
  | some event => rwa [hevent] at hperm

omit [Field K] [LinearOrder K] in
theorem locked_modify_perm (hi : paths[i]? = some path) (f : ReceptionPath K → ReceptionPath K) :
    (locked (paths.modify i f)).Perm ((f path).event.toList ++ locked (paths.eraseIdx i)) := by
  have hlt := (List.getElem?_eq_some_iff.mp hi).1
  have hset : (paths.modify i f)[i]? = some (f path) := by
    rw [modify_eq_set hi, List.getElem?_set_self hlt]
  have hperm := locked_perm hset
  rw [modify_eq_set hi, List.eraseIdx_set_eq] at hperm
  rw [modify_eq_set hi]
  exact hperm

omit [Field K] [LinearOrder K] in
theorem locked_lock (hi : paths[i]? = some path) (hfree : path.event = none) :
    (locked (paths.modify i (ReceptionPath.lockOnEvent event))).Perm (event :: locked paths) := by
  have hbefore := locked_perm hi
  rw [hfree] at hbefore
  exact (locked_modify_perm hi _).trans (hbefore.symm.cons event)

omit [Field K] [LinearOrder K] in
theorem locked_free (hi : paths[i]? = some path) (hevent : path.event = some event) :
    (locked paths).Perm (event :: locked (paths.modify i ReceptionPath.free)) := by
  have hbefore := locked_perm hi
  rw [hevent] at hbefore
  exact hbefore.trans ((locked_modify_perm hi ReceptionPath.free).symm.cons event)

omit [Field K] [LinearOrder K] in
theorem mem_modify {f : ReceptionPath K → ReceptionPath K} {p : ReceptionPath K} (hp : p ∈ paths.modify i f) :
    p ∈ paths ∨ ∃ path, paths[i]? = some path ∧ p = f path := by
  obtain ⟨j, hj⟩ := List.mem_iff_getElem?.mp hp
  rw [List.getElem?_modify] at hj
  obtain ⟨q, hq, rfl⟩ := Option.map_eq_some_iff.mp hj
  split
  · next h => exact .inr ⟨q, h ▸ hq, rfl⟩
  · exact .inl (List.mem_of_getElem? hq)

end Paths

section Receiving

variable {q : Queue (Time × Call K)}

omit [Field K] [LinearOrder K] in
theorem receiving_schedule (time : Time) (call : Call K) :
    receiving (EventQueue.schedule (time, call) q) = receiving q ++ call.event.toList := by
  rw [receiving, receiving, EventQueue.schedule, List.filterMap_append]
  cases call <;> rfl

omit [Field K] [LinearOrder K] in
theorem receiving_cancel (h : Distinct q) {entry : Entry (Time × Call K)} (he : entry ∈ q.pending) :
    (receiving q).Perm (entry.call.2.event.toList ++ receiving (cancel (some entry.id) q)) := by
  have hperm := (perm_cancel h he).filterMap fun e => e.call.2.event
  rw [List.filterMap_cons] at hperm
  cases hevent : entry.call.2.event with
  | none => rwa [hevent] at hperm
  | some event => rwa [hevent] at hperm

end Receiving

/-- The reception paths are locked on the signals that the gateway is to end
receiving, each on one of its own frequency. -/
structure Locked (g : GatewayLoraPhy K) : Prop where
  distinct : Distinct g.queue
  known : ∀ event ∈ receiving g.queue, event.id < g.interference.next
  ids : ((receiving g.queue).map Event.id).Nodup
  paths : (locked g.receptionPaths).Perm (receiving g.queue)
  states : ∀ path ∈ g.receptionPaths, path.available = path.event.isNone ∧
    ∀ event ∈ path.event, event.frequencyMHz = path.frequencyMHz
  occupied : g.occupiedReceptionPaths = (receiving g.queue).length

section Steps

variable {g g' : GatewayLoraPhy K} {packet : List UInt8} {rxPowerDbm : K} {sf : UInt8} {duration : Time}
  {frequencyMHz : K} {out : Option (Outcome K)}

def arriving (g : GatewayLoraPhy K) (rxPowerDbm : K) (sf : UInt8) (duration : Time) (frequencyMHz : K) :
    Event K :=
  .new g.interference.next g.now duration rxPowerDbm sf frequencyMHz

omit [Field K] [LinearOrder K] in
theorem add_eq_some {now : Time} {h : LoraInterferenceHelper K} {r : Event K × LoraInterferenceHelper K}
    (hadd : add now duration rxPowerDbm sf frequencyMHz h = some r) :
    r.1 = .new h.next now duration rxPowerDbm sf frequencyMHz ∧ r.2.next = h.next + 1 := by
  obtain ⟨events, _, rfl⟩ := Option.map_eq_some_iff.mp hadd
  exact ⟨rfl, rfl⟩

def Turned (g : GatewayLoraPhy K) (frequencyMHz : K) : Prop :=
  ∀ path ∈ g.receptionPaths, path.frequencyMHz = frequencyMHz → path.available = false

theorem startReceive_cases
    (h : g.startReceive packet rxPowerDbm sf duration frequencyMHz = some (g', out)) :
    ∃ interference, interference.next = g.interference.next + 1 ∧
      add g.now duration rxPowerDbm sf frequencyMHz g.interference =
        some (arriving g rxPowerDbm sf duration frequencyMHz, interference) ∧
      ((Turned g frequencyMHz ∧ g' = { g with interference := interference } ∧
          out = some ⟨arriving g rxPowerDbm sf duration frequencyMHz, packet, .noMoreDemodulators⟩) ∨
        ∃ i path, g.receptionPaths[i]? = some path ∧ path.frequencyMHz = frequencyMHz ∧ path.available = true ∧
          ((g' = { g with interference := interference } ∧
              out = some ⟨arriving g rxPowerDbm sf duration frequencyMHz, packet, .underSensitivity⟩) ∨
            g' = { g with interference := interference }.lockPath i duration packet
                (arriving g rxPowerDbm sf duration frequencyMHz) ∧ out = none)) := by
  obtain ⟨⟨event, interference⟩, hadd, h⟩ := Option.bind_eq_some_iff.mp h
  obtain ⟨rfl, hnext⟩ := add_eq_some hadd
  refine ⟨interference, hnext, hadd, ?_⟩
  dsimp only at h
  split at h
  · next hnone =>
      cases h
      refine .inl ⟨fun path hpath hfrequency => ?_, rfl, rfl⟩
      have hno := List.findIdx?_eq_none_iff.mp hnone path hpath
      simpa [hfrequency] using hno
  · next i hsome =>
      obtain ⟨hlt, hp, _⟩ := List.findIdx?_eq_some_iff_getElem.mp hsome
      simp only [decide_eq_true_eq] at hp
      refine .inr ⟨i, g.receptionPaths[i], List.getElem?_eq_getElem hlt, hp.1, hp.2, ?_⟩
      obtain ⟨sensitivity, _, h⟩ := Option.bind_eq_some_iff.mp h
      split at h
      · cases h
        exact .inl ⟨rfl, rfl⟩
      · cases h
        exact .inr ⟨rfl, rfl⟩

omit [Field K] [LinearOrder K] in
theorem locked_lockPath (h : Locked g) {i : Nat} {path : ReceptionPath K} (hi : g.receptionPaths[i]? = some path)
    (havailable : path.available = true) {event : Event K} (hfrequency : path.frequencyMHz = event.frequencyMHz)
    (hid : event.id = g.interference.next) {interference : LoraInterferenceHelper K}
    (hnext : interference.next = g.interference.next + 1) :
    Locked ({ g with interference := interference }.lockPath i duration packet event) := by
  have hreceiving : receiving (EventQueue.schedule (g.now + duration, .endReceive packet event) g.queue) =
      receiving g.queue ++ [event] := receiving_schedule _ _
  have hstate := h.states path (List.mem_of_getElem? hi)
  rw [havailable, eq_comm, Option.isNone_iff_eq_none] at hstate
  refine ⟨distinct_schedule h.distinct _, ?_, ?_, ?_, ?_, ?_⟩
  · intro e he
    change e ∈ receiving (EventQueue.schedule (g.now + duration, .endReceive packet event) g.queue) at he
    change e.id < interference.next
    rw [hreceiving, List.mem_append, List.mem_singleton] at he
    rcases he with he | rfl
    · have := h.known e he
      omega
    · omega
  · change ((receiving (EventQueue.schedule (g.now + duration, .endReceive packet event) g.queue)).map _).Nodup
    rw [hreceiving, List.map_append, List.map_singleton, List.nodup_append]
    refine ⟨h.ids, List.nodup_singleton _, fun id hid' id' hid'' => ?_⟩
    obtain ⟨e, he, rfl⟩ := List.mem_map.mp hid'
    rw [List.mem_singleton.mp hid'', hid]
    exact Nat.ne_of_lt (h.known e he)
  · change (locked (g.receptionPaths.modify i (ReceptionPath.lockOnEvent event))).Perm
      (receiving (EventQueue.schedule (g.now + duration, .endReceive packet event) g.queue))
    rw [hreceiving]
    exact (locked_lock hi hstate.1).trans ((h.paths.cons event).trans (List.perm_append_singleton _ _).symm)
  · intro p hp
    rcases mem_modify hp with hp | ⟨q, hq, rfl⟩
    · exact h.states p hp
    · obtain rfl := Option.some.inj (hq.symm.trans hi)
      refine ⟨rfl, fun e he => ?_⟩
      obtain rfl := Option.some.inj he
      exact hfrequency.symm
  · change g.occupiedReceptionPaths + 1 =
      (receiving (EventQueue.schedule (g.now + duration, .endReceive packet event) g.queue)).length
    rw [hreceiving, List.length_append, List.length_singleton, h.occupied]
    rfl

omit [Field K] [LinearOrder K] in
theorem locked_freePath (h : Locked g) {entry : Entry (Time × Call K)} (he : entry ∈ g.queue.pending)
    {event : Event K} (hcall : entry.call.2 = .endReceive packet event) :
    Locked ({ g with queue := cancel (some entry.id) g.queue }.freePath event) := by
  have hperm : (receiving g.queue).Perm (event :: receiving (cancel (some entry.id) g.queue)) := by
    have hcancel := receiving_cancel h.distinct he
    rw [hcall] at hcancel
    exact hcancel
  obtain ⟨path, hpath, hevent⟩ :=
    List.mem_filterMap.mp ((h.paths.trans hperm).mem_iff.mpr List.mem_cons_self)
  have hids := (hperm.map Event.id).nodup_iff.mp h.ids
  rw [List.map_cons, List.nodup_cons] at hids
  have hlength := hperm.length_eq
  rw [List.length_cons] at hlength
  rw [GatewayLoraPhy.freePath]
  split
  · next hnone =>
      have hno := List.findIdx?_eq_none_iff.mp hnone path hpath
      simp [hevent] at hno
  · next i hsome =>
      obtain ⟨hlt, hp, _⟩ := List.findIdx?_eq_some_iff_getElem.mp hsome
      simp only [decide_eq_true_eq] at hp
      obtain ⟨event', hevent', hid⟩ := Option.map_eq_some_iff.mp hp
      have hmem' : event' ∈ receiving g.queue :=
        h.paths.mem_iff.mp (List.mem_filterMap.mpr ⟨_, List.getElem_mem hlt, hevent'⟩)
      have hmem : event ∈ receiving g.queue := hperm.mem_iff.mpr List.mem_cons_self
      obtain rfl : event' = event := List.inj_on_of_nodup_map h.ids hmem' hmem hid
      have hi : g.receptionPaths[i]? = some g.receptionPaths[i] := List.getElem?_eq_getElem hlt
      refine ⟨distinct_cancel h.distinct _, ?_, hids.2, ?_, ?_, ?_⟩
      · exact fun e he' => h.known e (hperm.mem_iff.mpr (List.mem_cons_of_mem _ he'))
      · exact ((locked_free hi hevent').symm.trans (h.paths.trans hperm)).cons_inv
      · intro p hp'
        rcases mem_modify hp' with hp' | ⟨q, _, rfl⟩
        · exact h.states p hp'
        · exact ⟨rfl, nofun⟩
      · change g.occupiedReceptionPaths - 1 = (receiving (cancel (some entry.id) g.queue)).length
        rw [h.occupied, hlength]
        omega

omit [Field K] [LinearOrder K] in
theorem locked_quiet (h : Locked g) (hdistinct : Distinct g'.queue)
    (hreceiving : (receiving g'.queue).Perm (receiving g.queue)) (hpaths : g'.receptionPaths = g.receptionPaths)
    (hoccupied : g'.occupiedReceptionPaths = g.occupiedReceptionPaths)
    (hnext : g.interference.next ≤ g'.interference.next) : Locked g' := by
  refine ⟨hdistinct, ?_, ?_, ?_, hpaths ▸ h.states, ?_⟩
  · exact fun event he => (h.known event (hreceiving.mem_iff.mp he)).trans_le hnext
  · exact (hreceiving.map Event.id).nodup_iff.mpr h.ids
  · rw [hpaths]
    exact h.paths.trans hreceiving.symm
  · rw [hoccupied, hreceiving.length_eq]
    exact h.occupied

omit [Field K] [LinearOrder K] in
theorem freePath_frame (event : Event K) (g : GatewayLoraPhy K) :
    (g.freePath event).queue = g.queue ∧ (g.freePath event).interference = g.interference ∧
      (g.freePath event).now = g.now ∧ (g.freePath event).isTransmitting = g.isTransmitting := by
  rw [GatewayLoraPhy.freePath]
  split
  · exact ⟨rfl, rfl, rfl, rfl⟩
  · exact ⟨rfl, rfl, rfl, rfl⟩

end Steps

section Runs

variable [FloorRing K] {radio : Radio K} {g g' : GatewayLoraPhy K} {e : Time × Input K}
  {out : Option (Outcome K)}

def arrival (g : GatewayLoraPhy K) (e : Time × Input K) : Option (Event K) :=
  match e.2 with
  | .startReceive _ rxPowerDbm sf duration frequencyMHz =>
      some (arriving { g with now := e.1 } rxPowerDbm sf duration frequencyMHz)
  | _ => none

structure Stepped (g : GatewayLoraPhy K) (e : Time × Input K) (g' : GatewayLoraPhy K)
    (out : Option (Outcome K)) : Prop where
  locked : Locked g'
  frequencies : g'.receptionPaths.map ReceptionPath.frequencyMHz = g.receptionPaths.map ReceptionPath.frequencyMHz
  signals : ((arrival g e).toList ++ receiving g.queue).Perm
    ((out.map Outcome.event).toList ++ receiving g'.queue)
  next : g.interference.next ≤ g'.interference.next
  fresh : ∀ event ∈ arrival g e, event.id = g.interference.next ∧ event.id < g'.interference.next

omit [Field K] [LinearOrder K] [FloorRing K] in
theorem frequencies_modify (paths : List (ReceptionPath K)) (i : Nat) {f : ReceptionPath K → ReceptionPath K}
    (hf : ∀ path, (f path).frequencyMHz = path.frequencyMHz) :
    (paths.modify i f).map ReceptionPath.frequencyMHz = paths.map ReceptionPath.frequencyMHz := by
  apply List.ext_getElem?
  intro j
  rw [List.getElem?_map, List.getElem?_modify, List.getElem?_map, Option.map_eq_map, Option.map_map]
  refine congrArg (Option.map · _) (funext fun path => ?_)
  dsimp only [Function.comp]
  split
  · exact hf path
  · rfl

omit [Field K] [LinearOrder K] [FloorRing K] in
theorem Locked.later (h : Locked g) (now : Time) : Locked ({ g with now := now } : GatewayLoraPhy K) :=
  ⟨h.distinct, h.known, h.ids, h.paths, h.states, h.occupied⟩

theorem stepped_startReceive (h : Locked g) {now : Time} {packet : List UInt8} {rxPowerDbm : K} {sf : UInt8}
    {duration : Time} {frequencyMHz : K}
    (hstep : machine radio g (now, .startReceive packet rxPowerDbm sf duration frequencyMHz) = some (g', out)) :
    Stepped g (now, .startReceive packet rxPowerDbm sf duration frequencyMHz) g' out := by
  obtain ⟨interference, hnext, _, hcases⟩ := startReceive_cases hstep
  have hnow : Locked ({ g with now := now, interference := interference } : GatewayLoraPhy K) :=
    locked_quiet h h.distinct (.refl _) rfl rfl (by rw [hnext]; exact Nat.le_succ _)
  have hfresh (next : Nat) (hle : interference.next = next) : ∀ event ∈ arrival g (now,
      .startReceive packet rxPowerDbm sf duration frequencyMHz),
      event.id = g.interference.next ∧ event.id < next := by
    intro event hevent
    obtain rfl := Option.some.inj hevent
    exact ⟨rfl, by rw [← hle, hnext]; exact Nat.lt_succ_self _⟩
  have hle : g.interference.next ≤ interference.next := by
    rw [hnext]
    exact Nat.le_succ _
  rcases hcases with ⟨_, rfl, rfl⟩ | ⟨i, path, hi, hfrequency, havailable, ⟨rfl, rfl⟩ | ⟨rfl, rfl⟩⟩
  · exact ⟨hnow, rfl, .refl _, hle, hfresh _ rfl⟩
  · exact ⟨hnow, rfl, .refl _, hle, hfresh _ rfl⟩
  · refine ⟨?_, ?_, ?_, hle, hfresh _ rfl⟩
    · exact locked_lockPath (h.later now) hi havailable hfrequency rfl hnext
    · exact frequencies_modify _ _ fun _ => rfl
    · change ([_] ++ receiving g.queue).Perm ([] ++ receiving (EventQueue.schedule _ g.queue))
      rw [receiving_schedule]
      exact (List.perm_append_singleton _ _).symm

theorem stepped_send (h : Locked g) {now : Time} {size : UInt32} {txParams : LoraTxParameters K}
    {frequencyMHz txPowerDbm : K}
    (hstep : machine radio g (now, .send size txParams frequencyMHz txPowerDbm) = some (g', out)) :
    Stepped g (now, .send size txParams frequencyMHz txPowerDbm) g' out := by
  obtain ⟨g₁, hsend, hpair⟩ := Option.map_eq_some_iff.mp hstep
  cases hpair
  obtain ⟨⟨event, interference⟩, hadd, rfl⟩ := Option.map_eq_some_iff.mp hsend
  obtain ⟨_, hnext⟩ := add_eq_some hadd
  have hreceiving :
      receiving (EventQueue.schedule (now + getOnAirTime radio.clock size txParams, .txFinished) g.queue) =
        receiving g.queue := (receiving_schedule _ _).trans (List.append_nil _)
  have hle : g.interference.next ≤ interference.next := by
    rw [hnext]
    exact Nat.le_succ _
  refine ⟨locked_quiet h (distinct_schedule h.distinct _) (.of_eq hreceiving) rfl rfl hle, rfl, ?_, hle,
    nofun⟩
  change (receiving g.queue).Perm (receiving (EventQueue.schedule _ g.queue))
  rw [hreceiving]

theorem stepped_run (h : Locked g) {now : Time} {id : Nat}
    (hstep : machine radio g (now, .run id) = some (g', out)) : Stepped g (now, .run id) g' out := by
  rw [machine] at hstep
  dsimp only at hstep
  split at hstep
  · cases hstep
    exact ⟨h.later now, rfl, .refl _, le_refl _, nofun⟩
  · next entry hfind =>
      obtain ⟨hmem, rfl⟩ := find_eq_some hfind
      have hcancel := receiving_cancel h.distinct hmem
      cases hcall : entry.call.2 with
      | txFinished =>
          rw [hcall] at hstep hcancel
          cases hstep
          have hquiet : Locked ({ g with
              now := now
              isTransmitting := false
              queue := cancel (some entry.id) g.queue } : GatewayLoraPhy K) :=
            locked_quiet h (distinct_cancel h.distinct _) hcancel.symm rfl rfl (le_refl _)
          exact ⟨hquiet, rfl, hcancel, le_refl _, nofun⟩
      | endReceive packet event =>
          rw [hcall] at hstep hcancel
          obtain ⟨destroyed, _, hpair⟩ := Option.map_eq_some_iff.mp hstep
          cases hpair
          obtain ⟨hqueue, hinterference, _⟩ := freePath_frame event
            { g with now := now, queue := cancel (some entry.id) g.queue }
          refine ⟨locked_freePath (h.later now) hmem hcall, ?_, ?_, ?_, nofun⟩
          · rw [GatewayLoraPhy.freePath]
            split
            · rfl
            · exact frequencies_modify _ _ fun _ => rfl
          · rw [hqueue]
            exact hcancel
          · rw [hinterference]

theorem machine_spec (h : Locked g) (hstep : machine radio g e = some (g', out)) : Stepped g e g' out := by
  obtain ⟨now, e⟩ := e
  cases e with
  | startReceive packet rxPowerDbm sf duration frequencyMHz => exact stepped_startReceive h hstep
  | send size txParams frequencyMHz txPowerDbm => exact stepped_send h hstep
  | run id => exact stepped_run h hstep

end Runs

end UavMonitoring.GatewayPhy
