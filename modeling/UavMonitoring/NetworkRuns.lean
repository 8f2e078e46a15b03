import UavMonitoring.NetworkServer

namespace UavMonitoring.NetworkRuns

open Basics DeviceAddress MacCommands FrameHeader SubBands EventQueue Runs Spacing GatewayPhy NetworkServer
open EuRegion

variable {K A : Type} [Field K] [LinearOrder K]

abbrev Steps (K A : Type) [Field K] [LinearOrder K] :=
  List (Transition (Network K A) (Time × NetworkServer.Input K A) (Option (NetworkServer.Outcome K A)))

scoped instance neZero_two : NeZero 2 := ⟨by decide⟩

def euServer : NetworkServer.Setting ℚ (Fin 2) := ⟨GatewayRuns.euRadio, littleEndian, euRegion, byInsertion⟩

def address₂ : LoraDeviceAddress := .set 2067

def euNetwork : Network ℚ (Fin 2) :=
  .install [(0, euChannelHelper, GatewayRuns.euFrequencies), (1, euChannelHelper, GatewayRuns.euFrequencies)]
    [address, address₂]

def confirmedUplink (address : LoraDeviceAddress) : List UInt8 :=
  LoraMacHeader.serialize ⟨MType.confirmedDataUp.code, 1⟩ ::
    ((addHeader littleEndian (euMac address).uplinkHeader [1, 2, 3]).getD [])

def euWindows : Windows ℚ := ⟨some 0, 0, 869.525⟩

/-- A packet that both gateways hear and the reply to it, and the same for the other device
once the duty cycle lets a gateway send again. -/
def answered : List (Time × NetworkServer.Input ℚ (Fin 2)) :=
  [(1000000000, .receive 0 (confirmedUplink address) (-100) 868.1),
    (1000000000, .receive 1 (confirmedUplink address) (-90) 868.1), (2000000000, .run 0 euWindows 500000),
    (2000500000, .run 1 euWindows 0), (3319412000, .runGateway 1 0),
    (200000000000, .receive 1 (confirmedUplink address₂) (-90) 868.3), (201000000000, .run 2 euWindows 500000),
    (201000500000, .run 3 euWindows 0), (202319412000, .runGateway 1 1)]

def answeredTransitions : Steps ℚ (Fin 2) := transitions (machine euServer) euNetwork answered

section Install

variable [DecidableEq A] {gateways : List (A × LogicalLoraChannelHelper K × List K)}
  {endDevices : List LoraDeviceAddress}

structure Untouched (n : Network K A) : Prop where
  now : n.now = 0
  queue : n.queue = EventQueue.empty
  devices : ∀ address, ∀ status ∈ n.deviceStatuses address, status = .new
  gateways : ∀ gateway, ∀ status ∈ n.gatewayStatuses gateway, ∃ channelHelper frequencies,
    status = .new channelHelper (GatewayRuns.newGateway frequencies)

theorem untouched_addGateway {n : Network K A} (h : Untouched n) (gateway : A)
    (channelHelper : LogicalLoraChannelHelper K) (frequencies : List K) :
    Untouched (n.addGateway gateway channelHelper (GatewayRuns.newGateway frequencies)) := by
  rw [Network.addGateway]
  split
  · exact h
  · refine ⟨h.now, h.queue, h.devices, fun other status hstatus => ?_⟩
    rw [Network.gatewayStatuses_setGateway] at hstatus
    split at hstatus
    · exact ⟨channelHelper, frequencies, (Option.some.inj hstatus).symm⟩
    · exact h.gateways other status hstatus

omit [DecidableEq A] in
theorem untouched_addNode {n : Network K A} (h : Untouched n) (address : LoraDeviceAddress) :
    Untouched (n.addNode address) := by
  rw [Network.addNode]
  split
  · exact h
  · refine ⟨h.now, h.queue, fun other status hstatus => ?_, h.gateways⟩
    rw [Network.deviceStatuses_setDevice] at hstatus
    split at hstatus
    · exact (Option.some.inj hstatus).symm
    · exact h.devices other status hstatus

theorem untouched_install : Untouched (Network.install gateways endDevices) := by
  have hempty : Untouched (⟨0, fun _ => none, fun _ => none, EventQueue.empty⟩ : Network K A) :=
    ⟨rfl, rfl, nofun, nofun⟩
  refine List.foldlRecOn endDevices _ ?_ fun n h address _ => untouched_addNode h address
  exact List.foldlRecOn gateways _ hempty fun n h gateway _ => untouched_addGateway h _ _ _

end Install

section Order

def Due (n : Network K A) (e : Time × NetworkServer.Input K A) : Prop :=
  match e.2 with
  | .run id _ _ => ∃ entry ∈ find id n.queue, entry.call.1 = e.1
  | .runGateway gateway id => ∃ status ∈ n.gatewayStatuses gateway, ∃ entry ∈ find id status.phy.queue,
      entry.call.1 = e.1
  | _ => True

/-- Time goes on, no further than to what the server or a gateway is to do next. -/
structure Timely (n : Network K A) (e : Time × NetworkServer.Input K A) : Prop where
  later : n.now ≤ e.1
  first : ∀ entry ∈ n.queue.pending, e.1 ≤ entry.call.1
  gateways : ∀ gateway, ∀ status ∈ n.gatewayStatuses gateway, ∀ entry ∈ status.phy.queue.pending,
    e.1 ≤ entry.call.1
  due : Due n e

instance (n : Network K A) : (e : Time × NetworkServer.Input K A) → Decidable (Due n e)
  | (_, .run id _ _) => inferInstanceAs (Decidable (∃ entry ∈ find id n.queue, _))
  | (_, .runGateway gateway _) => inferInstanceAs (Decidable (∃ status ∈ n.gatewayStatuses gateway, _))
  | (_, .receive _ _ _ _) => .isTrue trivial
  | (_, .startReceive _ _ _ _ _ _) => .isTrue trivial

instance [Fintype A] (n : Network K A) (e : Time × NetworkServer.Input K A) : Decidable (Timely n e) :=
  decidable_of_iff (n.now ≤ e.1 ∧ (∀ entry ∈ n.queue.pending, e.1 ≤ entry.call.1) ∧
    (∀ gateway, ∀ status ∈ n.gatewayStatuses gateway, ∀ entry ∈ status.phy.queue.pending, e.1 ≤ entry.call.1) ∧
    Due n e)
    ⟨fun ⟨later, first, gateways, due⟩ => ⟨later, first, gateways, due⟩,
      fun h => ⟨h.later, h.first, h.gateways, h.due⟩⟩

theorem due_run {n : Network K A} {now : Time} {windows : Windows K} {delay : Time}
    {entry : Entry (Time × NetworkServer.Call K A)} (hd : Distinct n.queue) (he : entry ∈ n.queue.pending)
    (h : Due n (now, .run entry.id windows delay)) : entry.call.1 = now := by
  obtain ⟨found, hfind, htime⟩ := h
  obtain ⟨hmem, hid⟩ := find_eq_some hfind
  rwa [eq_of_id hd hmem he hid] at htime

end Order

section Queue

variable [DecidableEq A] [FloorRing K] {cfg : NetworkServer.Setting K A} {n n' : Network K A}
  {e : Time × NetworkServer.Input K A} {out : Option (NetworkServer.Outcome K A)}

theorem distinct_of_stepped (h : Distinct n.queue) (hstep : Stepped cfg n e n' out) : Distinct n'.queue := by
  cases hstep with
  | uplink => exact h
  | confirmed => exact distinct_schedule h _
  | idle => exact h
  | replied pending window _ books =>
      obtain ⟨_, _, _, _, _, _, _, _, _, rfl⟩ := books.sent
      exact distinct_schedule (distinct_cancel h _) _
  | postponed => exact distinct_schedule (distinct_cancel h _) _
  | gaveUp => exact distinct_cancel h _
  | delivered => exact distinct_cancel h _
  | atGateway => exact h

theorem now_of_stepped (hstep : Stepped cfg n e n' out) : n'.now = e.1 := by
  cases hstep with
  | replied pending window _ books =>
      obtain ⟨_, _, _, _, _, _, _, _, _, rfl⟩ := books.sent
      rfl
  | _ => rfl

end Queue

section Requests

variable (cfg : NetworkServer.Setting K A) (address : LoraDeviceAddress)

def confirming : NetworkServer.Input K A → Option LoraDeviceAddress
  | .receive _ packet _ _ => (extractHeaders cfg.platform packet).bind fun
      ((macHdr, frameHdr) : LoraMacHeader × LoraFrameHeader K) =>
      if macHdr.mType = MType.confirmedDataUp.code then some frameHdr.address else none
  | _ => none

def requests (past : Steps K A) : List Time :=
  (past.filter fun t => confirming cfg t.event.2 = some address).map fun t => t.event.1

def decides : NetworkServer.Outcome K A → Bool
  | .replied a _ => a = address
  | .gaveUp a => a = address
  | .transmitted _ _ _ _ => false

def decisions (past : Steps K A) : List Time :=
  (past.filter fun t => t.out.any (decides address)).map fun t => t.event.1

def waiting (q : Queue (Time × NetworkServer.Call K A)) : List (Time × NetworkServer.Call K A) :=
  (calls (fun c => c.2.isFor address) q).map Entry.call

/-- A request is answered in the first window or the second, and no other one is. -/
inductive Answered : Option Time → List (Time × NetworkServer.Call K A) → List Time → Prop
  | unasked : Answered none [] []
  | first (asked : Time) : Answered (some asked) [(asked + seconds 1, .sendOnFirstWindow address)] []
  | second (asked : Time) : Answered (some asked) [(asked + seconds 2, .sendOnSecondWindow address)] []
  | decided (asked decision : Time) (h : decision = asked + seconds 1 ∨ decision = asked + seconds 2) :
      Answered (some asked) [] [decision]

structure Served (past : Steps K A) (n : Network K A) : Prop where
  distinct : Distinct n.queue
  answered : Answered address (requests cfg address past).head? (waiting address n.queue) (decisions address past)
  reply : ∀ status ∈ n.deviceStatuses address, status.reply.isSome ↔ requests cfg address past ≠ []

variable {cfg address} {n n' : Network K A} {e : Time × NetworkServer.Input K A}
  {out : Option (NetworkServer.Outcome K A)} {past : Steps K A}

theorem requests_concat : requests cfg address (past ++ [⟨n, e, n', out⟩]) =
    requests cfg address past ++ if confirming cfg e.2 = some address then [e.1] else [] := by
  rw [requests, List.filter_append, List.map_append]
  by_cases h : confirming cfg e.2 = some address <;> simp [requests, h]

theorem decisions_concat : decisions address (past ++ [⟨n, e, n', out⟩]) =
    decisions address past ++ if out.any (decides address) then [e.1] else [] := by
  rw [decisions, List.filter_append, List.map_append]
  cases h : out.any (decides address) <;> simp [decisions, h]

omit [Field K] [LinearOrder K] in
theorem waiting_schedule (call : Time × NetworkServer.Call K A) (q : Queue (Time × NetworkServer.Call K A)) :
    waiting address (schedule call q) = waiting address q ++ if call.2.isFor address then [call] else [] := by
  rw [waiting, calls_schedule, List.map_append]
  cases call.2.isFor address <;> rfl

omit [Field K] [LinearOrder K] in
theorem isFor_other {asker : LoraDeviceAddress} {call : NetworkServer.Call K A} (hfor : call.isFor asker)
    (hother : asker ≠ address) : call.isFor address = false := by
  cases call with
  | deliver => rfl
  | sendOnFirstWindow _ | sendOnSecondWindow _ =>
      obtain rfl := of_decide_eq_true hfor
      exact decide_eq_false hother

omit [Field K] [LinearOrder K] in
theorem mem_waiting {q : Queue (Time × NetworkServer.Call K A)} {entry : Entry (Time × NetworkServer.Call K A)}
    (he : entry ∈ q.pending) (hfor : entry.call.2.isFor address) : entry.call ∈ waiting address q :=
  List.mem_map_of_mem (mem_calls.mpr ⟨he, hfor⟩)

omit [Field K] [LinearOrder K] in
theorem waiting_cancel {q : Queue (Time × NetworkServer.Call K A)} {entry : Entry (Time × NetworkServer.Call K A)}
    (he : entry ∈ q.pending) (hfor : entry.call.2.isFor address) {call : Time × NetworkServer.Call K A}
    (hone : waiting address q = [call]) :
    entry.call = call ∧ waiting address (cancel (some entry.id) q) = [] := by
  obtain ⟨hcall, hnone⟩ := calls_cancel_single (p := fun c => c.2.isFor address) he hfor hone
  exact ⟨hcall, by rw [waiting, hnone, List.map_nil]⟩

omit [Field K] [LinearOrder K] in
theorem waiting_cancel_other {q : Queue (Time × NetworkServer.Call K A)}
    {entry : Entry (Time × NetworkServer.Call K A)} (hd : Distinct q) (he : entry ∈ q.pending)
    (hfor : entry.call.2.isFor address = false) :
    waiting address (cancel (some entry.id) q) = waiting address q := by
  rw [waiting, calls_cancel_other hd he hfor, waiting]

omit [Field K] [LinearOrder K] in
theorem Answered.waiting_of {asked : Option Time} {q : Queue (Time × NetworkServer.Call K A)} {decided : List Time}
    (h : Answered address asked (waiting address q) decided) {entry : Entry (Time × NetworkServer.Call K A)}
    (he : entry ∈ q.pending) (hfor : entry.call.2.isFor address) :
    ∃ request, asked = some request ∧ decided = [] ∧ waiting address (cancel (some entry.id) q) = [] ∧
      (entry.call = (request + seconds 1, .sendOnFirstWindow address) ∨
        entry.call = (request + seconds 2, .sendOnSecondWindow address)) := by
  have hmem := mem_waiting he hfor
  generalize hw : waiting address q = w at h hmem
  cases h with
  | unasked => cases hmem
  | first request =>
      obtain ⟨hcall, hnone⟩ := waiting_cancel he hfor hw
      exact ⟨request, rfl, rfl, hnone, .inl hcall⟩
  | second request =>
      obtain ⟨hcall, hnone⟩ := waiting_cancel he hfor hw
      exact ⟨request, rfl, rfl, hnone, .inr hcall⟩
  | decided => cases hmem

theorem Served.quiet (h : Served cfg address past n) (hdistinct : Distinct n'.queue)
    (hwaiting : waiting address n'.queue = waiting address n.queue) (hout : out.any (decides address) = false)
    (hreply : ∀ status' ∈ n'.deviceStatuses address, ∃ status ∈ n.deviceStatuses address,
      status'.reply.isSome = status.reply.isSome)
    (hasked : confirming cfg e.2 = some address → requests cfg address past ≠ []) :
    Served cfg address (past ++ [⟨n, e, n', out⟩]) n' := by
  have hrequests : (requests cfg address (past ++ [⟨n, e, n', out⟩])).head? = (requests cfg address past).head? ∧
      (requests cfg address (past ++ [⟨n, e, n', out⟩]) ≠ [] ↔ requests cfg address past ≠ []) := by
    rw [requests_concat]
    split
    · next hconfirming =>
        obtain ⟨first, rest, hcons⟩ := List.exists_cons_of_ne_nil (hasked hconfirming)
        simp [hcons]
    · simp
  refine ⟨hdistinct, ?_, fun status' hstatus' => ?_⟩
  · rw [hrequests.1, hwaiting, decisions_concat, hout, if_neg Bool.false_ne_true, List.append_nil]
    exact h.answered
  · obtain ⟨status, hstatus, hsame⟩ := hreply status' hstatus'
    rw [hrequests.2, hsame]
    exact h.reply status hstatus

end Requests

section Served

variable [DecidableEq A] {cfg : NetworkServer.Setting K A} {address : LoraDeviceAddress}
  {n n' : Network K A} {e : Time × NetworkServer.Input K A} {out : Option (NetworkServer.Outcome K A)}
  {past : Steps K A}

theorem served_uplink {now : Time} {gateway : A} {packet : List UInt8} {rcvPower frequency : K}
    {macHdr : LoraMacHeader} {frameHdr : LoraFrameHeader K} {status : DeviceStatus K A}
    (h : Served cfg address past n) (headers : extractHeaders cfg.platform packet = some (macHdr, frameHdr))
    (known : n.deviceStatuses frameHdr.address = some status)
    (quiet : ¬ (macHdr.mType = MType.confirmedDataUp.code ∧ status.reply.isNone)) :
    Served cfg address (past ++ [⟨n, (now, .receive gateway packet rcvPower frequency),
      { n with now := now }.setDevice frameHdr.address (status.updateGatewayData gateway rcvPower), none⟩])
      ({ n with now := now }.setDevice frameHdr.address (status.updateGatewayData gateway rcvPower)) := by
  refine h.quiet h.distinct rfl rfl (fun status' hstatus' => ?_) fun hconfirming => ?_
  · rw [Network.deviceStatuses_setDevice] at hstatus'
    split at hstatus'
    · next haddress =>
        obtain rfl := Option.some.inj hstatus'
        exact ⟨status, haddress ▸ known, rfl⟩
    · exact ⟨status', hstatus', rfl⟩
  · rw [confirming, headers, Option.bind_some] at hconfirming
    dsimp only at hconfirming
    split at hconfirming
    · next hconfirmed =>
        obtain rfl := Option.some.inj hconfirming
        refine (h.reply status known).mp (Option.isSome_iff_ne_none.mpr fun hnone => quiet ⟨hconfirmed, ?_⟩)
        rw [hnone]
        rfl
    · cases hconfirming

theorem served_confirmed {now : Time} {gateway : A} {packet : List UInt8} {rcvPower frequency : K}
    {macHdr : LoraMacHeader} {frameHdr : LoraFrameHeader K} {status : DeviceStatus K A}
    (h : Served cfg address past n) (headers : extractHeaders cfg.platform packet = some (macHdr, frameHdr))
    (known : n.deviceStatuses frameHdr.address = some status)
    (confirmed : macHdr.mType = MType.confirmedDataUp.code) (unanswered : status.reply = none)
    (hn' : n' = ({ n with now := now }.setDevice frameHdr.address { status.updateGatewayData gateway rcvPower with
      reply := some (.acknowledge frameHdr.address), firstReceiveWindowFrequency := some frequency }).schedule
      (seconds 1) (.sendOnFirstWindow frameHdr.address)) :
    Served cfg address (past ++ [⟨n, (now, .receive gateway packet rcvPower frequency), n', none⟩]) n' := by
  have hconfirming : confirming cfg (.receive gateway packet rcvPower frequency) = some frameHdr.address := by
    rw [confirming, headers, Option.bind_some]
    exact if_pos confirmed
  have hqueue : n'.queue = schedule (now + seconds 1, .sendOnFirstWindow frameHdr.address) n.queue := by
    rw [hn']
    rfl
  have hdistinct : Distinct n'.queue := hqueue ▸ distinct_schedule h.distinct _
  have hdevices (other : LoraDeviceAddress) (hother : other ≠ frameHdr.address) :
      n'.deviceStatuses other = n.deviceStatuses other := by
    rw [hn']
    exact (Network.deviceStatuses_setDevice _ _ _ _).trans (if_neg hother)
  by_cases haddress : address = frameHdr.address
  · subst haddress
    have hnone : requests cfg frameHdr.address past = [] := by
      by_contra hne
      have := (h.reply status known).mpr hne
      rw [unanswered] at this
      cases this
    have hanswered := h.answered
    rw [hnone] at hanswered
    refine ⟨hdistinct, ?_, fun status' hstatus' => ?_⟩
    · rw [requests_concat, decisions_concat, hnone, hconfirming, if_pos rfl, hqueue, waiting_schedule,
        if_pos (by simp [NetworkServer.Call.isFor])]
      generalize waiting frameHdr.address n.queue = w at hanswered
      generalize decisions frameHdr.address past = ds at hanswered
      cases hanswered
      exact .first now
    · rw [requests_concat, hconfirming, if_pos rfl]
      rw [hn'] at hstatus'
      rw [← Option.some.inj
        (((Network.deviceStatuses_setDevice _ _ _ _).trans (if_pos rfl)).symm.trans hstatus')]
      simp
  · refine h.quiet hdistinct ?_ rfl ?_ ?_
    · rw [hqueue, waiting_schedule, if_neg (by simpa [NetworkServer.Call.isFor] using Ne.symm haddress),
        List.append_nil]
    · rw [hdevices address haddress]
      exact fun status' hstatus' => ⟨status', hstatus', rfl⟩
    · rw [hconfirming]
      exact fun hsame => absurd (Option.some.inj hsame).symm haddress

omit [DecidableEq A] in
theorem served_decided {entry : Entry (Time × NetworkServer.Call K A)} {asker : LoraDeviceAddress}
    (h : Served cfg address past n) (he : entry ∈ n.queue.pending) (hfor : entry.call.2.isFor asker)
    (htime : entry.call.1 = e.1) (hdistinct : Distinct n'.queue)
    (hwaiting : waiting address n'.queue = waiting address (cancel (some entry.id) n.queue))
    (hout : out.any (decides address) = decide (asker = address))
    (hdevices : n'.deviceStatuses = n.deviceStatuses) (hrun : confirming cfg e.2 = none) :
    Served cfg address (past ++ [⟨n, e, n', out⟩]) n' := by
  by_cases haddress : asker = address
  · subst haddress
    obtain ⟨request, hasked, hnone, hrest, hcall⟩ := h.answered.waiting_of he hfor
    have hsame : requests cfg asker (past ++ [⟨n, e, n', out⟩]) = requests cfg asker past := by
      rw [requests_concat, hrun, if_neg (Option.some_ne_none _).symm, List.append_nil]
    refine ⟨hdistinct, ?_, ?_⟩
    · rw [hsame, hasked, hwaiting, hrest, decisions_concat, hnone, hout, if_pos (decide_eq_true rfl),
        List.nil_append]
      refine .decided request e.1 ?_
      rcases hcall with hcall | hcall
      · exact .inl (htime.symm.trans (congrArg Prod.fst hcall))
      · exact .inr (htime.symm.trans (congrArg Prod.fst hcall))
    · rw [hsame, hdevices]
      exact h.reply
  · refine h.quiet hdistinct ?_ (hout.trans (decide_eq_false haddress)) ?_ ?_
    · rw [hwaiting, waiting_cancel_other h.distinct he (isFor_other hfor haddress)]
    · rw [hdevices]
      exact fun status hstatus => ⟨status, hstatus, rfl⟩
    · rw [hrun]
      nofun

omit [DecidableEq A] in
theorem served_postponed {entry : Entry (Time × NetworkServer.Call K A)} {asker : LoraDeviceAddress}
    (h : Served cfg address past n) (he : entry ∈ n.queue.pending)
    (hcall : entry.call.2 = .sendOnFirstWindow asker) (htime : entry.call.1 = e.1)
    (hqueue : n'.queue = schedule (e.1 + seconds 1, .sendOnSecondWindow asker) (cancel (some entry.id) n.queue))
    (hdevices : n'.deviceStatuses = n.deviceStatuses) (hrun : confirming cfg e.2 = none) :
    Served cfg address (past ++ [⟨n, e, n', none⟩]) n' := by
  have hfor : entry.call.2.isFor asker := by simp [hcall, NetworkServer.Call.isFor]
  have hdistinct : Distinct n'.queue := hqueue ▸ distinct_schedule (distinct_cancel h.distinct _) _
  by_cases haddress : asker = address
  · subst haddress
    obtain ⟨request, hasked, hnone, hrest, hwhich⟩ := h.answered.waiting_of he hfor
    have hsame : requests cfg asker (past ++ [⟨n, e, n', none⟩]) = requests cfg asker past := by
      rw [requests_concat, hrun, if_neg (Option.some_ne_none _).symm, List.append_nil]
    refine ⟨hdistinct, ?_, ?_⟩
    · rw [hsame, hasked, decisions_concat, hnone, hqueue, waiting_schedule, hrest,
        if_pos (by simp [NetworkServer.Call.isFor])]
      rcases hwhich with hfirst | hsecond
      · have hlater : e.1 + seconds 1 = request + seconds 2 := by
          rw [← htime, hfirst, add_assoc]
          rfl
        rw [hlater]
        exact .second request
      · rw [hsecond] at hcall
        cases hcall
    · rw [hsame, hdevices]
      exact h.reply
  · refine h.quiet hdistinct ?_ rfl ?_ ?_
    · rw [hqueue, waiting_schedule, if_neg (by simpa [NetworkServer.Call.isFor] using haddress), List.append_nil,
        waiting_cancel_other h.distinct he (isFor_other hfor haddress)]
    · rw [hdevices]
      exact fun status hstatus => ⟨status, hstatus, rfl⟩
    · intro hasks
      rw [hrun] at hasks
      cases hasks

theorem served_step [FloorRing K] (h : Served cfg address past n) (htimely : Timely n e)
    (hstep : machine cfg n e = some (n', out)) : Served cfg address (past ++ [⟨n, e, n', out⟩]) n' := by
  have hkept (m : Network K A) (hqueue : m.queue = n.queue) (hdevices : m.deviceStatuses = n.deviceStatuses)
      (hrun : confirming cfg e.2 = none) : Served cfg address (past ++ [⟨n, e, m, none⟩]) m := by
    refine h.quiet (hqueue ▸ h.distinct) (by rw [hqueue]) rfl ?_ fun hasks => ?_
    · rw [hdevices]
      exact fun status hstatus => ⟨status, hstatus, rfl⟩
    · rw [hrun] at hasks
      cases hasks
  have hdistinct := distinct_of_stepped h.distinct (stepped_of_machine hstep)
  cases stepped_of_machine hstep with
  | uplink headers known quiet => exact served_uplink h headers known quiet
  | confirmed headers known confirmed unanswered => exact served_confirmed h headers known confirmed unanswered rfl
  | idle => exact hkept _ rfl rfl rfl
  | replied pending window _ books =>
      obtain ⟨_, _, _, _, _, _, _, _, _, rfl⟩ := books.sent
      refine served_decided h pending window (due_run h.distinct pending htimely.due) hdistinct ?_ rfl rfl rfl
      exact (waiting_schedule _ _).trans (List.append_nil _)
  | postponed pending window =>
      exact served_postponed h pending window (due_run h.distinct pending htimely.due) rfl rfl rfl
  | gaveUp pending window =>
      refine served_decided h pending ?_ (due_run h.distinct pending htimely.due) hdistinct rfl rfl rfl rfl
      simp [window, NetworkServer.Call.isFor]
  | delivered pending flight =>
      refine h.quiet hdistinct ?_ rfl (fun status hstatus => ⟨status, hstatus, rfl⟩) fun hasks => ?_
      · exact waiting_cancel_other h.distinct pending (by simp [flight, NetworkServer.Call.isFor])
      · cases hasks
  | @atGateway _ input _ _ _ _ _ asked =>
      refine hkept _ rfl rfl ?_
      cases input with
      | startReceive | runGateway => rfl
      | receive | run => cases asked

variable [FloorRing K] {gateways : List (A × LogicalLoraChannelHelper K × List K)}
  {endDevices : List LoraDeviceAddress} {es : List (Time × NetworkServer.Input K A)} {rest : Steps K A}
  {t : Transition (Network K A) (Time × NetworkServer.Input K A) (Option (NetworkServer.Outcome K A))}

theorem served_of_run (hrun : transitions (machine cfg) (.install gateways endDevices) es = past ++ t :: rest)
    (htimely : ∀ a ∈ past, Timely a.pre a.event) : Served cfg address past t.pre := by
  refine history_invariant (fun past n => (∀ a ∈ past, Timely a.pre a.event) → Served cfg address past n)
    (fun past n e n' out ih hstep hall => ?_) (fun _ => ?_) hrun htimely
  · rw [List.forall_mem_append, List.forall_mem_singleton] at hall
    exact served_step (ih hall.1) hall.2 hstep
  · have hstart : Untouched (Network.install gateways endDevices) := untouched_install
    refine ⟨?_, ?_, fun status hstatus => ?_⟩
    · rw [hstart.queue]
      exact ⟨fresh_empty, List.nodup_nil⟩
    · rw [hstart.queue]
      exact .unasked
    · rw [hstart.devices address status hstatus]
      exact iff_of_false nofun fun h => h rfl

/-- The server makes up its mind about a device just once, a second or two after its first
confirmed packet has come, and never about one that has sent none. -/
theorem decided_once (hrun : transitions (machine cfg) (.install gateways endDevices) es = past ++ t :: rest)
    (htimely : ∀ a ∈ past, Timely a.pre a.event) (hnext : Timely t.pre t.event) :
    (requests cfg address past = [] → decisions address past = []) ∧
      ∀ asked ∈ (requests cfg address past).head?,
        (decisions address past).length ≤ 1 ∧
        (∀ decision ∈ decisions address past, decision = asked + seconds 1 ∨ decision = asked + seconds 2) ∧
        (asked + seconds 2 < t.event.1 → (decisions address past).length = 1) := by
  have hserved : Served cfg address past t.pre := served_of_run hrun htimely
  have hoverdue : ∀ call ∈ waiting address t.pre.queue, t.event.1 ≤ call.1 := by
    intro call hcall
    obtain ⟨entry, hentry, rfl⟩ := List.mem_map.mp hcall
    exact hnext.first entry (mem_calls.mp hentry).1
  have hanswered := hserved.answered
  generalize waiting address t.pre.queue = w at hanswered hoverdue
  generalize decisions address past = ds at hanswered ⊢
  refine ⟨fun hnone => ?_, fun asked hasked => ?_⟩
  · rw [hnone] at hanswered
    cases hanswered
    rfl
  · rw [Option.mem_def.mp hasked] at hanswered
    cases hanswered with
    | first =>
        refine ⟨Nat.zero_le _, nofun, fun hlate => ?_⟩
        have hdue := hoverdue _ (List.mem_singleton_self _)
        have hless : asked + seconds 1 < asked + seconds 2 := Int.add_lt_add_left (by decide) _
        exact absurd hlate (lt_asymm (hdue.trans_lt hless))
    | second =>
        have hdue := hoverdue _ (List.mem_singleton_self _)
        exact ⟨Nat.zero_le _, nofun, fun hlate => absurd hlate (not_lt.mpr hdue)⟩
    | decided _ _ hwhen =>
        exact ⟨le_refl _, List.forall_mem_singleton.mpr hwhen, fun _ => rfl⟩

theorem decided_once_answered :
    requests euServer EuRegion.address (answeredTransitions.take 5) = [1000000000, 1000000000] ∧
      (decisions EuRegion.address (answeredTransitions.take 5)).length = 1 := by
  have hasked : requests euServer EuRegion.address (answeredTransitions.take 5) = [1000000000, 1000000000] := by
    decide +kernel
  have htimely : ∀ a ∈ answeredTransitions, Timely a.pre a.event := by decide +kernel
  have hlate : ∃ t ∈ answeredTransitions[5]?, (1000000000 : Time) + seconds 2 < t.event.1 := by decide +kernel
  obtain ⟨t, ht, hlate⟩ := hlate
  have hfirst : 1000000000 ∈ (requests euServer EuRegion.address (answeredTransitions.take 5)).head? := by
    rw [hasked]
    rfl
  have hdecided := (decided_once (split_getElem? ht) (fun a ha => htimely a (List.mem_of_mem_take ha))
    (htimely t (List.mem_of_getElem? ht))).2 1000000000 hfirst
  exact ⟨hasked, hdecided.2.2 hlate⟩

end Served

section Strongest

variable (cfg : NetworkServer.Setting K A) (address : LoraDeviceAddress)

def power [DecidableEq A] (gateway : A) : NetworkServer.Input K A → Option K
  | .receive via packet rcvPower _ => (extractHeaders cfg.platform packet).bind fun
      ((_, frameHdr) : LoraMacHeader × LoraFrameHeader K) =>
      if frameHdr.address = address ∧ via = gateway then some rcvPower else none
  | _ => none

def lastPower [DecidableEq A] (gateway : A) (past : Steps K A) : Option K :=
  (past.filterMap fun t => power cfg address gateway t.event.2).getLast?

/-- What is due is a window of a device, and a packet goes out to a gateway on the window's frequency. -/
def RepliesOn (gateway : A) (frequency : K)
    (t : Transition (Network K A) (Time × NetworkServer.Input K A) (Option (NetworkServer.Outcome K A))) : Prop :=
  ∃ entry ∈ t.pre.queue.pending, ∃ windows delay packet dataRate, t.event.2 = .run entry.id windows delay ∧
    entry.call.2.isFor address ∧ t.pre.windowFrequency windows entry.call.2 = some frequency ∧
    t.post.queue = EventQueue.schedule (t.event.1 + delay, .deliver gateway packet dataRate frequency)
      (cancel (some entry.id) t.pre.queue)

def Ranked [DecidableEq A] (past : Steps K A) (n : Network K A) : Prop :=
  ∀ status ∈ n.deviceStatuses address, ∀ gateway power,
    (gateway, power) ∈ status.gateways ↔ lastPower cfg address gateway past = some power

variable [DecidableEq A] {cfg address} {n n' : Network K A} {e : Time × NetworkServer.Input K A}
  {out : Option (NetworkServer.Outcome K A)} {past : Steps K A}

theorem lastPower_concat (gateway : A) : lastPower cfg address gateway (past ++ [⟨n, e, n', out⟩]) =
    (power cfg address gateway e.2).or (lastPower cfg address gateway past) := by
  rw [lastPower, List.filterMap_append]
  cases h : power cfg address gateway e.2 <;> simp [lastPower, h]

theorem ranked_quiet (h : Ranked cfg address past n) (hdevices : n'.deviceStatuses = n.deviceStatuses)
    (hpower : ∀ gateway, power cfg address gateway e.2 = none) :
    Ranked cfg address (past ++ [⟨n, e, n', out⟩]) n' := by
  intro status hstatus gateway power
  rw [lastPower_concat, hpower, Option.none_or]
  exact h status (hdevices ▸ hstatus) gateway power

theorem ranked_heard {now : Time} {via : A} {packet : List UInt8} {rcvPower frequency : K} {macHdr : LoraMacHeader}
    {frameHdr : LoraFrameHeader K} {status updated : DeviceStatus K A} (h : Ranked cfg address past n)
    (headers : extractHeaders cfg.platform packet = some (macHdr, frameHdr))
    (known : n.deviceStatuses frameHdr.address = some status)
    (hgateways : updated.gateways = (status.updateGatewayData via rcvPower).gateways)
    (hdevices : n'.deviceStatuses = Function.update n.deviceStatuses frameHdr.address (some updated)) :
    Ranked cfg address (past ++ [⟨n, (now, .receive via packet rcvPower frequency), n', out⟩]) n' := by
  intro status' hstatus' gateway strength
  have hpower : power cfg address gateway (.receive via packet rcvPower frequency) =
      if frameHdr.address = address ∧ via = gateway then some rcvPower else none := by
    rw [power, headers]
    rfl
  rw [lastPower_concat, hpower]
  rw [hdevices, Function.update_apply] at hstatus'
  by_cases haddress : address = frameHdr.address
  · rw [if_pos haddress] at hstatus'
    obtain rfl := Option.some.inj hstatus'
    rw [hgateways, DeviceStatus.updateGatewayData, List.mem_cons, List.mem_filter,
      h status (haddress ▸ known) gateway strength]
    by_cases hvia : via = gateway
    · simp [haddress, hvia, eq_comm]
    · simp [hvia, Ne.symm hvia]
  · rw [if_neg haddress] at hstatus'
    rw [if_neg fun hboth => haddress hboth.1.symm, Option.none_or]
    exact h status' hstatus' gateway strength

theorem ranked_step [FloorRing K] (h : Ranked cfg address past n) (hstep : machine cfg n e = some (n', out)) :
    Ranked cfg address (past ++ [⟨n, e, n', out⟩]) n' := by
  cases stepped_of_machine hstep with
  | uplink headers known | confirmed headers known =>
      refine ranked_heard h headers known ?_ rfl
      rfl
  | replied pending window _ books =>
      obtain ⟨_, _, _, _, _, _, _, _, _, rfl⟩ := books.sent
      exact ranked_quiet h rfl fun _ => rfl
  | @atGateway _ input _ _ _ _ _ asked =>
      refine ranked_quiet h rfl fun _ => ?_
      cases input with
      | startReceive | runGateway => rfl
      | receive | run => cases asked
  | _ => exact ranked_quiet h rfl fun _ => rfl

theorem strongest_of_first {status : DeviceStatus K A} {gateway : A} {before after : List A}
    (h : ∀ a power, (a, power) ∈ status.gateways ↔ lastPower cfg address a past = some power)
    (hsplit : status.getSortedGatewayAddresses cfg = before ++ gateway :: after) :
    ∃ strength, lastPower cfg address gateway past = some strength ∧
      ∀ other stronger, lastPower cfg address other past = some stronger → strength < stronger →
        other ∈ before := by
  have hmem (a : A) (power : K) : (a, power) ∈ cfg.descending.sort status.gateways ↔
      lastPower cfg address a past = some power :=
    (cfg.descending.perm _).mem_iff.trans (h a power)
  obtain ⟨pairs, tail, hpairs, rfl, htail⟩ := List.map_eq_append_iff.mp hsplit
  obtain ⟨⟨_, strength⟩, weaker, rfl, rfl, rfl⟩ := List.map_eq_cons_iff.mp htail
  have hsorted := cfg.descending.sorted status.gateways
  rw [hpairs, List.pairwise_append, List.pairwise_cons] at hsorted
  refine ⟨strength, (hmem _ _).mp (by rw [hpairs]; simp), fun other stronger hlast hlt => ?_⟩
  have hother := (hmem other stronger).mpr hlast
  rw [hpairs, List.mem_append, List.mem_cons] at hother
  rcases hother with hfirst | hsame | hlater
  · exact List.mem_map_of_mem hfirst
  · cases hsame
    exact absurd hlt (lt_irrefl _)
  · exact absurd hlt (not_lt.mpr (hsorted.2.1.1 _ hlater))

variable [FloorRing K] {gateways : List (A × LogicalLoraChannelHelper K × List K)}
  {endDevices : List LoraDeviceAddress} {es : List (Time × NetworkServer.Input K A)} {rest : Steps K A}
  {t : Transition (Network K A) (Time × NetworkServer.Input K A) (Option (NetworkServer.Outcome K A))}

/-- A reply goes through the gateway that has heard the device best of those that can send. -/
theorem replies_through_best
    (hrun : transitions (machine cfg) (.install gateways endDevices) es = past ++ t :: rest) {gateway : A}
    (hout : t.out = some (.replied address gateway)) :
    ∃ strength frequency, RepliesOn address gateway frequency t ∧
      lastPower cfg address gateway past = some strength ∧
      { t.pre with now := t.event.1 }.Available cfg frequency gateway true ∧
      ∀ other stronger, lastPower cfg address other past = some stronger → strength < stronger →
        { t.pre with now := t.event.1 }.Available cfg frequency other false := by
  have hranked : Ranked cfg address past t.pre := by
    refine history_invariant (Ranked cfg address) (fun _ _ _ _ _ h hstep => ranked_step h hstep) ?_ hrun
    intro status hstatus gateway power
    rw [untouched_install.devices address status hstatus]
    exact iff_of_false nofun nofun
  have ht : t ∈ transitions (machine cfg) (.install gateways endDevices) es := by
    rw [hrun]
    simp
  have hstep := step_of_mem ht
  obtain ⟨n, e, n', out⟩ := t
  subst hout
  have hstepped : Stepped cfg n e n' (some (.replied address gateway)) := stepped_of_machine hstep
  cases hstepped with
  | @replied now windows delay entry _ frequency _ _ pending window tuned books =>
      obtain ⟨_, _, _, packet, dataRate, _, _, _, _, hn'⟩ := books.sent
      have hreplies : RepliesOn address gateway frequency
          ⟨n, (now, .run entry.id windows delay), n', some (.replied address gateway)⟩ :=
        ⟨entry, pending, windows, delay, packet, dataRate, rfl, window, tuned, by rw [hn']; rfl⟩
      obtain ⟨status, before, after, hstatus, hsplit, hfree, hbusy⟩ := books.first
      obtain ⟨strength, hlast, hstronger⟩ := strongest_of_first (hranked status hstatus) hsplit
      exact ⟨strength, frequency, hreplies, hlast, hfree,
        fun other stronger hother hlt => hbusy other (hstronger other stronger hother hlt)⟩

theorem replies_through_best_answered :
    lastPower euServer EuRegion.address 0 (answeredTransitions.take 2) = some (-100) ∧
      lastPower euServer EuRegion.address 1 (answeredTransitions.take 2) = some (-90) ∧
      ∃ t ∈ answeredTransitions, t.out = some (.replied EuRegion.address 1) ∧
        RepliesOn EuRegion.address 1 868.1 t ∧
        { t.pre with now := t.event.1 }.Available euServer 868.1 1 true := by
  have hfirst : ∃ t ∈ answeredTransitions[2]?, t.out = some (.replied EuRegion.address 1) ∧
      ∀ entry ∈ t.pre.queue.pending, t.pre.windowFrequency euWindows entry.call.2 = some (868.1 : ℚ) := by
    decide +kernel
  obtain ⟨t, ht, hout, hfirst⟩ := hfirst
  have hevent : (2000000000, .run 0 euWindows 500000) = t.event := Option.some.inj (event_of_getElem? ht)
  obtain ⟨_, frequency, hreplies, _, hfree, _⟩ := replies_through_best (split_getElem? ht) hout
  have hfrequency : frequency = 868.1 := by
    obtain ⟨entry, hentry, windows, delay, _, _, hrun, _, htuned, _⟩ := hreplies
    obtain ⟨_, rfl, _⟩ := NetworkServer.Input.run.inj ((congrArg Prod.snd hevent).trans hrun)
    exact Option.some.inj (htuned.symm.trans (hfirst entry hentry))
  rw [hfrequency] at hreplies hfree
  exact ⟨by decide +kernel, by decide +kernel, t, List.mem_of_getElem? ht, hout, hreplies, hfree⟩

end Strongest

section Acknowledgements

variable [FloorRing K]

def acknowledged (address : LoraDeviceAddress) (d : EndDevice.Device K) : EndDevice.Device K :=
  if d.mac.address = address then { d with queue := cancel d.secondReceiveWindow d.queue } else d

theorem receive_acknowledge [IsStrictOrderedRing K] {device : EndDevice.Setting K} {address : LoraDeviceAddress}
    {packet : List UInt8}
    (h : DeviceStatus.getReplyPacket device.platform (.acknowledge address : Reply K) = some packet)
    (d : EndDevice.Device K) : d.receive device packet = .ok (acknowledged address d) := by
  have hcounted : Counted (Reply.acknowledge address : Reply K).frameHeader := rfl
  have hshort : optsLen (Reply.acknowledge address : Reply K).frameHeader.macCommands < 8 := Nat.succ_pos 7
  obtain ⟨framed, hadd, rfl⟩ := Option.map_eq_some_iff.mp h
  obtain rfl := Option.some.inj ((addHeader_eq_of_short hcounted hshort (List.replicate 10 0)).symm.trans hadd)
  have hback : removeHeader device.platform false _ = _ :=
    removeHeader_of_faithful hcounted hshort nofun (List.replicate 10 0)
  rw [EndDevice.Device.receive.eq_def]
  dsimp only
  have hdownlink : ¬ (LoraMacHeader.deserialize
      (LoraMacHeader.serialize ⟨MType.unconfirmedDataDown.code, 0⟩)).isUplink := by decide
  rw [if_neg (show
      ¬ (LoraMacHeader.deserialize (Reply.acknowledge address : Reply K).macHeader.serialize).isUplink from
    hdownlink), hback]
  dsimp only
  rw [acknowledged]
  split
  · next haddress =>
      rw [if_pos (show d.mac.address = address from haddress)]
      rfl
  · next haddress => rw [if_neg (show d.mac.address ≠ address from haddress)]

variable [DecidableEq A] {cfg : NetworkServer.Setting K A} {n n' : Network K A}
  {e : Time × NetworkServer.Input K A}
  {out : Option (NetworkServer.Outcome K A)} {past : Steps K A}

def Acknowledges (cfg : NetworkServer.Setting K A) (past : Steps K A) (packet : List UInt8) : Prop :=
  ∃ address, requests cfg address past ≠ [] ∧
    DeviceStatus.getReplyPacket cfg.platform (.acknowledge address : Reply K) = some packet

structure Acknowledging (cfg : NetworkServer.Setting K A) (past : Steps K A) (n : Network K A) : Prop where
  replies : ∀ address, ∀ status ∈ n.deviceStatuses address, ∀ reply ∈ status.reply,
    reply = .acknowledge address ∧ requests cfg address past ≠ []
  flights : ∀ entry ∈ n.queue.pending, ∀ gateway packet dataRate frequency,
    entry.call.2 = .deliver gateway packet dataRate frequency → Acknowledges cfg past packet

omit [DecidableEq A] [FloorRing K] in
theorem requests_mono {address : LoraDeviceAddress} (h : requests cfg address past ≠ []) :
    requests cfg address (past ++ [⟨n, e, n', out⟩]) ≠ [] := by
  rw [requests_concat]
  exact List.append_ne_nil_of_left_ne_nil h _

omit [DecidableEq A] in
theorem Acknowledges.mono {packet : List UInt8} (h : Acknowledges cfg past packet) :
    Acknowledges cfg (past ++ [⟨n, e, n', out⟩]) packet := by
  obtain ⟨address, hasked, hpacket⟩ := h
  exact ⟨address, requests_mono hasked, hpacket⟩

omit [DecidableEq A] in
theorem Acknowledging.kept (h : Acknowledging cfg past n)
    (hreplies : ∀ address, ∀ status ∈ n'.deviceStatuses address, ∀ reply ∈ status.reply,
      (∃ status' ∈ n.deviceStatuses address, reply ∈ status'.reply) ∨
        reply = .acknowledge address ∧ confirming cfg e.2 = some address)
    (hflights : ∀ entry ∈ n'.queue.pending, entry ∈ n.queue.pending ∨
      ∀ gateway packet dataRate frequency, entry.call.2 = .deliver gateway packet dataRate frequency →
        Acknowledges cfg past packet) :
    Acknowledging cfg (past ++ [⟨n, e, n', out⟩]) n' := by
  constructor
  · intro address status hstatus reply hreply
    rcases hreplies address status hstatus reply hreply with ⟨status', hstatus', hreply'⟩ | ⟨heq, hasked⟩
    · obtain ⟨heq, hne⟩ := h.replies address status' hstatus' reply hreply'
      exact ⟨heq, requests_mono hne⟩
    · refine ⟨heq, ?_⟩
      rw [requests_concat, if_pos hasked]
      exact List.append_ne_nil_of_right_ne_nil _ nofun
  · intro entry hentry gateway packet dataRate frequency hcall
    rcases hflights entry hentry with hold | hnew
    · exact (h.flights entry hold gateway packet dataRate frequency hcall).mono
    · exact (hnew gateway packet dataRate frequency hcall).mono

theorem acknowledging_step (h : Acknowledging cfg past n) (hstep : machine cfg n e = some (n', out)) :
    Acknowledging cfg (past ++ [⟨n, e, n', out⟩]) n' := by
  have hold (address : LoraDeviceAddress) (status : DeviceStatus K A) (hstatus : status ∈ n.deviceStatuses address)
      (reply : Reply K) (hreply : reply ∈ status.reply) :
      (∃ status' ∈ n.deviceStatuses address, reply ∈ status'.reply) ∨
        reply = .acknowledge address ∧ confirming cfg e.2 = some address := .inl ⟨status, hstatus, hreply⟩
  cases stepped_of_machine hstep with
  | @uplink _ _ _ _ _ _ _ status headers known =>
      refine h.kept (fun address status' hstatus' reply hreply => .inl ?_) fun _ hentry => .inl hentry
      rw [Network.deviceStatuses_setDevice] at hstatus'
      split at hstatus'
      · next haddress =>
          obtain rfl := Option.some.inj hstatus'
          exact ⟨status, haddress ▸ known, hreply⟩
      · exact ⟨status', hstatus', hreply⟩
  | confirmed headers known confirmed =>
      refine h.kept (fun address status' hstatus' reply hreply => ?_) fun entry hentry => ?_
      · replace hstatus' := (Network.deviceStatuses_setDevice _ _ _ _).symm.trans hstatus'
        split at hstatus'
        · next haddress =>
            obtain rfl := Option.some.inj hstatus'
            obtain rfl := Option.some.inj hreply
            refine .inr ⟨haddress ▸ rfl, ?_⟩
            rw [confirming, headers, haddress]
            exact if_pos confirmed
        · exact .inl ⟨status', hstatus', hreply⟩
      · rcases mem_schedule.mp hentry with hentry | rfl
        · exact .inl hentry
        · exact .inr nofun
  | idle => exact h.kept hold fun _ hentry => .inl hentry
  | replied pending window _ books =>
      obtain ⟨status, _, reply, packet, _, hstatus, _, hreply, hpacket, rfl⟩ := books.sent
      obtain ⟨rfl, hasked⟩ := h.replies _ status hstatus reply hreply
      refine h.kept hold fun entry hentry => ?_
      rcases mem_schedule.mp hentry with hentry | rfl
      · exact .inl (mem_cancel.mp hentry).1
      · refine .inr fun gateway packet' dataRate frequency hcall => ?_
        cases hcall
        exact ⟨_, hasked, hpacket⟩
  | postponed pending window =>
      refine h.kept hold fun entry hentry => ?_
      rcases mem_schedule.mp hentry with hentry | rfl
      · exact .inl (mem_cancel.mp hentry).1
      · exact .inr nofun
  | gaveUp | delivered => exact h.kept hold fun _ hentry => .inl (mem_cancel.mp hentry).1
  | atGateway => exact h.kept hold fun _ hentry => .inl hentry

variable {gateways : List (A × LogicalLoraChannelHelper K × List K)} {endDevices : List LoraDeviceAddress}
  {es : List (Time × NetworkServer.Input K A)} {rest : Steps K A}
  {t : Transition (Network K A) (Time × NetworkServer.Input K A) (Option (NetworkServer.Outcome K A))}

/-- Whatever a gateway puts on the air acknowledges a device that has sent a confirmed packet,
and is nothing to all others. -/
theorem downlinks_acknowledge [IsStrictOrderedRing K]
    (hrun : transitions (machine cfg) (.install gateways endDevices) es = past ++ t :: rest) {gateway : A}
    {packet : List UInt8} {frequency : K} {use : Use Time}
    (hout : t.out = some (.transmitted gateway packet frequency use)) :
    ∃ address, requests cfg address past ≠ [] ∧
      ∀ (device : EndDevice.Setting K) (d : EndDevice.Device K), device.platform = cfg.platform →
        d.receive device packet = .ok (acknowledged address d) := by
  have hinv : Acknowledging cfg past t.pre := by
    refine history_invariant (Acknowledging cfg) (fun _ _ _ _ _ h hstep => acknowledging_step h hstep) ?_ hrun
    have hstart : Untouched (Network.install gateways endDevices) := untouched_install
    refine ⟨fun address status hstatus reply hreply => ?_, ?_⟩
    · rw [hstart.devices address status hstatus] at hreply
      cases hreply
    · rw [hstart.queue]
      nofun
  have ht : t ∈ transitions (machine cfg) (.install gateways endDevices) es := by
    rw [hrun]
    simp
  have hstep := step_of_mem ht
  obtain ⟨n, e, n', out⟩ := t
  subst hout
  have hstepped : Stepped cfg n e n' (some (.transmitted gateway packet frequency use)) :=
    stepped_of_machine hstep
  cases hstepped with
  | delivered pending flight =>
      obtain ⟨address, hasked, hpacket⟩ := hinv.flights _ pending _ _ _ _ flight
      exact ⟨address, hasked, fun device d hplatform => receive_acknowledge (hplatform ▸ hpacket) d⟩

theorem downlinks_acknowledge_answered :
    ∃ packet acked, answeredTransitions[3]?.map Transition.out =
        some (some (.transmitted 1 packet 868.1 ⟨2000500000, 1318912000⟩)) ∧
      requests euServer acked (answeredTransitions.take 3) ≠ [] ∧
      (euDevice EuRegion.address).receive (euSetting littleEndian) packet =
        .ok (acknowledged acked (euDevice EuRegion.address)) := by
  have hout : answeredTransitions[3]?.map Transition.out =
      some (some (.transmitted 1 ([96, 18, 8, 0, 0, 16, 0, 0, 0] ++ List.replicate 10 0) 868.1
        ⟨2000500000, 1318912000⟩)) := by decide +kernel
  obtain ⟨t, ht, htransmitted⟩ := Option.map_eq_some_iff.mp hout
  obtain ⟨acked, hasked, hreceive⟩ := downlinks_acknowledge (split_getElem? ht) htransmitted
  exact ⟨_, acked, hout, hasked, hreceive (euSetting littleEndian) (euDevice EuRegion.address) rfl⟩

end Acknowledgements

end UavMonitoring.NetworkRuns
