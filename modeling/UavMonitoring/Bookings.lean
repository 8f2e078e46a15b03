import UavMonitoring.NetworkRuns

namespace UavMonitoring.Bookings

open Basics DeviceAddress SubBands EventQueue Runs Spacing GatewayPhy NetworkServer NetworkRuns

variable {K A : Type} [Field K] [LinearOrder K]

section Sending

def finishing : GatewayPhy.Call K → Bool
  | .txFinished => true
  | .endReceive _ _ => false

def finishes (q : Queue (Time × GatewayPhy.Call K)) : List (Time × GatewayPhy.Call K) :=
  (calls (fun c => finishing c.2) q).map Entry.call

omit [Field K] [LinearOrder K] in
theorem finishes_schedule (call : Time × GatewayPhy.Call K) (q : Queue (Time × GatewayPhy.Call K)) :
    finishes (schedule call q) = finishes q ++ if finishing call.2 then [call] else [] := by
  rw [finishes, calls_schedule, List.map_append]
  cases finishing call.2 <;> rfl

variable [FloorRing K] {radio : Radio K} {g g' : GatewayLoraPhy K} {now : Time} {input : GatewayPhy.Input K}
  {fate : Option (GatewayPhy.Outcome K)}

theorem finishes_of_machine (hd : Distinct g.queue)
    (hstep : GatewayPhy.machine radio g (now, input) = some (g', fate))
    (hsend : ∀ size txParams frequency txPower, input ≠ .send size txParams frequency txPower) :
    Distinct g'.queue ∧ ((g'.isTransmitting = g.isTransmitting ∧ finishes g'.queue = finishes g.queue) ∨
      ∃ entry ∈ g.queue.pending, input = .run entry.id ∧ finishing entry.call.2 ∧ g'.isTransmitting = false ∧
        g'.queue = cancel (some entry.id) g.queue) := by
  cases input with
  | send size txParams frequency txPower => exact absurd rfl (hsend size txParams frequency txPower)
  | startReceive packet rxPowerDbm sf duration frequencyMHz =>
      obtain ⟨interference, _, _, hcases⟩ := startReceive_cases hstep
      rcases hcases with ⟨_, rfl, _⟩ | ⟨i, path, _, _, _, ⟨rfl, _⟩ | ⟨rfl, _⟩⟩
      · exact ⟨hd, .inl ⟨rfl, rfl⟩⟩
      · exact ⟨hd, .inl ⟨rfl, rfl⟩⟩
      · exact ⟨distinct_schedule hd _, .inl ⟨rfl, (finishes_schedule _ _).trans (List.append_nil _)⟩⟩
  | run id =>
      rw [GatewayPhy.machine] at hstep
      dsimp only at hstep
      split at hstep
      · cases hstep
        exact ⟨hd, .inl ⟨rfl, rfl⟩⟩
      · next entry hfind =>
          obtain ⟨hmem, rfl⟩ := find_eq_some hfind
          cases hcall : entry.call.2 with
          | txFinished =>
              rw [hcall] at hstep
              cases hstep
              exact ⟨distinct_cancel hd _, .inr ⟨entry, hmem, rfl, by rw [hcall]; rfl, rfl, rfl⟩⟩
          | endReceive packet event =>
              rw [hcall] at hstep
              obtain ⟨destroyed, _, hpair⟩ := Option.map_eq_some_iff.mp hstep
              cases hpair
              obtain ⟨hqueue, _, _, hsending⟩ := freePath_frame event
                { g with now := now, queue := cancel (some entry.id) g.queue }
              rw [hqueue, hsending, finishes, calls_cancel_other hd hmem (by rw [hcall]; rfl)]
              exact ⟨distinct_cancel hd _, .inl ⟨rfl, rfl⟩⟩

end Sending

variable [DecidableEq A] (gateway : A)

def flights (q : Queue (Time × NetworkServer.Call K A)) : List (Time × NetworkServer.Call K A) :=
  (calls (fun c => c.2.isTo gateway) q).map Entry.call

def onAir : NetworkServer.Outcome K A → Option (K × Use Time)
  | .transmitted other _ frequency use => if other = gateway then some (frequency, use) else none
  | _ => none

def transmissions (past : Steps K A) : List (K × Use Time) := past.filterMap fun t => t.out.bind (onAir gateway)

/-- A gateway does nothing, or it is booked for a packet that is on its way, or it sends. -/
inductive Phase (now : Time) (uses : List (Use Time)) (status : GatewayStatus K) :
    List (Time × NetworkServer.Call K A) → Prop
  | idle (finishes : finishes status.phy.queue = []) (sending : status.phy.isTransmitting = false)
      (past : ∀ use ∈ uses, use.start + use.length ≤ now) : Phase now uses status []
  | booked {arrival : Time} {packet : List UInt8} {dataRate : UInt8} {frequency : K}
      (guard : arrival < status.nextTransmissionTime + 1000000) (free : status.channelHelper.Free arrival frequency)
      (finishes : finishes status.phy.queue = []) (sending : status.phy.isTransmitting = false)
      (past : ∀ use ∈ uses, use.start + use.length ≤ now) :
      Phase now uses status [(arrival, .deliver gateway packet dataRate frequency)]
  | sending {finish : Time × GatewayPhy.Call K} (finishes : finishes status.phy.queue = [finish])
      (sending : status.phy.isTransmitting = true)
      (past : ∀ use ∈ uses, use.start + use.length ≤ now ∨ use.start + use.length ≤ finish.1) :
      Phase now uses status []

/-- A packet is on its way to a gateway for no longer than `longest`. -/
def Within (longest : Time) (e : Time × NetworkServer.Input K A) : Prop :=
  match e.2 with
  | .run _ _ delay => 0 ≤ delay ∧ delay ≤ longest
  | _ => True

omit [Field K] [LinearOrder K] [DecidableEq A] in
instance (longest : Time) : (e : Time × NetworkServer.Input K A) → Decidable (Within longest e)
  | (_, .run _ _ delay) => inferInstanceAs (Decidable (0 ≤ delay ∧ delay ≤ longest))
  | (_, .runGateway _ _) => .isTrue trivial
  | (_, .receive _ _ _ _) => .isTrue trivial
  | (_, .startReceive _ _ _ _ _ _) => .isTrue trivial

omit [Field K] [LinearOrder K] [DecidableEq A] in
theorem Within.mono {longest longer : Time} {e : Time × NetworkServer.Input K A} (h : Within longest e)
    (hle : longest ≤ longer) : Within longer e := by
  obtain ⟨time, input⟩ := e
  cases input with
  | run => exact ⟨h.1, h.2.trans hle⟩
  | receive | startReceive | runGateway => trivial

structure Apart (clock : Clock K) (channelHelper : LogicalLoraChannelHelper K) (past : Steps K A)
    (n : Network K A) : Prop where
  distinct : Distinct n.queue
  apart : ((transmissions gateway past).map Prod.snd).Pairwise fun a b => a.start + a.length ≤ b.start
  status : ∃ status, n.gatewayStatuses gateway = some status ∧ Distinct status.phy.queue ∧
    Paced clock channelHelper (transmissions gateway past) status.channelHelper ∧
    Phase gateway n.now ((transmissions gateway past).map Prod.snd) status (flights gateway n.queue)

variable {gateway} {cfg : NetworkServer.Setting K A} {n n' : Network K A} {e : Time × NetworkServer.Input K A}
  {out : Option (NetworkServer.Outcome K A)} {past : Steps K A}

omit [Field K] [LinearOrder K] in
theorem flights_schedule (call : Time × NetworkServer.Call K A) (q : Queue (Time × NetworkServer.Call K A)) :
    flights gateway (schedule call q) = flights gateway q ++ if call.2.isTo gateway then [call] else [] := by
  rw [flights, calls_schedule, List.map_append]
  cases call.2.isTo gateway <;> rfl

omit [Field K] [LinearOrder K] in
theorem flights_cancel_other {q : Queue (Time × NetworkServer.Call K A)}
    {entry : Entry (Time × NetworkServer.Call K A)} (hd : Distinct q) (he : entry ∈ q.pending)
    (hto : entry.call.2.isTo gateway = false) :
    flights gateway (cancel (some entry.id) q) = flights gateway q := by
  rw [flights, calls_cancel_other hd he hto, flights]

omit [Field K] [LinearOrder K] in
theorem isTo_of_isFor {address : LoraDeviceAddress} {call : NetworkServer.Call K A} (h : call.isFor address) :
    call.isTo gateway = false := by
  cases call with
  | deliver => cases h
  | sendOnFirstWindow | sendOnSecondWindow => rfl

theorem transmissions_concat : transmissions gateway (past ++ [⟨n, e, n', out⟩]) =
    transmissions gateway past ++ (out.bind (onAir gateway)).toList := by
  rw [transmissions, List.filterMap_append]
  cases h : out.bind (onAir gateway) <;> simp [transmissions, h]

omit [DecidableEq A] in
theorem Phase.later {now later : Time} {uses : List (Use Time)} {status : GatewayStatus K}
    {flights : List (Time × NetworkServer.Call K A)} (h : Phase gateway now uses status flights)
    (hle : now ≤ later) :
    Phase gateway later uses status flights := by
  cases h with
  | idle finishes sending past => exact .idle finishes sending fun use huse => (past use huse).trans hle
  | booked guard free finishes sending past =>
      exact .booked guard free finishes sending fun use huse => (past use huse).trans hle
  | sending finishes sending past =>
      exact .sending finishes sending fun use huse => (past use huse).imp_left fun hend => hend.trans hle

omit [DecidableEq A] in
theorem Phase.congr {now : Time} {uses : List (Use Time)} {status status' : GatewayStatus K}
    {flights : List (Time × NetworkServer.Call K A)} (h : Phase gateway now uses status flights)
    (hnext : status'.nextTransmissionTime = status.nextTransmissionTime)
    (hhelper : status'.channelHelper = status.channelHelper)
    (hfinishes : finishes status'.phy.queue = finishes status.phy.queue)
    (hsending : status'.phy.isTransmitting = status.phy.isTransmitting) :
    Phase gateway now uses status' flights := by
  cases h with
  | idle finishes sending past => exact .idle (hfinishes.trans finishes) (hsending.trans sending) past
  | booked guard free finishes sending past =>
      exact .booked (hnext ▸ guard) (hhelper ▸ free) (hfinishes.trans finishes) (hsending.trans sending) past
  | sending finishes sending past => exact .sending (hfinishes.trans finishes) (hsending.trans sending) past

variable {clock : Clock K} {channelHelper : LogicalLoraChannelHelper K}

theorem Apart.silent (h : Apart gateway clock channelHelper past n) (hdistinct : Distinct n'.queue)
    (hout : out.bind (onAir gateway) = none) {status : GatewayStatus K}
    (hstatus : n'.gatewayStatuses gateway = some status) (hphy : Distinct status.phy.queue)
    (hpaced : Paced clock channelHelper (transmissions gateway past) status.channelHelper)
    (hphase : Phase gateway n'.now ((transmissions gateway past).map Prod.snd) status (flights gateway n'.queue)) :
    Apart gateway clock channelHelper (past ++ [⟨n, e, n', out⟩]) n' := by
  have hsame : transmissions gateway (past ++ [⟨n, e, n', out⟩]) = transmissions gateway past := by
    rw [transmissions_concat, hout]
    exact List.append_nil _
  exact ⟨hdistinct, hsame ▸ h.apart, status, hstatus, hphy, hsame ▸ hpaced, hsame ▸ hphase⟩

theorem Apart.quiet (h : Apart gateway clock channelHelper past n) (hdistinct : Distinct n'.queue)
    (hgateways : n'.gatewayStatuses gateway = n.gatewayStatuses gateway)
    (hflights : flights gateway n'.queue = flights gateway n.queue) (hout : out.bind (onAir gateway) = none)
    (hnow : n.now ≤ n'.now) : Apart gateway clock channelHelper (past ++ [⟨n, e, n', out⟩]) n' := by
  obtain ⟨status, hstatus, hphy, hpaced, hphase⟩ := h.status
  exact h.silent hdistinct hout (hgateways.trans hstatus) hphy hpaced (hflights ▸ hphase.later hnow)

variable [IsStrictOrderedRing K] [FloorRing K]

theorem apart_booked {now delay : Time} {windows : Windows K} {entry : Entry (Time × NetworkServer.Call K A)}
    {address : LoraDeviceAddress} {frequency : K} (h : Apart gateway clock channelHelper past n)
    (htimely : Timely n (now, .run entry.id windows delay)) (hquick : 0 ≤ delay ∧ delay < 1000000)
    (pending : entry ∈ n.queue.pending) (window : entry.call.2.isFor address)
    (books : Books cfg { n with now := now, queue := cancel (some entry.id) n.queue } address frequency delay
      gateway n') :
    Apart gateway clock channelHelper
      (past ++ [⟨n, (now, .run entry.id windows delay), n', some (.replied address gateway)⟩]) n' := by
  obtain ⟨status, hstatus, hphy, hpaced, hphase⟩ := h.status
  obtain ⟨_, booked, _, packet, dataRate, _, hbooked, _, _, rfl⟩ := books.sent
  obtain ⟨_, _, _, _, _, ⟨free, hfree, havailable⟩, _⟩ := books.first
  obtain rfl := Option.some.inj (hstatus.symm.trans hbooked)
  obtain rfl := Option.some.inj (hstatus.symm.trans hfree)
  obtain ⟨hnext, hsending, ⟨subBand, hband, hready⟩⟩ := available_eq_true havailable
  have hlater := htimely.later
  dsimp only at hnext hready hlater
  refine h.silent (distinct_schedule (distinct_cancel h.distinct _) _) rfl
    ((Network.gatewayStatuses_setGateway _ _ _ _).trans (if_pos rfl)) hphy hpaced ?_
  have hflights : flights gateway (schedule (now + delay, .deliver gateway packet dataRate frequency)
      (cancel (some entry.id) n.queue)) =
      flights gateway n.queue ++ [(now + delay, .deliver gateway packet dataRate frequency)] := by
    rw [flights_schedule, if_pos (by simp [NetworkServer.Call.isTo]),
      flights_cancel_other h.distinct pending (isTo_of_isFor window)]
  have hdue (flight : Time × NetworkServer.Call K A) (hflight : flight ∈ flights gateway n.queue) :
      now ≤ flight.1 := by
    obtain ⟨entry, hentry, rfl⟩ := List.mem_map.mp hflight
    exact htimely.first entry (mem_calls.mp hentry).1
  generalize hw : flights gateway n.queue = w at hphase hflights hdue
  cases hphase with
  | idle finishes _ past =>
      refine hflights ▸ .booked ?_ ⟨subBand, hband, ?_⟩ finishes hsending
        fun use huse => (past use huse).trans hlater
      · exact Int.add_lt_add_left hquick.2 _
      · exact hready.trans (le_add_of_nonneg_right hquick.1)
  | booked guard =>
      have hearly := hdue _ (List.mem_singleton_self _)
      have hlate : now < now - 1000000 + 1000000 := hearly.trans_lt (guard.trans_le (add_le_add_left hnext _))
      rw [sub_add_cancel] at hlate
      exact absurd hlate (lt_irrefl _)
  | sending _ sending =>
      rw [hsending] at sending
      cases sending

omit [IsStrictOrderedRing K] [FloorRing K] in
theorem apart_delivered {now delay : Time} {windows : Windows K} {entry : Entry (Time × NetworkServer.Call K A)}
    {packet : List UInt8} {dataRate : UInt8} {frequency : K} {status status' : GatewayStatus K} {use : Use Time}
    (h : Apart gateway cfg.radio.clock channelHelper past n) (htimely : Timely n (now, .run entry.id windows delay))
    (pending : entry ∈ n.queue.pending) (flight : entry.call.2 = .deliver gateway packet dataRate frequency)
    (known : n.gatewayStatuses gateway = some status) (sends : Sends cfg now frequency status status' use)
    (hn' : n' = { n with now := now, queue := cancel (some entry.id) n.queue }.setGateway gateway status') :
    Apart gateway cfg.radio.clock channelHelper (past ++ [⟨n, (now, .run entry.id windows delay), n',
      some (.transmitted gateway packet frequency use)⟩]) n' := by
  obtain ⟨status, hstatus, hphy, hpaced, hphase⟩ := h.status
  obtain rfl := Option.some.inj (hstatus.symm.trans known)
  have htime := due_run h.distinct pending htimely.due
  have hto : entry.call.2.isTo gateway := by simp [flight, NetworkServer.Call.isTo]
  have hmem : entry.call ∈ flights gateway n.queue := List.mem_map_of_mem (mem_calls.mpr ⟨pending, hto⟩)
  generalize hw : flights gateway n.queue = w at hphase hmem
  cases hphase with
  | idle | sending => cases hmem
  | @booked arrival _ _ _ guard free hfinishes _ hpast =>
      obtain ⟨hcall, hnone⟩ := calls_cancel_single (p := fun c => c.2.isTo gateway) pending hto hw
      rw [hcall] at htime flight
      obtain rfl : now = arrival := htime.symm
      cases flight
      have hsent : transmissions gateway (past ++ [⟨n, (now, .run entry.id windows delay), n',
          some (.transmitted gateway packet frequency use)⟩]) =
            transmissions gateway past ++ [(frequency, use)] := by
        rw [transmissions_concat]
        simp [onAir]
      have hend (u : Use Time) (hu : u ∈ (transmissions gateway past).map Prod.snd) :
          u.start + u.length ≤ use.start :=
        (hpast u hu).trans (htimely.later.trans_eq sends.start.symm)
      have hqueue : n'.queue = cancel (some entry.id) n.queue := by
        rw [hn']
        rfl
      have hflights : flights gateway n'.queue = [] := by
        rw [hqueue, flights, hnone, List.map_nil]
      refine ⟨hqueue ▸ distinct_cancel h.distinct _, ?_, status', ?_, ?_, ?_, ?_⟩
      · rw [hsent, List.map_append, List.pairwise_append]
        exact ⟨h.apart, List.pairwise_singleton _ _, fun u hu => List.forall_mem_singleton.mpr (hend u hu)⟩
      · rw [hn']
        exact (Network.gatewayStatuses_setGateway _ _ _ _).trans (if_pos rfl)
      · rw [sends.queue]
        exact distinct_schedule hphy _
      · have huse : use = ⟨now, use.length⟩ := by rw [← sends.start]
        rw [hsent, huse]
        exact paced_addEvent hpaced free sends.event
      · have hfinish : finishes status'.phy.queue = [(now + use.length, .txFinished)] := by
          rw [sends.queue, finishes_schedule, hfinishes]
          rfl
        rw [hflights]
        refine .sending hfinish sends.sending fun u hu => ?_
        rw [hsent, List.map_append] at hu
        rcases List.mem_append.mp hu with hu | hu
        · refine .inl ((hpast u hu).trans (htimely.later.trans_eq ?_))
          rw [hn']
          rfl
        · rw [List.mem_singleton.mp hu, sends.start]
          exact .inr (le_refl _)

omit [IsStrictOrderedRing K] [FloorRing K] [DecidableEq A] in
theorem due_runGateway {now : Time} {input : NetworkServer.Input K A} {id : Nat} {status : GatewayStatus K}
    (h : Due n (now, input)) (asked : input.phyInput = some (gateway, .run id))
    (known : n.gatewayStatuses gateway = some status) (hd : Distinct status.phy.queue)
    {entry : Entry (Time × GatewayPhy.Call K)} (he : entry ∈ status.phy.queue.pending) (hid : entry.id = id) :
    entry.call.1 = now := by
  cases input with
  | receive | run | startReceive => cases asked
  | runGateway _ _ =>
      cases asked
      obtain ⟨found, hfound, due, hdue, htime⟩ := h
      obtain rfl := Option.some.inj (known.symm.trans hfound)
      obtain ⟨hmem, hsame⟩ := find_eq_some hdue
      rwa [eq_of_id hd hmem he (hsame.trans hid.symm)] at htime

omit [IsStrictOrderedRing K] in
theorem apart_atGateway {now : Time} {input : NetworkServer.Input K A} {phyInput : GatewayPhy.Input K}
    {status : GatewayStatus K} {phy : GatewayLoraPhy K} {fate : Option (GatewayPhy.Outcome K)}
    (h : Apart gateway clock channelHelper past n) (htimely : Timely n (now, input))
    (asked : input.phyInput = some (gateway, phyInput)) (known : n.gatewayStatuses gateway = some status)
    (step : GatewayPhy.machine cfg.radio status.phy (now, phyInput) = some (phy, fate))
    (hn' : n' = { n with now := now }.setGateway gateway { status with phy := phy }) :
    Apart gateway clock channelHelper (past ++ [⟨n, (now, input), n', none⟩]) n' := by
  obtain ⟨status, hstatus, hphy, hpaced, hphase⟩ := h.status
  obtain rfl := Option.some.inj (hstatus.symm.trans known)
  have hunsent : ∀ size txParams frequency txPower, phyInput ≠ .send size txParams frequency txPower := by
    rintro size txParams frequency txPower rfl
    cases input <;> cases asked
  obtain ⟨hdistinct, hchange⟩ := finishes_of_machine hphy step hunsent
  have hlater := hphase.later htimely.later
  have hstatus' : n'.gatewayStatuses gateway = some { status with phy := phy } := by
    rw [hn']
    exact (Network.gatewayStatuses_setGateway _ _ _ _).trans (if_pos rfl)
  have hnow : n'.now = now := by rw [hn']; rfl
  have hqueue : n'.queue = n.queue := by rw [hn']; rfl
  refine h.silent (hqueue ▸ h.distinct) rfl hstatus' hdistinct hpaced ?_
  rw [hnow, hqueue]
  rcases hchange with ⟨hsending, hfinishes⟩ | ⟨entry, hentry, rfl, hfinish, hstopped, hrest⟩
  · exact hlater.congr rfl rfl hfinishes hsending
  · have htime : entry.call.1 = now := due_runGateway htimely.due asked known hphy hentry rfl
    have hmem : entry.call ∈ finishes status.phy.queue := List.mem_map_of_mem (mem_calls.mpr ⟨hentry, hfinish⟩)
    generalize flights gateway n.queue = w at hlater
    cases hlater with
    | idle finishes | booked _ _ finishes =>
        rw [finishes] at hmem
        cases hmem
    | sending finishes _ past =>
        obtain ⟨hcall, hnone⟩ := calls_cancel_single (p := fun c => finishing c.2) hentry hfinish finishes
        refine .idle ?_ hstopped fun use huse => (past use huse).elim id fun hend => ?_
        · change Bookings.finishes phy.queue = []
          rw [hrest, Bookings.finishes, hnone, List.map_nil]
        · rwa [← hcall, htime] at hend

theorem apart_step (h : Apart gateway cfg.radio.clock channelHelper past n) (htimely : Timely n e)
    {longest : Time} (hguard : longest < 1000000) (hwithin : Within longest e)
    (hstep : machine cfg n e = some (n', out)) :
    Apart gateway cfg.radio.clock channelHelper (past ++ [⟨n, e, n', out⟩]) n' := by
  have hstepped := stepped_of_machine hstep
  have hdistinct := distinct_of_stepped h.distinct hstepped
  have hnow : n.now ≤ n'.now := htimely.later.trans_eq (now_of_stepped hstepped).symm
  cases hstepped with
  | uplink | idle => exact h.quiet hdistinct rfl rfl rfl hnow
  | confirmed => exact h.quiet hdistinct rfl ((flights_schedule _ _).trans (List.append_nil _)) rfl hnow
  | postponed pending window =>
      refine h.quiet hdistinct rfl ?_ rfl hnow
      refine (flights_schedule _ _).trans ((List.append_nil _).trans ?_)
      exact flights_cancel_other h.distinct pending (by simp [window, NetworkServer.Call.isTo])
  | gaveUp pending window =>
      exact h.quiet hdistinct rfl
        (flights_cancel_other h.distinct pending (by simp [window, NetworkServer.Call.isTo])) rfl hnow
  | @replied _ _ _ _ _ _ other _ pending window _ books =>
      by_cases hother : other = gateway
      · subst hother
        exact apart_booked h htimely ⟨hwithin.1, hwithin.2.trans_lt hguard⟩ pending window books
      · obtain ⟨_, _, _, _, _, _, _, _, _, rfl⟩ := books.sent
        refine h.quiet hdistinct ?_ ?_ rfl hnow
        · exact (Network.gatewayStatuses_setGateway _ _ _ _).trans (if_neg (Ne.symm hother))
        · refine (flights_schedule _ _).trans ?_
          rw [if_neg (by simpa [NetworkServer.Call.isTo] using hother), List.append_nil]
          exact flights_cancel_other h.distinct pending (isTo_of_isFor window)
  | @delivered _ _ _ _ other _ _ _ _ _ _ pending flight known sent =>
      by_cases hother : other = gateway
      · subst hother
        exact apart_delivered h htimely pending flight known (sends_of_send sent) rfl
      · refine h.quiet hdistinct ?_ ?_ (by simp [onAir, hother]) hnow
        · exact (Network.gatewayStatuses_setGateway _ _ _ _).trans (if_neg (Ne.symm hother))
        · exact flights_cancel_other h.distinct pending (by simpa [flight, NetworkServer.Call.isTo] using hother)
  | @atGateway _ _ other _ _ _ _ asked known step =>
      by_cases hother : other = gateway
      · subst hother
        exact apart_atGateway h htimely asked known step rfl
      · refine h.quiet hdistinct ?_ rfl rfl hnow
        exact (Network.gatewayStatuses_setGateway _ _ _ _).trans (if_neg (Ne.symm hother))

variable {gateways : List (A × LogicalLoraChannelHelper K × List K)} {endDevices : List LoraDeviceAddress}
  {es : List (Time × NetworkServer.Input K A)} {rest : Steps K A}
  {t : Transition (Network K A) (Time × NetworkServer.Input K A) (Option (NetworkServer.Outcome K A))}

theorem apart_of_run {status : GatewayStatus K}
    (hstatus : (Network.install gateways endDevices).gatewayStatuses gateway = some status)
    (hrun : transitions (machine cfg) (.install gateways endDevices) es = past ++ t :: rest)
    (htimely : ∀ a ∈ past, Timely a.pre a.event) {longest : Time} (hguard : longest < 1000000)
    (hwithin : ∀ a ∈ past, Within longest a.event) :
    Apart gateway cfg.radio.clock status.channelHelper past t.pre := by
  refine history_invariant (fun past n => (∀ a ∈ past, Timely a.pre a.event ∧ Within longest a.event) →
    Apart gateway cfg.radio.clock status.channelHelper past n) (fun past n e n' out ih hstep hall => ?_)
    (fun _ => ?_)
    hrun fun a ha => ⟨htimely a ha, hwithin a ha⟩
  · rw [List.forall_mem_append, List.forall_mem_singleton] at hall
    exact apart_step (ih hall.1) hall.2.1 hguard hall.2.2 hstep
  · have hstart : Untouched (Network.install gateways endDevices) := untouched_install
    obtain ⟨_, frequencies, rfl⟩ := hstart.gateways gateway status hstatus
    have hflights : flights gateway (Network.install gateways endDevices).queue = [] := by
      rw [hstart.queue]
      rfl
    refine ⟨?_, .nil, _, hstatus, ⟨fresh_empty, List.nodup_nil⟩, paced_nil _ _, hflights ▸ .idle rfl rfl nofun⟩
    rw [hstart.queue]
    exact ⟨fresh_empty, List.nodup_nil⟩

/-- Over links that take less than a millisecond no gateway is given a packet while it sends. -/
theorem transmissions_apart {status : GatewayStatus K}
    (hstatus : (Network.install gateways endDevices).gatewayStatuses gateway = some status)
    (hrun : transitions (machine cfg) (.install gateways endDevices) es = past ++ t :: rest)
    (htimely : ∀ a ∈ past, Timely a.pre a.event) {longest : Time} (hguard : longest < 1000000)
    (hwithin : ∀ a ∈ past, Within longest a.event) :
    ((transmissions gateway past).map Prod.snd).Pairwise fun a b => a.start + a.length ≤ b.start :=
  (apart_of_run hstatus hrun htimely hguard hwithin).apart

theorem euNetwork_gateways : (gateway : Fin 2) → euNetwork.gatewayStatuses gateway =
    some (.new EuRegion.euChannelHelper (GatewayRuns.newGateway GatewayRuns.euFrequencies))
  | 0 => rfl
  | 1 => rfl

theorem transmissions_apart_answered :
    (transmissions 1 (answeredTransitions.take 8)).map Prod.snd =
        [⟨2000500000, 1318912000⟩, ⟨201000500000, 1318912000⟩] ∧
      (2000500000 : Time) + 1318912000 ≤ 201000500000 := by
  have hlt : 8 < answeredTransitions.length := by decide +kernel
  have hsent : (transmissions 1 (answeredTransitions.take 8)).map Prod.snd =
      [⟨2000500000, 1318912000⟩, ⟨201000500000, 1318912000⟩] := by decide +kernel
  have htimely : ∀ a ∈ answeredTransitions.take 8, Timely a.pre a.event := by decide +kernel
  have hwithin : ∀ a ∈ answeredTransitions.take 8, Within 500000 a.event := by decide +kernel
  have hapart := transmissions_apart (euNetwork_gateways 1) (split_getElem hlt) htimely
    (by decide) hwithin
  rw [hsent, List.pairwise_pair] at hapart
  exact ⟨hsent, hapart⟩

def overlapping : List (Time × NetworkServer.Input ℚ (Fin 2)) :=
  [(1000000000, .receive 0 (confirmedUplink EuRegion.address) (-100) 868.1),
    (1001000000, .receive 0 (confirmedUplink address₂) (-100) 868.3), (2000000000, .run 0 euWindows 1000000),
    (2001000000, .run 1 euWindows 1000000), (2001000000, .run 2 euWindows 0), (2002000000, .run 3 euWindows 0),
    (2002000000, .receive 1 (confirmedUplink EuRegion.address) (-100) 868.1)]

def overlappingTransitions : Steps ℚ (Fin 2) := transitions (machine euServer) euNetwork overlapping

/-- A millisecond is just what the links may not take. -/
theorem apart_iff_guarded (longest : Time) :
    (∀ es past t rest, transitions (machine euServer) euNetwork es = past ++ t :: rest →
      (∀ a ∈ past, Timely a.pre a.event) → (∀ a ∈ past, Within longest a.event) →
      ∀ gateway, ((transmissions gateway past).map Prod.snd).Pairwise fun a b => a.start + a.length ≤ b.start) ↔
      longest < 1000000 := by
  constructor
  · intro h
    by_contra hlong
    have hlt : 6 < overlappingTransitions.length := by decide +kernel
    have htimely : ∀ a ∈ overlappingTransitions.take 6, Timely a.pre a.event := by decide +kernel
    have hwithin : ∀ a ∈ overlappingTransitions.take 6, Within 1000000 a.event := by decide +kernel
    have hsent : (transmissions 0 (overlappingTransitions.take 6)).map Prod.snd =
        [⟨2001000000, 1318912000⟩, ⟨2002000000, 1318912000⟩] := by decide +kernel
    have hapart := h overlapping _ _ _ (split_getElem hlt) htimely
      (fun a ha => (hwithin a ha).mono (not_lt.mp hlong)) 0
    rw [hsent, List.pairwise_pair] at hapart
    exact absurd hapart (by decide)
  · exact fun hguard es past t rest hrun htimely hwithin gateway =>
      transmissions_apart (euNetwork_gateways gateway) hrun htimely hguard hwithin

/-- Over such links a gateway keeps to the duty cycle of every sub-band, which it is only
asked about when it is booked. -/
theorem downlink_airtime_bounded {status : GatewayStatus K}
    (hstatus : (Network.install gateways endDevices).gatewayStatuses gateway = some status)
    (hrun : transitions (machine cfg) (.install gateways endDevices) es = past ++ t :: rest)
    (htimely : ∀ a ∈ past, Timely a.pre a.event) {longest : Time} (hguard : longest < 1000000)
    (hwithin : ∀ a ∈ past, Within longest a.event) {i : Nat}
    {subBand : SubBand K} (hband : status.channelHelper.subBandList[i]? = some subBand)
    {before uses after : List (Use Time)} {first last : Use Time}
    (huses : usesIn status.channelHelper i (transmissions gateway past) =
      before ++ (first :: uses ++ [last]) ++ after) :
    ((((first :: uses).map Use.length).sum : Time) : K) * (1 / subBand.dutyCycle - 1) ≤
      (last.start - first.start : Time) + (uses.length + 1) := by
  obtain ⟨_, _, _, hpaced, _⟩ := (apart_of_run hstatus hrun htimely hguard hwithin).status
  have hspaced := hpaced.spaced_in hband
  rw [huses] at hspaced
  exact airtime_le hspaced

theorem downlink_airtime_bounded_answered :
    usesIn EuRegion.euChannelHelper 0 (transmissions 1 (answeredTransitions.take 8)) =
        [⟨2000500000, 1318912000⟩, ⟨201000500000, 1318912000⟩] ∧
      (1318912000 : ℚ) * (1 / 0.01 - 1) ≤ (201000500000 - 2000500000 : Time) + 1 := by
  have hlt : 8 < answeredTransitions.length := by decide +kernel
  have huses : usesIn EuRegion.euChannelHelper 0 (transmissions 1 (answeredTransitions.take 8)) =
      [] ++ (⟨2000500000, 1318912000⟩ :: [] ++ [⟨201000500000, 1318912000⟩]) ++ [] := by decide +kernel
  have htimely : ∀ a ∈ answeredTransitions.take 8, Timely a.pre a.event := by decide +kernel
  have hwithin : ∀ a ∈ answeredTransitions.take 8, Within 500000 a.event := by decide +kernel
  have hbound := downlink_airtime_bounded (euNetwork_gateways 1) (split_getElem hlt) htimely
    (by decide) hwithin rfl huses
  refine ⟨huses, ?_⟩
  simpa using hbound

end UavMonitoring.Bookings
