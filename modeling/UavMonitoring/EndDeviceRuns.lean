import UavMonitoring.EuRegion

namespace UavMonitoring.EndDeviceRuns

open Basics MacCommands FrameHeader SubBands EndDeviceMac EndDevice EventQueue Runs Spacing
open EuRegion LogicalLoraChannelHelper

variable {K : Type} [Field K] [LinearOrder K] [FloorRing K]

abbrev Steps (K : Type) [Field K] [LinearOrder K] :=
  List (Transition (Device K) (Time × Event K) (Option (Uplink K)))

def uplinks (past : Steps K) : List (Uplink K) := past.filterMap Transition.out

section Airtime

def usesOn (d : Device K) (i : Nat) (past : Steps K) : List (Use Time) :=
  ((uplinks past).filter fun uplink => d.mac.channelHelper.subBandIndex uplink.frequency = some i).map
    fun uplink => ⟨uplink.start, uplink.duration⟩

def sent (past : Steps K) : List (K × Use Time) :=
  (uplinks past).map fun uplink => (uplink.frequency, ⟨uplink.start, uplink.duration⟩)

omit [FloorRing K] in
theorem usesOn_eq (d : Device K) (i : Nat) (past : Steps K) :
    usesOn d i past = usesIn d.mac.channelHelper i (sent past) := by
  rw [usesOn, usesIn, sent, List.filter_map, List.map_map]
  rfl

omit [FloorRing K] in
theorem sent_concat (past : Steps K) (t : Transition (Device K) (Time × Event K) (Option (Uplink K))) :
    sent (past ++ [t]) = sent past ++ sent [t] := by
  rw [sent, sent, sent, uplinks, uplinks, uplinks, List.filterMap_append, List.map_append]

variable [IsStrictOrderedRing K] {cfg : Setting K}

theorem paced_step {d now now' : Device K} {past : Steps K} {e : Time × Event K} {out : Option (Uplink K)}
    (h : Paced cfg.clock d.mac.channelHelper (sent past) now.mac.channelHelper)
    (hstep : machine cfg now e = some (now', out)) :
    Paced cfg.clock d.mac.channelHelper (sent (past ++ [⟨now, e, now', out⟩])) now'.mac.channelHelper := by
  rw [sent_concat]
  rcases machine_cases hstep with ⟨rfl, hparse⟩ | ⟨random, payload, uplink, he, rfl, _, htransmits, hadmitted⟩
  · change Paced cfg.clock d.mac.channelHelper (sent past ++ []) now'.mac.channelHelper
    rw [List.append_nil]
    exact h.congr (parsed_of_parseCommands hparse).subBandList
  · change Paced cfg.clock d.mac.channelHelper
      (sent past ++ [(uplink.frequency, ⟨uplink.start, uplink.duration⟩)]) now'.mac.channelHelper
    rw [htransmits.start]
    exact paced_addEvent h hadmitted.free htransmits.event

theorem uplinks_spaced (cfg : Setting K) (d : Device K) (es : List (Time × Event K)) {i : Nat}
    {subBand : SubBand K}
    (hband : d.mac.channelHelper.subBandList[i]? = some subBand) :
    Spaced (timeOff cfg.clock · subBand.dutyCycle) (usesOn d i (transitions (machine cfg) d es)) := by
  obtain ⟨now, hpaced⟩ := history_of_run
    (fun past (now : Device K) => Paced cfg.clock d.mac.channelHelper (sent past) now.mac.channelHelper)
    (fun _ _ _ _ _ h hstep => paced_step h hstep) (paced_nil cfg.clock d.mac.channelHelper) es
  rw [usesOn_eq]
  exact hpaced.spaced_in hband

/-- From one packet in a sub-band to a later one the air is taken for at most
`dutyCycle / (1 - dutyCycle)` of the time, up to a nanosecond a packet. -/
theorem airtime_bounded (d : Device K) (es : List (Time × Event K)) {i : Nat} {subBand : SubBand K}
    (hband : d.mac.channelHelper.subBandList[i]? = some subBand) {before uses after : List (Use Time)}
    {first last : Use Time}
    (huses : usesOn d i (transitions (machine cfg) d es) = before ++ (first :: uses ++ [last]) ++ after) :
    ((((first :: uses).map Use.length).sum : Time) : K) * (1 / subBand.dutyCycle - 1) ≤
      (last.start - first.start : Time) + (uses.length + 1) := by
  have hspaced := uplinks_spaced cfg d es hband
  rw [huses] at hspaced
  exact airtime_le hspaced

theorem airtime_bounded_status :
    usesOn (euDevice address) 0 statusTransitions = [⟨0, 991232000⟩, ⟨200000000000, 1155072000⟩] ∧
      (991232000 : ℚ) * (1 / 0.01 - 1) ≤ 200000000000 + 1 := by
  have huses : usesOn (euDevice address) 0 statusTransitions =
      [] ++ (⟨0, 991232000⟩ :: [] ++ [⟨200000000000, 1155072000⟩]) ++ [] := by decide +kernel
  have hbound := airtime_bounded (euDevice address) statusRun rfl huses
  refine ⟨huses, ?_⟩
  simpa using hbound

end Airtime

section Answers

variable (cfg : Setting K)

/-- The answers to the commands heard since the last packet was sent. -/
def unsent (past : Steps K) : List MacCommandType :=
  past.foldl (fun waiting t =>
    if t.out.isSome then []
    else waiting ++ (heard cfg t.pre t.event).flatMap (answered ∘ MacCommand.className)) []

def unsentAnswers (past : Steps K) : List (MacCommand K) :=
  past.foldl (fun waiting t =>
    if t.out.isSome then [] else waiting ++ answers cfg.region t.pre.mac (heard cfg t.pre t.event)) []

structure Waiting (past : Steps K) (now : Device K) : Prop where
  list : now.mac.macCommandList = unsentAnswers cfg past
  classes : now.mac.macCommandList.map MacCommand.className = unsent cfg past
  faithful : ∀ command ∈ now.mac.macCommandList, Faithful cfg.platform true command

omit [FloorRing K] in
theorem unsent_concat (past : Steps K)
    (t : Transition (Device K) (Time × Event K) (Option (Uplink K))) :
    unsent cfg (past ++ [t]) = if t.out.isSome then []
      else unsent cfg past ++ (heard cfg t.pre t.event).flatMap (answered ∘ MacCommand.className) :=
  List.foldl_concat ..

omit [FloorRing K] in
theorem unsentAnswers_concat (past : Steps K)
    (t : Transition (Device K) (Time × Event K) (Option (Uplink K))) :
    unsentAnswers cfg (past ++ [t]) = if t.out.isSome then []
      else unsentAnswers cfg past ++ answers cfg.region t.pre.mac (heard cfg t.pre t.event) :=
  List.foldl_concat ..

variable {cfg} [IsStrictOrderedRing K]

theorem waiting_step {now now' : Device K} {past : Steps K} {e : Time × Event K} {out : Option (Uplink K)}
    (h : Waiting cfg past now) (hstep : machine cfg now e = some (now', out)) :
    Waiting cfg (past ++ [⟨now, e, now', out⟩]) now' := by
  rcases machine_cases hstep with ⟨rfl, hparse⟩ | ⟨random, payload, uplink, he, rfl, _, htransmits, _⟩
  · obtain ⟨answers, hlist, hclass, hfaithful⟩ := (parsed_of_parseCommands hparse).answers
    constructor
    · rw [unsentAnswers_concat, answers_of_parseCommands hparse, h.list]
      rfl
    · rw [unsent_concat, hlist, List.map_append, h.classes, hclass]
      rfl
    · intro command hmem
      rw [hlist, List.mem_append] at hmem
      exact hmem.elim (h.faithful command) (hfaithful cfg.platform command)
  · constructor
    · rw [unsentAnswers_concat, htransmits.mac]
      rfl
    · rw [unsent_concat, htransmits.mac]
      rfl
    · rw [htransmits.mac]
      exact fun command hmem => by cases hmem

theorem waiting_of_run {d : Device K} (hempty : d.mac.macCommandList = []) {es : List (Time × Event K)}
    {past rest : Steps K} {t : Transition (Device K) (Time × Event K) (Option (Uplink K))}
    (hrun : transitions (machine cfg) d es = past ++ t :: rest) : Waiting cfg past t.pre := by
  refine history_invariant (Waiting cfg) (fun _ _ _ _ _ h hstep => waiting_step h hstep) ?_ hrun
  constructor
  · exact hempty
  · rw [hempty]
    rfl
  · rw [hempty]
    exact fun command hmem => by cases hmem

/-- Every packet takes the answers to all commands heard since the packet
before it, each once and in the order in which the commands came. -/
theorem uplinks_answer {d : Device K} (hempty : d.mac.macCommandList = []) {es : List (Time × Event K)}
    {past rest : Steps K} {t : Transition (Device K) (Time × Event K) (Option (Uplink K))}
    (hrun : transitions (machine cfg) d es = past ++ t :: rest) {uplink : Uplink K}
    (hout : t.out = some uplink) :
    uplink.header.macCommands = unsentAnswers cfg past ∧
      uplink.header.macCommands.map MacCommand.className = unsent cfg past := by
  have hwaiting := waiting_of_run hempty hrun
  have hstep := step_of_mem (show t ∈ transitions (machine cfg) d es by rw [hrun]; simp)
  rcases machine_cases hstep with ⟨hnone, _⟩ | ⟨random, payload, sent, he, hsome, _, htransmits, _⟩
  · rw [hout] at hnone
    cases hnone
  · obtain rfl := Option.some.inj (hout.symm.trans hsome)
    rw [htransmits.header, (applied _).1]
    exact ⟨hwaiting.list, hwaiting.classes⟩

theorem statusTransitions_eq : ∃ past t rest uplink, statusTransitions = past ++ t :: rest ∧
    t.out = some uplink ∧ unsent (euSetting littleEndian) past = [.devStatusAns] ∧
      unsentAnswers (euSetting littleEndian) past = [.devStatusAns 10 10] := by
  have hsome : ((statusTransitions[7]?).bind Transition.out).isSome := by decide +kernel
  have hunsent : unsent (euSetting littleEndian) (statusTransitions.take 7) = [.devStatusAns] := by
    decide +kernel
  have hanswers : unsentAnswers (euSetting littleEndian) (statusTransitions.take 7) =
      [.devStatusAns 10 10] := by decide +kernel
  obtain ⟨uplink, hbind⟩ := Option.isSome_iff_exists.mp hsome
  obtain ⟨t, ht, hout⟩ := Option.bind_eq_some_iff.mp hbind
  obtain ⟨hlt, rfl⟩ := List.getElem?_eq_some_iff.mp ht
  refine ⟨_, _, statusTransitions.drop 8, uplink, ?_, hout, hunsent, hanswers⟩
  rw [← List.drop_eq_getElem_cons hlt, List.take_append_drop]

theorem uplinks_answer_status :
    ∃ t ∈ statusTransitions, ∃ uplink, t.out = some uplink ∧
      uplink.header.macCommands = [.devStatusAns 10 10] ∧
      uplink.header.macCommands.map MacCommand.className = [.devStatusAns] := by
  obtain ⟨past, t, rest, uplink, hrun, hout, hunsent, hanswers⟩ := statusTransitions_eq
  obtain ⟨hlist, hclasses⟩ := uplinks_answer rfl hrun hout
  exact ⟨t, by rw [hrun]; simp, uplink, hout, hlist.trans hanswers, hclasses.trans hunsent⟩

def answerSize : MacCommandType → Nat
  | .linkAdrAns | .rxParamSetupAns | .newChannelAns => 2
  | .devStatusAns => 3
  | _ => 1

omit [Field K] [LinearOrder K] [FloorRing K] in
theorem optsLen_answers {commands : List (MacCommand K)}
    (hanswers : ∀ command ∈ commands, ∃ t, command.className ∈ answered t) :
    optsLen commands = ((commands.map MacCommand.className).map answerSize).sum := by
  rw [optsLen, List.map_map]
  refine congrArg List.sum (List.map_congr_left fun command hmem => ?_)
  obtain ⟨t, ht⟩ := hanswers command hmem
  cases command <;> first | rfl | (cases t <;> simp [MacCommand.className, answered] at ht)

variable (cfg) in
omit [FloorRing K] [IsStrictOrderedRing K] in
theorem answered_of_unsent (past : Steps K) : ∀ c ∈ unsent cfg past, ∃ t, c ∈ answered t := by
  induction past using List.reverseRecOn with
  | nil => simp [unsent]
  | append_singleton past t ih =>
      intro c hc
      rw [unsent_concat] at hc
      split at hc
      · cases hc
      · rcases List.mem_append.mp hc with hc | hc
        · exact ih c hc
        · obtain ⟨command, _, hc⟩ := List.mem_flatMap.mp hc
          exact ⟨_, hc⟩

/-- A server reads a packet as it was sent exactly if the answers in it take
less than eight bytes. -/
theorem uplinks_readable_iff {d : Device K} (hempty : d.mac.macCommandList = []) {es : List (Time × Event K)}
    {past rest : Steps K} {t : Transition (Device K) (Time × Event K) (Option (Uplink K))}
    (hrun : transitions (machine cfg) d es = past ++ t :: rest) {uplink : Uplink K}
    (hout : t.out = some uplink) :
    ∃ random payload framed, t.event.2 = .send random payload ∧
      uplink.packet = LoraMacHeader.serialize ⟨t.pre.mac.mType.code, 1⟩ :: framed ∧
      (removeHeader cfg.platform true framed = some (some (uplink.header, payload)) ↔
        ((unsent cfg past).map answerSize).sum < 8) := by
  have hwaiting := waiting_of_run hempty hrun
  have hstep := step_of_mem (show t ∈ transitions (machine cfg) d es by rw [hrun]; simp)
  rcases machine_cases hstep with ⟨hnone, _⟩ | ⟨random, payload, sent, he, hsome, _, htransmits, _⟩
  · rw [hout] at hnone
    cases hnone
  · obtain rfl := Option.some.inj (hout.symm.trans hsome)
    obtain ⟨framed, hframed, hpacket⟩ := htransmits.packet
    obtain ⟨hcommands, hcounted, huplink, _⟩ := applied ({ t.pre with now := t.event.1 } : Device K).mac
    rw [← htransmits.header] at hcommands hcounted huplink
    have hsize : optsLen uplink.header.macCommands = ((unsent cfg past).map answerSize).sum := by
      rw [hcommands, ← hwaiting.classes]
      refine optsLen_answers fun command hmem => answered_of_unsent cfg past command.className ?_
      rw [← hwaiting.classes]
      exact List.mem_map_of_mem hmem
    refine ⟨random, payload, framed, he, hpacket, ?_⟩
    rw [addHeader] at hframed
    split at hframed
    · cases hframed
      rw [← hsize, ← huplink]
      constructor
      · intro hback
        obtain ⟨read, hread, hmap⟩ := Option.map_eq_some_iff.mp hback
        obtain ⟨⟨h', n⟩, rfl, hpair⟩ := Option.map_eq_some_iff.mp hmap
        exact (faithful_of_deserialize hcounted hread (congrArg Prod.fst hpair)).1
      · intro hlt
        refine removeHeader_of_faithful hcounted hlt (fun command hmem => ?_) payload
        rw [huplink]
        rw [hcommands] at hmem
        exact hwaiting.faithful command hmem
    · cases hframed

theorem uplinks_readable_iff_status :
    ∃ t ∈ statusTransitions, ∃ uplink payload framed, t.out = some uplink ∧
      uplink.packet = LoraMacHeader.serialize ⟨t.pre.mac.mType.code, 1⟩ :: framed ∧
      removeHeader littleEndian true framed = some (some (uplink.header, payload)) := by
  obtain ⟨past, t, rest, uplink, hrun, hout, hunsent, _⟩ := statusTransitions_eq
  obtain ⟨_, payload, framed, _, hpacket, hreadable⟩ := uplinks_readable_iff rfl hrun hout
  refine ⟨t, by rw [hrun]; simp, uplink, payload, framed, hout, hpacket, hreadable.mpr ?_⟩
  rw [hunsent]
  decide

end Answers

section Tables

variable {cfg : Setting K}

theorem tuned_step [IsStrictOrderedRing K] {d d' : Device K} {e : Time × Event K} {out : Option (Uplink K)}
    (ht : Tuned cfg.region d.mac) (hstep : machine cfg d e = some (d', out)) : Tuned cfg.region d'.mac := by
  rcases machine_cases hstep with ⟨_, hparse⟩ | ⟨random, payload, uplink, _, _, _, htransmits, _⟩
  · exact tuned_of_parseCommands ht hparse
  · rw [htransmits.mac]
    exact ⟨ht.dataRate, ht.rx1DrOffset⟩

/-- All the ways in which sending can end the program, for a device that goes by its tables. -/
inductive Fails (s : Device K) (now : Time) : Failure → Prop
  | header (long : 256 ≤ optsLen s.mac.macCommandList) : Fails s now .header
  | unknown {channel : LogicalLoraChannel K} (mem : channel ∈ s.mac.channelHelper.channelList)
      (outside : s.mac.channelHelper.getSubBandFromFrequency channel.frequency = none) : Fails s now .subBand
  | power {channel : LogicalLoraChannel K} (mem : channel ∈ s.mac.channelHelper.channelList)
      (free : s.mac.channelHelper.Free now channel.frequency) {maxTxPowerDbm : K}
      (limit : s.mac.channelHelper.getTxPowerForChannel channel.frequency = some maxTxPowerDbm)
      (above : maxTxPowerDbm < s.mac.txPower) : Fails s now .power

theorem fails_of_transmit {s : Device K} {payload : List UInt8} {channel : LogicalLoraChannel K}
    {failure : Failure} (hc : cfg.region.Complete) (ht : Tuned cfg.region s.mac)
    (hmem : channel ∈ s.mac.channelHelper.channelList) (hfree : s.mac.channelHelper.Free s.now channel.frequency)
    (h : s.transmit cfg payload channel.frequency = .error failure) : Fails s s.now failure := by
  obtain ⟨hcommands, hcounted, _, _⟩ := applied s.mac
  obtain ⟨subBand, hsub, hnext⟩ := hfree
  have hindex : (s.mac.channelHelper.subBandIndex channel.frequency).isSome := by
    rw [getSubBand_eq] at hsub
    obtain ⟨i, hi, _⟩ := Option.bind_eq_some_iff.mp hsub
    exact Option.isSome_of_eq_some hi
  obtain ⟨bandwidthHz, hbandwidth, _⟩ := Option.map_eq_some_iff.mp ht.dataRate
  obtain ⟨row, hrow, hlength⟩ := hc.replyDataRate _ ht.dataRate
  have hoffset := UInt8.le_iff_toNat_le.mp ht.rx1DrOffset
  have hlt : s.mac.rx1DrOffset.toNat < row.length := by
    rw [hlength]
    exact Nat.lt_succ_of_le hoffset
  rw [Device.transmit] at h
  dsimp only at h
  split at h
  · next hnone =>
      cases h
      refine .header ?_
      rw [← hcommands]
      exact (addHeader_eq_none_iff hcounted payload).mp hnone
  · next hnone _ =>
      have hbandwidth' : cfg.region.getBandwidthFromDataRate s.mac.dataRate = none := hnone
      rw [hbandwidth] at hbandwidth'
      cases hbandwidth'
  · next hnone _ _ =>
      have hmax := congrArg (Option.map SubBand.maxTxPowerDbm) hsub
      exact absurd (hmax.symm.trans hnone) (by simp)
  · next framed bandwidthHz' maxTxPowerDbm _ _ hmax =>
      split at h
      · next habove =>
          cases h
          exact .power hmem ⟨subBand, hsub, hnext⟩ hmax habove
      · split at h
        · next hnone =>
            obtain ⟨i, hi⟩ := Option.isSome_iff_exists.mp hindex
            have hevent := Option.map_eq_none_iff.mp hnone
            exact absurd (hi.symm.trans hevent) (by simp)
        · next hnone _ =>
            have hreply : ((cfg.region.replyDataRateMatrix[s.mac.dataRate.toNat]?).bind
                fun row => row[s.mac.rx1DrOffset.toNat]?) = none := hnone
            rw [hrow, Option.bind_some, List.getElem?_eq_none_iff] at hreply
            omega
        · rw [phySend_of_standby] at h
          cases h

omit [FloorRing K] in
theorem fails_of_getChannelForTx {s : Device K} {now : Time} {random : Nat → UInt16}
    (hrandom : ∀ i < s.mac.channelHelper.channelList.length,
      (random i).toNat < s.mac.channelHelper.channelList.length)
    (hnone : getChannelForTx cfg.clock now random s.mac.channelHelper = none) : Fails s now .subBand := by
  by_contra hno
  have hknown : ∀ channel ∈ s.mac.channelHelper.channelList,
      (s.mac.channelHelper.getSubBandFromFrequency channel.frequency).isSome := by
    intro channel hmem
    rw [Option.isSome_iff_ne_none]
    exact fun houtside => hno (.unknown hmem houtside)
  obtain ⟨r, hr⟩ : ∃ r, getChannelForTx cfg.clock now random s.mac.channelHelper = some r :=
    getChannelForTx_isSome hrandom hknown
  rw [hr] at hnone
  cases hnone

/-- Whatever a device hears, sending does not look past its tables, as long as
the channels are drawn among those there are. -/
theorem sending_fails_only [IsStrictOrderedRing K] {d : Device K} (hc : cfg.region.Complete)
    (ht : Tuned cfg.region d.mac) (es : List (Time × Event K)) :
    ∀ s ∈ states (machine cfg) d es, ∀ now (random : Nat → UInt16) payload failure,
      (∀ i < s.mac.channelHelper.channelList.length,
        (random i).toNat < s.mac.channelHelper.channelList.length) →
      step cfg s (now, .send random payload) = .error failure → Fails s now failure := by
  intro s hs now random payload failure hrandom h
  have hs := states_invariant (fun s : Device K => Tuned cfg.region s.mac) (fun _ _ _ _ => tuned_step) ht
    es s hs
  change ({ s with now := now } : Device K).send cfg random payload = .error failure at h
  rw [Device.send] at h
  split at h
  · cases h
  · split at h
    · next hnone =>
        have hlt := hc.maxAppPayload _ hs.dataRate
        have hge := List.getElem?_eq_none_iff.mp hnone
        dsimp only at hge
        omega
    · split at h
      · cases h
      · split at h
        · cases h
        · split at h
          · next hnone =>
              cases h
              exact fails_of_getChannelForTx hrandom hnone
          · cases h
          · next channel hchannel =>
              obtain ⟨hmem, hfree⟩ := (getChannelForTx_eq_some hchannel).2 channel rfl
              have htuned : Tuned cfg.region ({ s with now := now } : Device K).mac := hs
              have hfails := fails_of_transmit hc htuned hmem hfree h
              cases hfails with
              | header long => exact .header long
              | unknown mem outside => exact .unknown mem outside
              | power mem free limit above => exact .power mem free limit above

def powerRun : List (Time × Event ℚ) :=
  let packet := downlink (.linkAdrReq 0 0 7 0 1)
  [(0, .send (fun _ => 0) [1, 2, 3]), (991232000, .run 0 false), (991232010, .run 1 false),
    (1991232010, .run 2 false), (2000000000, .startReceive packet (-120) 12 100000000 868.5),
    (2100000000, .run 5 false), (2191232010, .run 4 false)]

theorem sending_fails_only_power :
    ∃ s ∈ states (machine (euSetting littleEndian)) (euDevice address) powerRun,
      s.mac.txPower = 16 ∧ Fails s 200000000000 .power := by
  let reached := states (machine (euSetting littleEndian)) (euDevice address) powerRun
  obtain ⟨s, hs⟩ : ∃ s, reached[7]? = some s := Option.isSome_iff_exists.mp (by decide +kernel)
  have hmac : reached[7]?.map (fun s => (s.mac.txPower, s.mac.channelHelper.channelList.length)) =
      some (16, 3) := by decide +kernel
  have hfails : reached[7]?.map (fun s =>
      match step (euSetting littleEndian) s (200000000000, .send (fun _ => 0) [4]) with
      | .error failure => some failure
      | .ok _ => none) = some (some .power) := by decide +kernel
  rw [hs, Option.map_some, Option.some.injEq] at hmac hfails
  obtain ⟨hpower, hchannels⟩ := Prod.mk.inj hmac
  have hmem : s ∈ reached := List.mem_of_getElem? hs
  refine ⟨s, hmem, hpower, ?_⟩
  cases hstep : step (euSetting littleEndian) s (200000000000, .send (fun _ => 0) [4]) with
  | ok r =>
      rw [hstep] at hfails
      cases hfails
  | error failure =>
      rw [hstep, Option.some.injEq] at hfails
      subst hfails
      refine sending_fails_only complete_eu (tuned_eu address) powerRun s hmem _ _ _ _ ?_ hstep
      intro i _
      rw [hchannels]
      decide

end Tables

section Rejected

variable {cfg : Setting K} [IsStrictOrderedRing K]

/-- A step fails at a command exactly when the packet that it ends has one which the
device, as the commands before it leave the device, does not survive. -/
theorem command_failure_iff {d : Device K} {e : Time × Event K} :
    step cfg d e = .error .command ↔ ∃ before command after m, heard cfg d e = before ++ command :: after ∧
      d.mac.parseCommands cfg.region before = some m ∧ Rejects cfg.region m command :=
  step_command_iff.trans parseCommands_eq_none_iff

def unlimited : Device ℚ :=
  let packet := downlink (.dutyCycleReq 0)
  { euDevice address with state := .rx, queue := schedule (0, .endReceive packet) EventQueue.empty }

theorem command_failure_iff_unlimited :
    step (euSetting littleEndian) unlimited (0, .run 0 false) = .error .command := by
  have hheard : heard (euSetting littleEndian) unlimited (0, .run 0 false) = [] ++ .dutyCycleReq 0 :: [] := by
    decide +kernel
  exact command_failure_iff.mpr ⟨[], _, [], unlimited.mac, hheard, rfl, rfl⟩

end Rejected

end UavMonitoring.EndDeviceRuns
