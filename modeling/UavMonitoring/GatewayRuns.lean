import UavMonitoring.EuRegion
import UavMonitoring.GatewayPhy

namespace UavMonitoring.GatewayRuns

open Basics SubBands EventQueue Interference Runs GatewayPhy EuRegion
open EndDevice (getOnAirTime LoraTxParameters)

variable {K : Type} [Field K] [LinearOrder K]

abbrev Steps (K : Type) [Field K] [LinearOrder K] :=
  List (Transition (GatewayLoraPhy K) (Time × Input K) (Option (Outcome K)))

def arrivals (past : Steps K) : List (Event K) := past.filterMap fun t => arrival t.pre t.event

def decided (past : Steps K) : List (Event K) := past.filterMap fun t => t.out.map Outcome.event

def newGateway (frequencies : List K) : GatewayLoraPhy K where
  now := 0
  receptionPaths := frequencies.map ReceptionPath.new
  occupiedReceptionPaths := 0
  isTransmitting := false
  interference := ⟨[], 0⟩
  queue := EventQueue.empty

omit [Field K] [LinearOrder K] in
theorem locked_newGateway (frequencies : List K) : Locked (newGateway frequencies) := by
  refine ⟨⟨fresh_empty, List.nodup_nil⟩, nofun, List.nodup_nil, ?_, ?_, rfl⟩
  · have hnone : locked (frequencies.map ReceptionPath.new) = [] := by
      rw [locked, List.filterMap_map]
      exact List.filterMap_eq_nil_iff.mpr fun _ _ => rfl
    exact .of_eq hnone
  · intro path hpath
    obtain ⟨frequency, _, rfl⟩ := List.mem_map.mp hpath
    exact ⟨rfl, nofun⟩

def euRadio : Radio ℚ := ⟨floorClock, coarse⟩

def euFrequencies : List ℚ := [868.1, 868.3, 868.5, 868.1, 868.3, 868.5, 868.1, 868.3]

variable [FloorRing K] {radio : Radio K}

def crowded : List (Time × Input ℚ) :=
  [(0, .startReceive [65] (-100) 7 100000000 868.5), (0, .startReceive [66] (-100) 8 100000000 868.5),
    (0, .startReceive [67] (-100) 9 100000000 868.5), (100000000, .run 0), (100000000, .run 1)]

def crowdedTransitions : Steps ℚ := transitions (machine euRadio) (newGateway euFrequencies) crowded

section Accounts

/-- Every signal is being received or has had its fate. -/
structure Accounts (frequencies : List K) (past : Steps K) (g : GatewayLoraPhy K) : Prop where
  locked : Locked g
  frequencies : g.receptionPaths.map ReceptionPath.frequencyMHz = frequencies
  signals : (arrivals past).Perm (decided past ++ receiving g.queue)
  ids : ((arrivals past).map Event.id).Nodup
  known : ∀ event ∈ arrivals past, event.id < g.interference.next

theorem accounts_step {frequencies : List K} {past : Steps K} {g g' : GatewayLoraPhy K} {e : Time × Input K}
    {out : Option (Outcome K)} (h : Accounts frequencies past g) (hstep : machine radio g e = some (g', out)) :
    Accounts frequencies (past ++ [⟨g, e, g', out⟩]) g' := by
  have hspec := machine_spec h.locked hstep
  have harrivals : arrivals (past ++ [⟨g, e, g', out⟩]) = arrivals past ++ (arrival g e).toList := by
    rw [arrivals, List.filterMap_append]
    cases harrival : arrival g e <;> simp [arrivals, harrival]
  have hdecided : decided (past ++ [⟨g, e, g', out⟩]) = decided past ++ (out.map Outcome.event).toList := by
    rw [decided, List.filterMap_append]
    cases out <;> simp [decided]
  refine ⟨hspec.locked, hspec.frequencies.trans h.frequencies, ?_, ?_, ?_⟩
  · rw [harrivals, hdecided]
    calc (arrivals past ++ (arrival g e).toList).Perm
          ((decided past ++ receiving g.queue) ++ (arrival g e).toList) := h.signals.append_right _
      List.Perm _ (decided past ++ ((arrival g e).toList ++ receiving g.queue)) := by
          rw [List.append_assoc]
          exact List.perm_append_comm.append_left _
      List.Perm _ (decided past ++ ((out.map Outcome.event).toList ++ receiving g'.queue)) :=
          hspec.signals.append_left _
      List.Perm _ _ := by rw [List.append_assoc]
  · rw [harrivals, List.map_append, List.nodup_append]
    cases harrival : arrival g e with
    | none => exact ⟨h.ids, List.nodup_nil, nofun⟩
    | some event =>
        refine ⟨h.ids, List.nodup_singleton _, fun id hid id' hid' => ?_⟩
        obtain ⟨event', hevent', rfl⟩ := List.mem_map.mp hid
        rw [List.mem_singleton.mp hid', (hspec.fresh event harrival).1]
        exact Nat.ne_of_lt (h.known event' hevent')
  · intro event hevent
    rw [harrivals, List.mem_append, Option.mem_toList] at hevent
    rcases hevent with hevent | hevent
    · exact (h.known event hevent).trans_le hspec.next
    · exact (hspec.fresh event hevent).2

theorem accounts_of_run {frequencies : List K} {es : List (Time × Input K)} {past rest : Steps K}
    {t : Transition (GatewayLoraPhy K) (Time × Input K) (Option (Outcome K))}
    (hrun : transitions (machine radio) (newGateway frequencies) es = past ++ t :: rest) :
    Accounts frequencies past t.pre := by
  refine history_invariant (Accounts frequencies) (fun _ _ _ _ _ h hstep => accounts_step h hstep) ?_ hrun
  refine ⟨locked_newGateway frequencies, ?_, .refl _, List.nodup_nil, nofun⟩
  change (frequencies.map ReceptionPath.new).map ReceptionPath.frequencyMHz = frequencies
  rw [List.map_map]
  exact List.map_id _

/-- In every run each signal that has come to a gateway is either being received,
with a reception path locked on it, or has had its fate, and that just once. -/
theorem signals_accounted {frequencies : List K} {es : List (Time × Input K)} {past rest : Steps K}
    {t : Transition (GatewayLoraPhy K) (Time × Input K) (Option (Outcome K))}
    (hrun : transitions (machine radio) (newGateway frequencies) es = past ++ t :: rest) :
    (arrivals past).Perm (decided past ++ locked t.pre.receptionPaths) ∧
      ((arrivals past).map Event.id).Nodup ∧
      t.pre.occupiedReceptionPaths = (t.pre.receptionPaths.countP fun path => !path.available) := by
  have haccounts := accounts_of_run hrun
  refine ⟨haccounts.signals.trans (haccounts.locked.paths.symm.append_left _), haccounts.ids, ?_⟩
  rw [haccounts.locked.occupied, ← haccounts.locked.paths.length_eq, locked, List.length_filterMap_eq_countP]
  refine congrArg _ (List.countP_congr fun path hpath => ?_)
  rw [(haccounts.locked.states path hpath).1]
  cases path.event <;> simp

theorem signals_accounted_crowded :
    (arrivals (crowdedTransitions.take 4)).map Event.id = [0, 1, 2] ∧
      ∃ t ∈ crowdedTransitions, (arrivals (crowdedTransitions.take 4)).Perm
        (decided (crowdedTransitions.take 4) ++ locked t.pre.receptionPaths) := by
  have hids : (arrivals (crowdedTransitions.take 4)).map Event.id = [0, 1, 2] := by decide +kernel
  obtain ⟨t, ht⟩ : ∃ t, crowdedTransitions[4]? = some t := Option.isSome_iff_exists.mp (by decide +kernel)
  exact ⟨hids, t, List.mem_of_getElem? ht, (signals_accounted (split_getElem? ht)).1⟩

end Accounts

section Turned

omit [Field K] [FloorRing K] in
theorem countP_receiving {g : GatewayLoraPhy K} (h : Locked g) (frequencyMHz : K) :
    (receiving g.queue).countP (·.frequencyMHz = frequencyMHz) =
      (g.receptionPaths.filter (·.frequencyMHz = frequencyMHz)).countP (fun path => !path.available) := by
  rw [← h.paths.countP_eq, locked, List.countP_filterMap, List.countP_filter]
  refine List.countP_congr fun path hpath => ?_
  obtain ⟨havailable, hfrequency⟩ := h.states path hpath
  rw [havailable]
  cases hevent : path.event with
  | none => simp
  | some event => simp [hfrequency event hevent]

omit [Field K] [FloorRing K] in
theorem turned_iff {g : GatewayLoraPhy K} (h : Locked g) (frequencyMHz : K) :
    Turned g frequencyMHz ↔ (receiving g.queue).countP (·.frequencyMHz = frequencyMHz) =
      (g.receptionPaths.map ReceptionPath.frequencyMHz).count frequencyMHz := by
  have hcount : (g.receptionPaths.map ReceptionPath.frequencyMHz).count frequencyMHz =
      (g.receptionPaths.filter (·.frequencyMHz = frequencyMHz)).length := by
    rw [List.count, List.countP_map, List.countP_eq_length_filter]
    refine congrArg List.length (List.filter_congr fun path _ => ?_)
    exact beq_eq_decide _ _
  rw [countP_receiving h, hcount, List.countP_eq_length]
  simp [Turned]

/-- A signal is turned away for want of a demodulator exactly if as many are being received
on its frequency as there are reception paths for it. -/
theorem turned_away_iff {frequencies : List K} {es : List (Time × Input K)} {past rest : Steps K}
    {t : Transition (GatewayLoraPhy K) (Time × Input K) (Option (Outcome K))}
    (hrun : transitions (machine radio) (newGateway frequencies) es = past ++ t :: rest)
    {packet : List UInt8} {rxPowerDbm : K} {sf : UInt8} {duration : Time} {frequencyMHz : K}
    (hevent : t.event.2 = .startReceive packet rxPowerDbm sf duration frequencyMHz) :
    (t.out.map Outcome.fate = some .noMoreDemodulators) ↔
      (receiving t.pre.queue).countP (·.frequencyMHz = frequencyMHz) = frequencies.count frequencyMHz := by
  have haccounts := accounts_of_run hrun
  have hstep := step_of_mem (show t ∈ transitions (machine radio) (newGateway frequencies) es by rw [hrun]; simp)
  rw [← haccounts.frequencies, ← turned_iff haccounts.locked]
  rw [machine, hevent] at hstep
  obtain ⟨_, _, _, hcases⟩ := startReceive_cases hstep
  rcases hcases with ⟨hturned, _, hout⟩ | ⟨i, path, hi, hfrequency, havailable, hcases⟩
  · exact iff_of_true (by rw [hout]; rfl) hturned
  · refine iff_of_false ?_ fun hturned => ?_
    · intro hfate
      rcases hcases with ⟨_, hout⟩ | ⟨_, hout⟩
      · rw [hout] at hfate
        cases hfate
      · rw [hout] at hfate
        cases hfate
    · have hbusy := hturned path (List.mem_of_getElem? hi) hfrequency
      rw [havailable] at hbusy
      cases hbusy

theorem turned_away_iff_crowded :
    (crowdedTransitions[2]?.bind fun t => t.out.map Outcome.fate) = some .noMoreDemodulators := by
  have hbusy : ∃ t ∈ crowdedTransitions[2]?, (receiving t.pre.queue).countP (fun s =>
      decide (s.frequencyMHz = (868.5 : ℚ))) = euFrequencies.count 868.5 := by decide +kernel
  obtain ⟨t, ht, hcount⟩ := hbusy
  have hstart : (0, .startReceive [67] (-100) 9 100000000 868.5) = t.event :=
    Option.some.inj (event_of_getElem? ht)
  rw [Option.mem_def.mp ht]
  exact (turned_away_iff (split_getElem? ht) (congrArg Prod.snd hstart.symm)).mpr hcount

end Turned

section Signals

variable (radio)

def signal (g : GatewayLoraPhy K) (e : Time × Input K) : Option (Event K) :=
  match e.2 with
  | .startReceive _ rxPowerDbm sf duration frequencyMHz =>
      some (.new g.interference.next e.1 duration rxPowerDbm sf frequencyMHz)
  | .send size txParams frequencyMHz txPowerDbm =>
      some (.new g.interference.next e.1 (getOnAirTime radio.clock size txParams) txPowerDbm txParams.sf
        frequencyMHz)
  | .run _ => none

def signals (past : Steps K) : List (Event K) := past.filterMap fun t => signal radio t.pre t.event

def Due (g : GatewayLoraPhy K) (e : Time × Input K) : Prop :=
  match e.2 with
  | .run id => ∃ entry ∈ find id g.queue, entry.call.1 = e.1
  | _ => True

/-- Time goes on, no further than to the next call, and a call comes when it is
due; no signal ends before it starts. -/
structure Timely (g : GatewayLoraPhy K) (e : Time × Input K) : Prop where
  later : g.now ≤ e.1
  first : ∀ entry ∈ g.queue.pending, e.1 ≤ entry.call.1
  due : Due g e
  proper : ∀ s ∈ signal radio g e, s.startTime ≤ s.endTime

omit [FloorRing K] in
instance (g : GatewayLoraPhy K) : (e : Time × Input K) → Decidable (Due g e)
  | (_, .run id) => inferInstanceAs (Decidable (∃ entry ∈ find id g.queue, _))
  | (_, .send _ _ _ _) => .isTrue trivial
  | (_, .startReceive _ _ _ _ _) => .isTrue trivial

instance (g : GatewayLoraPhy K) (e : Time × Input K) : Decidable (Timely radio g e) :=
  decidable_of_iff (g.now ≤ e.1 ∧ (∀ entry ∈ g.queue.pending, e.1 ≤ entry.call.1) ∧ Due g e ∧
    ∀ s ∈ signal radio g e, s.startTime ≤ s.endTime)
    ⟨fun ⟨later, first, due, proper⟩ => ⟨later, first, due, proper⟩,
      fun h => ⟨h.later, h.first, h.due, h.proper⟩⟩

structure Kept (g : GatewayLoraPhy K) (e : Time × Input K) (g' : GatewayLoraPhy K) : Prop where
  now : g'.now = e.1
  log : (signal radio g e = none ∧ g'.interference = g.interference) ∨
    ∃ duration rxPowerDbm sf frequencyMHz,
      signal radio g e = some (.new g.interference.next e.1 duration rxPowerDbm sf frequencyMHz) ∧
      add e.1 duration rxPowerDbm sf frequencyMHz g.interference =
        some (.new g.interference.next e.1 duration rxPowerDbm sf frequencyMHz, g'.interference)
  calls : ∀ entry ∈ g'.queue.pending, entry ∈ g.queue.pending ∨ entry.call.2 = .txFinished ∨
    ∃ packet s, s ∈ signal radio g e ∧ entry.call = (s.endTime, .endReceive packet s)

/-- Of all signals only some that are old have gone from those that are kept. -/
structure Remembers (past : Steps K) (g : GatewayLoraPhy K) : Prop where
  sub : g.interference.events.Sublist (signals radio past)
  kept : g.interference.events.filter (fun e => ¬ Old g.now e) = (signals radio past).filter fun e => ¬ Old g.now e
  proper : ∀ s ∈ signals radio past, s.startTime ≤ s.endTime
  ends : ∀ entry ∈ g.queue.pending, ∀ packet event, entry.call.2 = .endReceive packet event →
    entry.call.1 = event.endTime ∧ event.startTime ≤ event.endTime

variable {radio}

theorem machine_kept {g g' : GatewayLoraPhy K} {e : Time × Input K} {out : Option (Outcome K)}
    (hstep : machine radio g e = some (g', out)) : Kept radio g e g' := by
  obtain ⟨now, e⟩ := e
  cases e with
  | startReceive packet rxPowerDbm sf duration frequencyMHz =>
      obtain ⟨interference, _, hadd, hcases⟩ := startReceive_cases hstep
      rcases hcases with ⟨_, rfl, _⟩ | ⟨i, path, _, _, _, ⟨rfl, _⟩ | ⟨rfl, _⟩⟩
      · exact ⟨rfl, .inr ⟨_, _, _, _, rfl, hadd⟩, fun entry hentry => .inl hentry⟩
      · exact ⟨rfl, .inr ⟨_, _, _, _, rfl, hadd⟩, fun entry hentry => .inl hentry⟩
      · refine ⟨rfl, .inr ⟨_, _, _, _, rfl, hadd⟩, fun entry hentry => ?_⟩
        rcases mem_schedule.mp hentry with hentry | rfl
        · exact .inl hentry
        · exact .inr (.inr ⟨packet, _, rfl, rfl⟩)
  | send size txParams frequencyMHz txPowerDbm =>
      obtain ⟨g₁, hsend, hpair⟩ := Option.map_eq_some_iff.mp hstep
      cases hpair
      obtain ⟨⟨event, interference⟩, hadd, rfl⟩ := Option.map_eq_some_iff.mp hsend
      obtain ⟨rfl, _⟩ := add_eq_some hadd
      refine ⟨rfl, .inr ⟨_, _, _, _, rfl, hadd⟩, fun entry hentry => ?_⟩
      rcases mem_schedule.mp hentry with hentry | rfl
      · exact .inl hentry
      · exact .inr (.inl rfl)
  | run id =>
      rw [machine] at hstep
      dsimp only at hstep
      split at hstep
      · cases hstep
        exact ⟨rfl, .inl ⟨rfl, rfl⟩, fun entry hentry => .inl hentry⟩
      · next entry hfind =>
          cases hcall : entry.call.2 with
          | txFinished =>
              rw [hcall] at hstep
              cases hstep
              exact ⟨rfl, .inl ⟨rfl, rfl⟩, fun entry hentry => .inl (mem_cancel.mp hentry).1⟩
          | endReceive packet event =>
              rw [hcall] at hstep
              obtain ⟨destroyed, _, hpair⟩ := Option.map_eq_some_iff.mp hstep
              cases hpair
              obtain ⟨hqueue, hinterference, hnow, _⟩ := freePath_frame event
                { g with now := now, queue := cancel (some id) g.queue }
              refine ⟨hnow, .inl ⟨rfl, hinterference⟩, fun entry hentry => .inl ?_⟩
              rw [hqueue] at hentry
              exact (mem_cancel.mp hentry).1

omit [Field K] [LinearOrder K] [FloorRing K] in
theorem filter_later {kept all : List (Event K)} {now later : Time} (hle : now ≤ later)
    (h : kept.filter (fun e => ¬ Old now e) = all.filter fun e => ¬ Old now e) :
    kept.filter (fun e => ¬ Old later e) = all.filter fun e => ¬ Old later e := by
  have hrefine (l : List (Event K)) :
      l.filter (fun e => ¬ Old later e) = (l.filter fun e => ¬ Old now e).filter fun e => ¬ Old later e := by
    rw [List.filter_filter]
    refine List.filter_congr fun e _ => ?_
    by_cases hold : Old now e
    · simp [hold, hold.mono hle]
    · simp [hold]
  rw [hrefine kept, hrefine all, h]

theorem remembers_step {past : Steps K} {g g' : GatewayLoraPhy K} {e : Time × Input K} {out : Option (Outcome K)}
    (h : Remembers radio past g) (htimely : Timely radio g e)
    (hstep : machine radio g e = some (g', out)) :
    Remembers radio (past ++ [⟨g, e, g', out⟩]) g' := by
  have hkept := machine_kept hstep
  have hsignals : signals radio (past ++ [⟨g, e, g', out⟩]) =
      signals radio past ++ (signal radio g e).toList := by
    rw [signals, List.filterMap_append]
    cases hsignal : signal radio g e <;> simp [signals, hsignal]
  have hproper : ∀ s ∈ signals radio past ++ (signal radio g e).toList, s.startTime ≤ s.endTime := by
    intro s hs
    rcases List.mem_append.mp hs with hs | hs
    · exact h.proper s hs
    · exact htimely.proper s (Option.mem_toList.mp hs)
  have hlater := filter_later htimely.later h.kept
  have hlog : g'.interference.events.Sublist (signals radio past ++ (signal radio g e).toList) ∧
      g'.interference.events.filter (fun s => ¬ Old e.1 s) =
        (signals radio past ++ (signal radio g e).toList).filter fun s => ¬ Old e.1 s := by
    rcases hkept.log with ⟨hnone, hsame⟩ | ⟨duration, rxPowerDbm, sf, frequencyMHz, hsome, hadd⟩
    · rw [hsame, hnone, Option.toList_none, List.append_nil]
      exact ⟨h.sub, hlater⟩
    · have hduration : 0 ≤ duration := le_add_iff_nonneg_right _ |>.mp (htimely.proper _ hsome)
      obtain ⟨events, hspec, hsub, hfilter⟩ := add_spec hduration
      rw [hspec] at hadd
      have hevents : g'.interference.events = events :=
        (congrArg LoraInterferenceHelper.events (Prod.mk.inj (Option.some.inj hadd)).2).symm
      rw [hevents, hsome, Option.toList_some]
      refine ⟨hsub.trans (h.sub.append_right _), ?_⟩
      rw [hfilter, List.filter_append, List.filter_append, hlater]
  refine ⟨hsignals ▸ hlog.1, ?_, hsignals ▸ hproper, ?_⟩
  · rw [hkept.now, hsignals]
    exact hlog.2
  · intro entry hentry packet event hcall
    rcases hkept.calls entry hentry with hold | htx | ⟨packet', s, hs, heq⟩
    · exact h.ends entry hold packet event hcall
    · rw [htx] at hcall
      cases hcall
    · rw [heq] at hcall ⊢
      cases hcall
      exact ⟨rfl, htimely.proper event hs⟩

theorem remembers_of_run {frequencies : List K} {es : List (Time × Input K)} {past rest : Steps K}
    {t : Transition (GatewayLoraPhy K) (Time × Input K) (Option (Outcome K))}
    (hrun : transitions (machine radio) (newGateway frequencies) es = past ++ t :: rest)
    (htimely : ∀ a ∈ past, Timely radio a.pre a.event) : Remembers radio past t.pre := by
  refine history_invariant (fun past g => (∀ a ∈ past, Timely radio a.pre a.event) →
    Remembers radio past g) (fun past g e g' out ih hstep hall => ?_) (fun _ => ?_) hrun htimely
  · rw [List.forall_mem_append, List.forall_mem_singleton] at hall
    exact remembers_step (ih hall.1) hall.2 hstep
  · exact ⟨.refl _, rfl, nofun, nofun⟩

theorem run_fate {g g' : GatewayLoraPhy K} {time : Time} {id : Nat} {outcome : Outcome K}
    (hstep : machine radio g (time, .run id) = some (g', some outcome)) :
    ∃ entry ∈ find id g.queue, entry.call.2 = .endReceive outcome.packet outcome.event ∧
      ∃ destroyed, isDestroyedByInterference radio.decibels outcome.event g.interference.events = some destroyed ∧
        outcome.fate = GatewayLoraPhy.fateOf destroyed := by
  rw [machine] at hstep
  dsimp only at hstep
  split at hstep
  · cases hstep
  · next entry hfind =>
      cases hcall : entry.call.2 with
      | txFinished =>
          rw [hcall] at hstep
          cases hstep
      | endReceive packet event =>
          rw [hcall] at hstep
          obtain ⟨destroyed, hdestroyed, hpair⟩ := Option.map_eq_some_iff.mp hstep
          cases hpair
          exact ⟨entry, hfind, hcall, destroyed, hdestroyed, rfl⟩

/-- The clean-up is never noticed: what becomes of a packet of at most two seconds is what
all signals that ever came would make of it. -/
theorem fate_of_all_signals {frequencies : List K} {es : List (Time × Input K)} {past rest : Steps K}
    {t : Transition (GatewayLoraPhy K) (Time × Input K) (Option (Outcome K))}
    (hrun : transitions (machine radio) (newGateway frequencies) es = past ++ t :: rest)
    (htimely : ∀ a ∈ past ++ [t], Timely radio a.pre a.event) {id : Nat} (hevent : t.event.2 = .run id)
    {outcome : Outcome K} (hout : t.out = some outcome) (hshort : outcome.event.getDuration ≤ oldEventThreshold)
    {destroyed : UInt8}
    (hall : isDestroyedByInterference radio.decibels outcome.event (signals radio past) = some destroyed) :
    outcome.fate = GatewayLoraPhy.fateOf destroyed := by
  rw [List.forall_mem_append, List.forall_mem_singleton] at htimely
  have hremembers := remembers_of_run hrun htimely.1
  have hstep := step_of_mem (show t ∈ transitions (machine radio) (newGateway frequencies) es by rw [hrun]; simp)
  obtain ⟨g, ⟨time, e⟩, g', out⟩ := t
  dsimp only at hevent hout
  subst hevent hout
  obtain ⟨entry, hfind, hcall, destroyed', hdestroyed, hfate⟩ := run_fate hstep
  obtain ⟨entry', hfind', hdue⟩ := htimely.2.due
  obtain rfl : entry' = entry := Option.some.inj (hfind'.symm.trans hfind)
  obtain ⟨hmem, _⟩ := find_eq_some hfind
  obtain ⟨hend, hproper⟩ := hremembers.ends entry' hmem _ _ hcall
  have hkept := isDestroyedByInterference_of_kept (hend.symm.trans hdue) hproper hshort hremembers.proper
    hremembers.sub (filter_later htimely.2.later hremembers.kept) hall
  rw [hkept] at hdestroyed
  rw [hfate, Option.some.inj hdestroyed]

theorem fate_of_all_signals_crowded :
    ∃ t ∈ crowdedTransitions, ∃ outcome, t.out = some outcome ∧ outcome.event.id = 0 ∧
      outcome.fate = .received := by
  have htimely : ∀ a ∈ crowdedTransitions, Timely euRadio a.pre a.event := by decide +kernel
  have hout : ∃ t ∈ crowdedTransitions[3]?, ∃ outcome ∈ t.out,
      outcome.event.id = 0 ∧ outcome.event.getDuration ≤ oldEventThreshold ∧
        isDestroyedByInterference coarse outcome.event (signals euRadio (crowdedTransitions.take 3)) = some 0 := by
    decide +kernel
  obtain ⟨t, ht, outcome, hsome, hid, hshort, hdestroyed⟩ := hout
  have hrun : (100000000, .run 0) = t.event := Option.some.inj (event_of_getElem? ht)
  have hall : ∀ a ∈ crowdedTransitions.take 3 ++ [t], Timely euRadio a.pre a.event := by
    intro a ha
    rcases List.mem_append.mp ha with hpast | hlast
    · exact htimely a (List.mem_of_mem_take hpast)
    · rw [List.mem_singleton.mp hlast]
      exact htimely t (List.mem_of_getElem? ht)
  refine ⟨t, List.mem_of_getElem? ht, outcome, hsome, hid, ?_⟩
  exact fate_of_all_signals (split_getElem? ht) hall (congrArg Prod.snd hrun.symm) hsome hshort hdestroyed

end Signals

section Tables

variable (radio)

/-- No signal ends before it starts, and all have a spreading factor of the tables. -/
def Sound (g : GatewayLoraPhy K) (e : Time × Input K) : Prop :=
  ∀ s ∈ signal radio g e, s.startTime ≤ s.endTime ∧ (indexOfSf s.sf).isSome

instance (g : GatewayLoraPhy K) (e : Time × Input K) : Decidable (Sound radio g e) :=
  inferInstanceAs (Decidable (∀ s ∈ signal radio g e, _))

variable {radio}

structure Tabled (g : GatewayLoraPhy K) : Prop where
  log : ∀ s ∈ g.interference.events, (indexOfSf s.sf).isSome
  calls : ∀ entry ∈ g.queue.pending, ∀ packet event, entry.call.2 = .endReceive packet event →
    (indexOfSf event.sf).isSome

theorem tabled_step {g g' : GatewayLoraPhy K} {e : Time × Input K} {out : Option (Outcome K)} (h : Tabled g)
    (hsound : Sound radio g e) (hstep : machine radio g e = some (g', out)) : Tabled g' := by
  have hkept := machine_kept hstep
  refine ⟨fun s hs => ?_, fun entry hentry packet event hcall => ?_⟩
  · rcases hkept.log with ⟨_, hsame⟩ | ⟨duration, rxPowerDbm, sf, frequencyMHz, hsome, hadd⟩
    · exact h.log s (hsame ▸ hs)
    · rcases List.mem_append.mp ((add_sublist hadd).subset hs) with hold | hnew
      · exact h.log s hold
      · obtain rfl := List.mem_singleton.mp hnew
        exact (hsound _ hsome).2
  · rcases hkept.calls entry hentry with hold | htx | ⟨packet', s, hs, heq⟩
    · exact h.calls entry hold packet event hcall
    · rw [htx] at hcall
      cases hcall
    · rw [heq] at hcall
      cases hcall
      exact (hsound event hs).2

omit [FloorRing K] in
theorem verdict_isSome (db : Decibels K) {event : Event K} {events : List (Event K)}
    (hevent : (indexOfSf event.sf).isSome) (hevents : ∀ s ∈ events, (indexOfSf s.sf).isSome) :
    ∃ destroyed, isDestroyedByInterference db event events = some destroyed := by
  have hcovered : Covered event events := fun s hs _ => hevents s hs
  have henergies : cumulativeInterferenceEnergy db event events = some _ :=
    cumulativeInterferenceEnergy_eq_some_iff.mpr ⟨hcovered, rfl⟩
  obtain ⟨i, hi⟩ := Option.isSome_iff_exists.mp hevent
  have hrow : i < collisionSnir.length := indexOfSf_lt hi
  rw [isDestroyedByInterference, henergies, hi]
  simp only [Option.bind_eq_bind, Option.bind_some, List.getElem?_eq_getElem hrow]
  exact ⟨_, rfl⟩

omit [FloorRing K] in
theorem startReceive_isSome {g : GatewayLoraPhy K} {packet : List UInt8} {rxPowerDbm : K} {sf : UInt8}
    {duration : Time} {frequencyMHz : K} (hduration : 0 ≤ duration) (hsf : (indexOfSf sf).isSome) :
    g.startReceive packet rxPowerDbm sf duration frequencyMHz ≠ none := by
  obtain ⟨events, hadd, _⟩ : ∃ events, add g.now duration rxPowerDbm sf frequencyMHz g.interference =
      some (_, ⟨events, _⟩) ∧ _ := add_spec hduration
  obtain ⟨i, hi⟩ := Option.isSome_iff_exists.mp hsf
  have hsensitivity : i < (sensitivity (K := K)).length := indexOfSf_lt hi
  rw [GatewayLoraPhy.startReceive, hadd]
  simp only [Option.bind_eq_bind, Option.bind_some]
  split
  · nofun
  · rw [hi, Option.bind_some, List.getElem?_eq_getElem hsensitivity, Option.bind_some]
    split <;> nofun

theorem machine_isSome {g : GatewayLoraPhy K} {e : Time × Input K} (h : Tabled g) (hsound : Sound radio g e) :
    machine radio g e ≠ none := by
  obtain ⟨now, e⟩ := e
  cases e with
  | startReceive packet rxPowerDbm sf duration frequencyMHz =>
      obtain ⟨hproper, hsf⟩ := hsound _ rfl
      exact startReceive_isSome (le_add_iff_nonneg_right _ |>.mp hproper) hsf
  | send size txParams frequencyMHz txPowerDbm =>
      obtain ⟨hproper, _⟩ := hsound _ rfl
      have hduration : 0 ≤ getOnAirTime radio.clock size txParams := le_add_iff_nonneg_right _ |>.mp hproper
      obtain ⟨events, hadd, _⟩ : ∃ events, add now (getOnAirTime radio.clock size txParams) txPowerDbm txParams.sf
          frequencyMHz g.interference = some (_, ⟨events, _⟩) ∧ _ := add_spec hduration
      rw [machine]
      dsimp only
      rw [GatewayLoraPhy.send]
      dsimp only
      rw [hadd]
      exact Option.some_ne_none _
  | run id =>
      rw [machine]
      dsimp only
      split
      · exact Option.some_ne_none _
      · next entry hfind =>
          obtain ⟨hmem, _⟩ := find_eq_some hfind
          cases hcall : entry.call.2 with
          | txFinished => exact Option.some_ne_none _
          | endReceive packet event =>
              obtain ⟨destroyed, hdestroyed⟩ :=
                verdict_isSome radio.decibels (h.calls entry hmem packet event hcall) h.log
              rw [GatewayLoraPhy.call, GatewayLoraPhy.endReceive]
              dsimp only
              rw [hdestroyed]
              exact Option.some_ne_none _

/-- A gateway that hears and sends with the spreading factors 7 to 12 never looks past a table,
nor past the end of the signals that it keeps. -/
theorem gateway_never_stuck {frequencies : List K} {es : List (Time × Input K)}
    (hsound : ∀ t ∈ transitions (machine radio) (newGateway frequencies) es, Sound radio t.pre t.event) :
    ∀ g ∈ states (machine radio) (newGateway frequencies) es, ∀ e, Sound radio g e →
      machine radio g e ≠ none := by
  have htabled := states_of_steps Tabled (fun t => Sound radio t.pre t.event)
    (fun t h hstep hkind => tabled_step h hkind hstep) (s := newGateway frequencies) ⟨nofun, nofun⟩ hsound
  exact fun g hg e he => machine_isSome (htabled g hg) he

def faint : List (Time × Input ℚ) :=
  (List.range 100).map fun i => ((i : Time), .startReceive [] (-200) 7 100000000 868.5)

/-- The next signal finds all of them old, and the clean-up erases every other one. -/
theorem gateway_never_stuck_faint :
    ∃ g ∈ states (machine euRadio) (newGateway euFrequencies) faint, g.interference.events.length = 100 ∧
      ∃ g' out, machine euRadio g (seconds 3, .startReceive [65] (-100) 7 100000000 868.5) = some (g', out) ∧
        g'.interference.events.length = 51 := by
  have hsound : ∀ t ∈ transitions (machine euRadio) (newGateway euFrequencies) faint,
      Sound euRadio t.pre t.event := by decide +kernel
  have hlast : ∃ g ∈ (states (machine euRadio) (newGateway euFrequencies) faint)[100]?,
      g.interference.events.length = 100 ∧
        Sound euRadio g (seconds 3, .startReceive [65] (-100) 7 100000000 868.5) ∧
        ∀ r ∈ machine euRadio g (seconds 3, .startReceive [65] (-100) 7 100000000 868.5),
          r.1.interference.events.length = 51 := by decide +kernel
  obtain ⟨g, hget, hlength, hnext, herased⟩ := hlast
  have hg := List.mem_of_getElem? hget
  obtain ⟨⟨g', out⟩, hstep⟩ := Option.ne_none_iff_exists'.mp (gateway_never_stuck hsound g hg _ hnext)
  exact ⟨g, hg, hlength, g', out, hstep, herased _ hstep⟩

end Tables

end UavMonitoring.GatewayRuns
