import UavMonitoring.EuRegion

namespace UavMonitoring.ReceiveWindows

open Basics MacCommands FrameHeader SubBands EndDeviceMac EndDevice EventQueue Runs EuRegion

variable {K : Type} [Field K] [LinearOrder K]

def isReception (call : Time × Call) : Bool :=
  match call.2 with
  | .endReceive _ => true
  | _ => false

def ownCalls (q : Queue (Time × Call)) : List (Entry (Time × Call)) := calls (fun call => !isReception call) q

def receptions (q : Queue (Time × Call)) : List (Entry (Time × Call)) := calls isReception q

def Awake (state : State) : Prop := state = .standby ∨ state = .rx

/-- Where a device is between two packets: the calls that wait, the state of the
radio, and the handles of the windows. -/
inductive Phase : List (Entry (Time × Call)) → State → Option Nat → Option Nat → Prop
  | idle {state close second} (quiet : state ≠ .tx) : Phase [] state close second
  | sending {i j t t' close second} (other : i ≠ j) (before : t < t') :
      Phase [⟨i, t, .switchToStandby⟩, ⟨j, t', .txFinished⟩] .tx close second
  | sent {j t close second} : Phase [⟨j, t, .txFinished⟩] .standby close second
  | asleep {i j t close} (other : i ≠ j) :
      Phase [⟨i, t, .openFirstReceiveWindow⟩, ⟨j, t + seconds 1, .openSecondReceiveWindow⟩] .sleep close (some j)
  | firstWindow {j k t t' state} (other : j ≠ k) (before : t < t') (awake : Awake state) :
      Phase [⟨j, t', .openSecondReceiveWindow⟩, ⟨k, t, .closeFirstReceiveWindow⟩] state (some k) (some j)
  | answered {k t state second} (other : second ≠ some k) (awake : Awake state) :
      Phase [⟨k, t, .closeFirstReceiveWindow⟩] state (some k) second
  | between {j t state close} (quiet : state ≠ .tx) :
      Phase [⟨j, t, .openSecondReceiveWindow⟩] state close (some j)
  | secondWindow {k t state second} (other : second ≠ some k) (quiet : state ≠ .tx) :
      Phase [⟨k, t, .closeSecondReceiveWindow⟩] state (some k) second

/-- The radio receives what it is to stop receiving, one packet at most, and is
in the state that the pending calls take it to be in. -/
structure Radio (d : Device K) : Prop where
  distinct : Distinct d.queue
  reception : (receptions d.queue).length = if d.state = .rx then 1 else 0
  phase : Phase (ownCalls d.queue) d.state d.closeWindow d.secondReceiveWindow

/-- The simulator goes on with an event that is due and no later than the others. -/
def InOrder (d : Device K) (e : Time × Event K) : Prop :=
  (∀ entry ∈ d.queue.pending, e.1 ≤ entry.call.1) ∧
    match e.2 with
    | .run id _ => ∃ entry ∈ find id d.queue, entry.call.1 = e.1
    | _ => True

instance (d : Device K) : (e : Time × Event K) → Decidable (InOrder d e)
  | (_, .run id _) => inferInstanceAs (Decidable (_ ∧ ∃ entry ∈ find id d.queue, _))
  | (_, .send _ _) => inferInstanceAs (Decidable (_ ∧ True))
  | (_, .startReceive _ _ _ _ _) => inferInstanceAs (Decidable (_ ∧ True))

def Finishing (d : Device K) : Prop := ∃ entry ∈ d.queue.pending, entry.call.2 = .txFinished

instance (d : Device K) : Decidable (Finishing d) := inferInstanceAs (Decidable (∃ entry ∈ d.queue.pending, _))

section Calls

theorem ownCalls_cancel (handle : Option Nat) (q : Queue (Time × Call)) :
    ownCalls (cancel handle q) = (ownCalls q).filter fun e => some e.id ≠ handle := calls_cancel _ _ _

theorem ownCalls_schedule {q : Queue (Time × Call)} {t : Time} {call : Call}
    (hown : isReception (t, call) = false) :
    ownCalls (schedule (t, call) q) = ownCalls q ++ [⟨q.next, t, call⟩] := by
  rw [ownCalls, calls_schedule, hown]
  rfl

theorem receptions_schedule {q : Queue (Time × Call)} {t : Time} {call : Call}
    (hown : isReception (t, call) = false) : receptions (schedule (t, call) q) = receptions q := by
  rw [receptions, calls_schedule, hown]
  exact List.append_nil _

inductive Next (rest : List (Entry (Time × Call))) (state : State) (close second : Option Nat) :
    Entry (Time × Call) → Prop
  | switchToStandby {i t} (sending : state = .tx) (after : Phase rest .standby close second) :
      Next rest state close second ⟨i, t, .switchToStandby⟩
  | txFinished {i t} (standby : state = .standby) (last : rest = []) :
      Next rest state close second ⟨i, t, .txFinished⟩
  | openFirst {i j t} (asleep : state = .sleep) (handle : second = some j)
      (opens : rest = [⟨j, t + seconds 1, .openSecondReceiveWindow⟩]) :
      Next rest state close second ⟨i, t, .openFirstReceiveWindow⟩
  | closeFirst {i t} (awake : Awake state) (after : ∀ state, state ≠ .tx → Phase rest state close second) :
      Next rest state close second ⟨i, t, .closeFirstReceiveWindow⟩
  | openSecond {i t} (quiet : state ≠ .tx) (last : rest = []) (handle : second = some i) :
      Next rest state close second ⟨i, t, .openSecondReceiveWindow⟩
  | closeSecond {i t} (quiet : state ≠ .tx) (last : rest = []) :
      Next rest state close second ⟨i, t, .closeSecondReceiveWindow⟩

theorem next_of_phase {own : List (Entry (Time × Call))} {state : State} {close second : Option Nat}
    (hphase : Phase own state close second) {entry : Entry (Time × Call)} (hmem : entry ∈ own)
    (hfirst : ∀ other ∈ own, entry.call.1 ≤ other.call.1) :
    Next (own.filter fun e => some e.id ≠ some entry.id) state close second entry := by
  cases hphase with
  | idle quiet => cases hmem
  | @sending i j t t' close second other before =>
      simp only [List.mem_cons, List.not_mem_nil, or_false, forall_eq_or_imp, forall_eq] at hmem hfirst
      rcases hmem with rfl | rfl
      · refine .switchToStandby rfl ?_
        simp [other.symm]
        exact .sent
      · exact absurd hfirst.1 (not_le.mpr before)
  | sent =>
      obtain rfl := List.mem_singleton.mp hmem
      exact .txFinished rfl (by simp)
  | @asleep i j t close other =>
      simp only [List.mem_cons, List.not_mem_nil, or_false, forall_eq_or_imp, forall_eq] at hmem hfirst
      rcases hmem with rfl | rfl
      · exact .openFirst rfl rfl (by simp [other.symm])
      · exact absurd hfirst.1 (not_le.mpr (lt_add_of_pos_right t (by decide)))
  | @firstWindow j k t t' state other before awake =>
      simp only [List.mem_cons, List.not_mem_nil, or_false, forall_eq_or_imp, forall_eq] at hmem hfirst
      rcases hmem with rfl | rfl
      · exact absurd hfirst.2 (not_le.mpr before)
      · refine .closeFirst awake fun state quiet => ?_
        simp [other]
        exact .between quiet
  | @answered k t state second other awake =>
      obtain rfl := List.mem_singleton.mp hmem
      refine .closeFirst awake fun state quiet => ?_
      simp
      exact .idle quiet
  | between quiet =>
      obtain rfl := List.mem_singleton.mp hmem
      exact .openSecond quiet (by simp) rfl
  | secondWindow other quiet =>
      obtain rfl := List.mem_singleton.mp hmem
      exact .closeSecond quiet (by simp)

theorem switchToSleep_of_standby {d : Device K} (h : d.state = .standby) :
    d.switchToSleep = .ok { d with state := .sleep } := if_pos h

theorem Radio.silent {d : Device K} (h : Radio d) (hstate : d.state ≠ .rx) : receptions d.queue = [] :=
  List.length_eq_zero_iff.mp (h.reception.trans (if_neg hstate))

section Due

variable (cfg : Setting K) {d : Device K} (hdistinct : Distinct d.queue) (destroyed : Bool)
include hdistinct

theorem radio_txFinished (hsilent : (receptions d.queue).length = 0) (hstandby : d.state = .standby)
    (hlast : ownCalls d.queue = []) : ∃ d', d.call cfg destroyed .txFinished = .ok d' ∧ Radio d' := by
  refine ⟨_, switchToSleep_of_standby hstandby, distinct_schedule (distinct_schedule hdistinct _) _, ?_, ?_⟩
  · change (receptions (schedule (d.now + seconds 2, .openSecondReceiveWindow)
      (schedule (d.now + seconds 1, .openFirstReceiveWindow) d.queue))).length = 0
    rw [receptions_schedule rfl, receptions_schedule rfl, hsilent]
  · have hcalls : ownCalls (schedule (d.now + seconds 2, .openSecondReceiveWindow)
        (schedule (d.now + seconds 1, .openFirstReceiveWindow) d.queue)) =
        [⟨d.queue.next, d.now + seconds 1, .openFirstReceiveWindow⟩,
          ⟨d.queue.next + 1, d.now + seconds 1 + seconds 1, .openSecondReceiveWindow⟩] := by
      rw [ownCalls_schedule rfl, ownCalls_schedule rfl, hlast, add_assoc]
      rfl
    have hasleep : Phase [⟨d.queue.next, d.now + seconds 1, .openFirstReceiveWindow⟩,
        ⟨d.queue.next + 1, d.now + seconds 1 + seconds 1, .openSecondReceiveWindow⟩] .sleep d.closeWindow
        (some (d.queue.next + 1)) := .asleep (Nat.succ_ne_self d.queue.next).symm
    rw [← hcalls] at hasleep
    exact hasleep

theorem radio_openFirst (hsilent : (receptions d.queue).length = 0) {j : Nat}
    (handle : d.secondReceiveWindow = some j)
    (hopens : ownCalls d.queue = [⟨j, d.now + seconds 1, .openSecondReceiveWindow⟩]) :
    ∃ d', d.call cfg destroyed .openFirstReceiveWindow = .ok d' ∧ Radio d' := by
  have hj : j ≠ d.queue.next := by
    have hmem : ⟨j, d.now + seconds 1, .openSecondReceiveWindow⟩ ∈ ownCalls d.queue := by
      rw [hopens]
      exact List.mem_singleton.mpr rfl
    exact Nat.ne_of_lt (hdistinct.fresh _ (mem_calls.mp hmem).1)
  refine ⟨_, rfl, distinct_schedule hdistinct _, ?_, ?_⟩
  · change (receptions (schedule (d.now + 200000000, .closeFirstReceiveWindow) d.queue)).length = 0
    rw [receptions_schedule rfl, hsilent]
  · have hcalls : ownCalls (schedule (d.now + 200000000, .closeFirstReceiveWindow) d.queue) =
        [⟨j, d.now + seconds 1, .openSecondReceiveWindow⟩,
          ⟨d.queue.next, d.now + 200000000, .closeFirstReceiveWindow⟩] := by
      rw [ownCalls_schedule rfl, hopens]
      rfl
    have hwindow := Phase.firstWindow hj (add_lt_add_right (by decide : (200000000 : Time) < seconds 1) d.now)
      (.inl rfl)
    rw [← hcalls, ← handle] at hwindow
    exact hwindow

theorem radio_closeFirst (hcount : (receptions d.queue).length = if d.state = .rx then 1 else 0)
    (hawake : Awake d.state)
    (hafter : ∀ state, state ≠ .tx → Phase (ownCalls d.queue) state d.closeWindow d.secondReceiveWindow) :
    ∃ d', d.call cfg destroyed .closeFirstReceiveWindow = .ok d' ∧ Radio d' := by
  rw [Device.call]
  rcases hawake with hstandby | hrx
  · rw [if_neg (by rw [hstandby]; decide)] at hcount
    rw [hstandby]
    exact ⟨_, switchToSleep_of_standby hstandby, hdistinct, hcount, hafter .sleep (by decide)⟩
  · simp only [hrx]
    exact ⟨d, rfl, hdistinct, hcount, hafter d.state (by rw [hrx]; decide)⟩

theorem radio_openSecond (hcount : (receptions d.queue).length = if d.state = .rx then 1 else 0)
    (hquiet : d.state ≠ .tx) (hlast : ownCalls d.queue = [])
    (hne : d.secondReceiveWindow ≠ some d.queue.next) :
    ∃ d', d.call cfg destroyed .openSecondReceiveWindow = .ok d' ∧ Radio d' := by
  by_cases hrx : d.state = .rx
  · refine ⟨d, if_pos hrx, hdistinct, hcount, ?_⟩
    rw [hlast]
    exact .idle hquiet
  · rw [if_neg hrx] at hcount
    refine ⟨_, if_neg hrx, distinct_schedule hdistinct _, ?_, ?_⟩
    · change (receptions (schedule (d.now + 200000000, .closeSecondReceiveWindow) d.queue)).length = 0
      rw [receptions_schedule rfl, hcount]
    · have hcalls : ownCalls (schedule (d.now + 200000000, .closeSecondReceiveWindow) d.queue) =
          [⟨d.queue.next, d.now + 200000000, .closeSecondReceiveWindow⟩] := by
        rw [ownCalls_schedule rfl, hlast]
        rfl
      have hwindow : Phase [⟨d.queue.next, d.now + 200000000, .closeSecondReceiveWindow⟩] .standby
          (some d.queue.next) d.secondReceiveWindow := .secondWindow hne (by decide)
      rw [← hcalls] at hwindow
      exact hwindow

theorem radio_closeSecond (hcount : (receptions d.queue).length = if d.state = .rx then 1 else 0)
    (hquiet : d.state ≠ .tx) (hlast : ownCalls d.queue = []) :
    ∃ d', d.call cfg destroyed .closeSecondReceiveWindow = .ok d' ∧ Radio d' := by
  have hidle (state : State) (h : state ≠ .tx) :
      Phase (ownCalls d.queue) state d.closeWindow d.secondReceiveWindow := hlast ▸ .idle h
  rw [Device.call]
  cases hstate : d.state with
  | tx => exact absurd hstate hquiet
  | rx | sleep => exact ⟨d, rfl, hdistinct, hcount, hidle d.state hquiet⟩
  | standby =>
      rw [hstate] at hcount
      exact ⟨_, switchToSleep_of_standby hstate, hdistinct, hcount, hidle .sleep (by decide)⟩

end Due

theorem radio_ownCall (cfg : Setting K) {d : Device K} (h : Radio d) {entry : Entry (Time × Call)}
    (hmem : entry ∈ d.queue.pending) (hown : isReception entry.call = false)
    (hfirst : ∀ other ∈ d.queue.pending, entry.call.1 ≤ other.call.1) (destroyed : Bool) :
    ∃ d', ({ d with now := entry.call.1, queue := cancel (some entry.id) d.queue } : Device K).call cfg destroyed
      entry.call.2 = .ok d' ∧ Radio d' := by
  have hdistinct : Distinct (cancel (some entry.id) d.queue) := distinct_cancel h.distinct _
  have hreceptions : receptions (cancel (some entry.id) d.queue) = receptions d.queue :=
    calls_cancel_other h.distinct hmem hown
  have hentry : entry ∈ ownCalls d.queue := mem_calls.mpr ⟨hmem, by rw [hown]; rfl⟩
  have hnext := next_of_phase h.phase hentry fun other hother => hfirst other (mem_calls.mp hother).1
  rw [← ownCalls_cancel] at hnext
  have hcount := h.reception
  rw [← hreceptions] at hcount
  have hfresh : entry.id < (cancel (some entry.id) d.queue).next := h.distinct.fresh entry hmem
  generalize cancel (some entry.id) d.queue = q at hdistinct hcount hnext hfresh
  cases hnext with
  | switchToStandby sending after =>
      rw [if_neg (by rw [sending]; decide)] at hcount
      exact ⟨_, rfl, hdistinct, hcount, after⟩
  | txFinished standby last =>
      rw [if_neg (by rw [standby]; decide)] at hcount
      exact radio_txFinished cfg hdistinct destroyed hcount standby last
  | openFirst asleep handle opens =>
      rw [if_neg (by rw [asleep]; decide)] at hcount
      exact radio_openFirst cfg hdistinct destroyed hcount handle opens
  | closeFirst awake after => exact radio_closeFirst cfg hdistinct destroyed hcount awake after
  | openSecond quiet last handle =>
      refine radio_openSecond cfg hdistinct destroyed hcount quiet last ?_
      rw [handle]
      exact fun hsame => Nat.ne_of_lt hfresh (Option.some.inj hsame)
  | closeSecond quiet last => exact radio_closeSecond cfg hdistinct destroyed hcount quiet last

end Calls

section Phases

theorem Phase.standby_of_rx {own : List (Entry (Time × Call))} {close second : Option Nat}
    (h : Phase own .rx close second) :
    Phase own .standby close second ∧
      Phase (own.filter fun e => some e.id ≠ second) .standby close second := by
  cases h with
  | idle quiet => exact ⟨.idle (by decide), .idle (by decide)⟩
  | @firstWindow j k t t' _ other before awake =>
      refine ⟨.firstWindow other before (.inl rfl), ?_⟩
      simp [other.symm]
      exact .answered (by simpa using other) (.inl rfl)
  | @answered k t _ _ other awake =>
      refine ⟨.answered other (.inl rfl), ?_⟩
      simp [other.symm]
      exact .answered other (.inl rfl)
  | between quiet =>
      refine ⟨.between (by decide), ?_⟩
      simp
      exact .idle (by decide)
  | secondWindow other quiet =>
      refine ⟨.secondWindow other (by decide), ?_⟩
      simp [other.symm]
      exact .secondWindow other (by decide)

theorem Phase.rx_of_standby {own : List (Entry (Time × Call))} {close second : Option Nat}
    (h : Phase own .standby close second) (hfinishing : ∀ e ∈ own, e.call.2 ≠ .txFinished) :
    Phase own .rx close second := by
  cases h with
  | idle quiet => exact .idle (by decide)
  | sent => exact absurd rfl (hfinishing _ List.mem_cons_self)
  | firstWindow other before awake => exact .firstWindow other before (.inr rfl)
  | answered other awake => exact .answered other (.inr rfl)
  | between quiet => exact .between (by decide)
  | secondWindow other quiet => exact .secondWindow other (by decide)

theorem Phase.nil_of_expired {own : List (Entry (Time × Call))} {state : State} {close second : Option Nat}
    (h : Phase own state close second) (hclose : ∀ e ∈ own, some e.id ≠ close)
    (hsecond : ∀ e ∈ own, some e.id ≠ second) (hfinishing : ∀ e ∈ own, e.call.2 ≠ .txFinished) : own = [] := by
  cases h with
  | idle quiet => rfl
  | sending other before => exact absurd rfl (hfinishing _ (List.mem_cons_of_mem _ List.mem_cons_self))
  | sent => exact absurd rfl (hfinishing _ List.mem_cons_self)
  | asleep other => exact absurd rfl (hsecond _ (List.mem_cons_of_mem _ List.mem_cons_self))
  | firstWindow other before awake => exact absurd rfl (hsecond _ List.mem_cons_self)
  | answered other awake => exact absurd rfl (hclose _ List.mem_cons_self)
  | between quiet => exact absurd rfl (hsecond _ List.mem_cons_self)
  | secondWindow other quiet => exact absurd rfl (hclose _ List.mem_cons_self)

end Phases

section Steps

variable {cfg : Setting K}

theorem receive_cases (cfg : Setting K) (d : Device K) (packet : List UInt8) :
    d.receive cfg packet ≠ .error .radio ∧ ∀ d', d.receive cfg packet = .ok d' →
      d'.state = d.state ∧ d'.closeWindow = d.closeWindow ∧ d'.secondReceiveWindow = d.secondReceiveWindow ∧
        (d'.queue = d.queue ∨ d'.queue = cancel d.secondReceiveWindow d.queue) := by
  rw [Device.receive.eq_def]
  split
  · exact ⟨by simp, fun d' h => by cases h⟩
  · split
    · exact ⟨by simp, fun d' h => by cases h; exact ⟨rfl, rfl, rfl, .inl rfl⟩⟩
    · split
      · split
        · split
          · exact ⟨by simp, fun d' h => by cases h⟩
          · exact ⟨by simp, fun d' h => by cases h; exact ⟨rfl, rfl, rfl, .inr rfl⟩⟩
        · exact ⟨by simp, fun d' h => by cases h; exact ⟨rfl, rfl, rfl, .inl rfl⟩⟩
      · exact ⟨by simp, fun d' h => by cases h⟩

theorem radio_reception (cfg : Setting K) {d : Device K} (h : Radio d) {entry : Entry (Time × Call)}
    (hmem : entry ∈ d.queue.pending) (hreception : isReception entry.call = true) (now : Time)
    (destroyed : Bool) :
    let r := ({ d with now := now, queue := cancel (some entry.id) d.queue } : Device K).call cfg destroyed
      entry.call.2
    r ≠ .error .radio ∧ ∀ d', r = .ok d' → Radio d' := by
  obtain ⟨id, t, call⟩ := entry
  cases call with
  | endReceive packet =>
      have hentry : ⟨id, t, .endReceive packet⟩ ∈ receptions d.queue := mem_calls.mpr ⟨hmem, rfl⟩
      have hrx : d.state = .rx := by
        by_contra hstate
        rw [h.silent hstate] at hentry
        cases hentry
      obtain ⟨only, honly⟩ := List.length_eq_one_iff.mp (h.reception.trans (if_pos hrx))
      obtain rfl : ⟨id, t, .endReceive packet⟩ = only := List.mem_singleton.mp (honly ▸ hentry)
      have hdistinct : Distinct (cancel (some id) d.queue) := distinct_cancel h.distinct _
      have hown : ownCalls (cancel (some id) d.queue) = ownCalls d.queue :=
        calls_cancel_other h.distinct hmem rfl
      have hreceptions : receptions (cancel (some id) d.queue) = [] := by
        rw [receptions, calls_cancel, ← receptions, honly]
        simp
      have hphase := h.phase
      rw [hrx, ← hown] at hphase
      obtain ⟨hkept, hcancelled⟩ := hphase.standby_of_rx
      generalize cancel (some id) d.queue = q at hdistinct hreceptions hkept hcancelled
      have hradio (d₁ : Device K) (hclose : d₁.closeWindow = d.closeWindow)
          (hsecond : d₁.secondReceiveWindow = d.secondReceiveWindow)
          (hqueue : d₁.queue = q ∨ d₁.queue = cancel d.secondReceiveWindow q) : Radio d₁.switchToStandby := by
        rcases hqueue with hqueue | hqueue
        · refine ⟨hqueue ▸ hdistinct, ?_, ?_⟩
          · change (receptions d₁.queue).length = 0
            rw [hqueue, hreceptions, List.length_nil]
          · change Phase (ownCalls d₁.queue) .standby d₁.closeWindow d₁.secondReceiveWindow
            rw [hqueue, hclose, hsecond]
            exact hkept
        · refine ⟨hqueue ▸ distinct_cancel hdistinct _, ?_, ?_⟩
          · change (receptions d₁.queue).length = 0
            rw [hqueue, receptions, calls_cancel, ← receptions, hreceptions, List.filter_nil, List.length_nil]
          · change Phase (ownCalls d₁.queue) .standby d₁.closeWindow d₁.secondReceiveWindow
            rw [hqueue, hclose, hsecond, ownCalls_cancel]
            exact hcancelled
      cases destroyed with
      | true =>
          refine ⟨nofun, fun d' hd => ?_⟩
          cases hd
          exact hradio { d with now := now, queue := q } rfl rfl (.inl rfl)
      | false =>
          obtain ⟨hne, hok⟩ := receive_cases cfg { d with now := now, queue := q } packet
          refine ⟨fun hfail => hne (map_eq_error.mp hfail), fun d' hd => ?_⟩
          · obtain ⟨d₁, hreceive, rfl⟩ := map_eq_ok.mp hd
            obtain ⟨_, hclose, hsecond, hqueue⟩ := hok d₁ hreceive
            exact hradio d₁ hclose hsecond hqueue
  | _ => cases hreception

theorem startReceive_cases {d d' : Device K} {packet : List UInt8} {rxPowerDbm : K} {sf : UInt8}
    {duration : Time}
    {frequency : K} (h : d.startReceive cfg packet rxPowerDbm sf duration frequency = .ok d') :
    d' = d ∨ d.state = .standby ∧
      d' = ({ d with state := .rx } : Device K).schedule duration (.endReceive packet) := by
  rw [Device.startReceive] at h
  split at h
  · exact .inl (Except.ok.inj h).symm
  · exact .inl (Except.ok.inj h).symm
  · exact .inl (Except.ok.inj h).symm
  · next hstandby =>
      split at h
      · cases h
      · split at h
        · rw [Device.switchToRx, if_pos hstandby] at h
          exact .inr ⟨hstandby, (Except.ok.inj h).symm⟩
        · exact .inl (Except.ok.inj h).symm

theorem radio_startReceive {d : Device K} (h : Radio d) (hstandby : d.state = .standby) (hquiet : ¬ Finishing d)
    (duration : Time) (packet : List UInt8) :
    Radio (({ d with state := .rx } : Device K).schedule duration (.endReceive packet)) := by
  have hown : ownCalls (schedule (d.now + duration, .endReceive packet) d.queue) = ownCalls d.queue := by
    rw [ownCalls, calls_schedule]
    exact List.append_nil _
  have hreceptions : receptions (schedule (d.now + duration, .endReceive packet) d.queue) =
      receptions d.queue ++ [⟨d.queue.next, d.now + duration, .endReceive packet⟩] := by
    rw [receptions, calls_schedule]
    rfl
  refine ⟨distinct_schedule h.distinct _, ?_, ?_⟩
  · change (receptions (schedule (d.now + duration, .endReceive packet) d.queue)).length = 1
    rw [hreceptions, h.silent (by rw [hstandby]; decide)]
    rfl
  · change Phase (ownCalls (schedule (d.now + duration, .endReceive packet) d.queue)) .rx d.closeWindow
      d.secondReceiveWindow
    rw [hown]
    have hphase := h.phase
    rw [hstandby] at hphase
    exact hphase.rx_of_standby fun e he hcall => hquiet ⟨e, (mem_calls.mp he).1, hcall⟩

variable [FloorRing K]

/-- No packet is sent while one is received or still being sent, and none is
received between the end of a transmission and the word of it. -/
def Orderly (t : Transition (Device K) (Time × Event K) (Option (Uplink K))) : Prop :=
  (t.out.isSome → t.pre.state ≠ .rx ∧ ¬ Finishing t.pre) ∧
    (t.pre.state = .standby → t.post.state = .rx → ¬ Finishing t.pre)

instance (t : Transition (Device K) (Time × Event K) (Option (Uplink K))) : Decidable (Orderly t) :=
  inferInstanceAs (Decidable (_ ∧ _))

theorem radio_transmits {d d' : Device K} {payload : List UInt8} {uplink : Uplink K} (h : Radio d)
    (htransmits : Transmits cfg d payload uplink d') (hclose : isExpired d.closeWindow d.queue)
    (hsecond : isExpired d.secondReceiveWindow d.queue) (hrx : d.state ≠ .rx) (hquiet : ¬ Finishing d) :
    Radio d' := by
  rw [isExpired, List.all_eq_true] at hclose hsecond
  simp only [decide_eq_true_eq] at hclose hsecond
  have hnil := h.phase.nil_of_expired (fun e he => hclose e (mem_calls.mp he).1)
    (fun e he => hsecond e (mem_calls.mp he).1) (fun e he hcall => hquiet ⟨e, (mem_calls.mp he).1, hcall⟩)
  refine ⟨?_, ?_, ?_⟩
  · rw [htransmits.queue]
    exact distinct_schedule (distinct_schedule h.distinct _) _
  · rw [htransmits.queue, htransmits.state, receptions_schedule rfl, receptions_schedule rfl, h.silent hrx]
    rfl
  · rw [htransmits.queue, htransmits.state, ownCalls_schedule rfl, ownCalls_schedule rfl, hnil]
    refine .sending (Nat.ne_of_lt (Nat.lt_succ_self _)) ?_
    rw [← add_assoc]
    exact lt_add_of_pos_right _ (by decide)

variable [IsStrictOrderedRing K]

omit [IsStrictOrderedRing K] in
theorem radio_run {d : Device K} {now : Time} {id : Nat} {destroyed : Bool} (h : Radio d)
    (horder : InOrder d (now, .run id destroyed)) :
    step cfg d (now, .run id destroyed) ≠ .error .radio ∧
      ∀ d' out, step cfg d (now, .run id destroyed) = .ok (d', out) → Radio d' := by
  obtain ⟨hfirst, entry, hdue, hnow⟩ := horder
  have hfind : find id d.queue = some entry := hdue
  obtain ⟨hmem, rfl⟩ := find_eq_some hfind
  dsimp only at hnow hfirst
  subst hnow
  rw [step]
  dsimp only
  rw [hfind]
  dsimp only
  cases hreception : isReception entry.call with
  | true =>
      obtain ⟨hne, hok⟩ := radio_reception cfg h hmem hreception entry.call.1 destroyed
      refine ⟨fun hfail => hne (map_eq_error.mp hfail), fun d' out hd => ?_⟩
      obtain ⟨d₁, hcall, hpair⟩ := map_eq_ok.mp hd
      cases hpair
      exact hok d' hcall
  | false =>
      obtain ⟨d₁, hcall, hradio⟩ := radio_ownCall cfg h hmem hreception hfirst destroyed
      rw [hcall]
      refine ⟨fun hfail => ?_, fun d' out hd => ?_⟩
      · cases hfail
      · cases hd
        exact hradio

theorem radio_step {d d' : Device K} {e : Time × Event K} {out : Option (Uplink K)} (h : Radio d)
    (horder : InOrder d e) (hstep : machine cfg d e = some (d', out)) (horderly : Orderly ⟨d, e, d', out⟩) :
    Radio d' := by
  obtain ⟨now, e⟩ := e
  have hnow : Radio { d with now := now } := ⟨h.distinct, h.reception, h.phase⟩
  rw [machine_eq_some] at hstep
  cases e with
  | send random payload =>
      rcases send_cases hstep with ⟨rfl, rfl⟩ | ⟨uplink, rfl, htransmits, hadmitted⟩
      · exact hnow
      · obtain ⟨hrx, hquiet⟩ := horderly.1 rfl
        exact radio_transmits hnow htransmits hadmitted.closeWindow hadmitted.secondReceiveWindow hrx hquiet
  | startReceive packet rxPowerDbm sf duration frequency =>
      obtain ⟨d₁, hreceive, hpair⟩ := map_eq_ok.mp hstep
      cases hpair
      rcases startReceive_cases hreceive with rfl | ⟨hstandby, rfl⟩
      · exact hnow
      · exact radio_startReceive hnow hstandby (horderly.2 hstandby rfl) duration packet
  | run id destroyed => exact (radio_run h horder).2 d' out hstep

omit [IsStrictOrderedRing K] in
theorem radio_safe {d : Device K} {e : Time × Event K} (h : Radio d) (horder : InOrder d e) :
    step cfg d e ≠ .error .radio := by
  obtain ⟨now, e⟩ := e
  cases e with
  | send random payload => exact fun hfail => (send_fails hfail).1 rfl
  | startReceive packet rxPowerDbm sf duration frequency =>
      exact fun hfail => by cases startReceive_fails (map_eq_error.mp hfail)
  | run id destroyed => exact (radio_run h horder).1

end Steps

end UavMonitoring.ReceiveWindows
