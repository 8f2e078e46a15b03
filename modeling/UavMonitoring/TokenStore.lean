import UavMonitoring.ControlRuns

namespace UavMonitoring.TokenStore

open Basics Clusters CounterLoop FirstMatch Runs SeedsManager SpringForces VirtualSprings ControlSteps
  ControlRuns

variable {K : Type} [Field K] [LinearOrder K]

def addAll (stored ts : List (Token K)) : Option (List (Token K)) :=
  ts.foldlM (fun stored token => addToken token stored) stored

/-- Nothing has happened to a store but calls of `AddToken` with tokens of the
kind `P`. -/
def Fed (P : Token K → Prop) (stored stored' : List (Token K)) : Prop :=
  ∃ ts, (∀ t ∈ ts, P t) ∧ addAll stored ts = some stored'

section Feeding

variable {P : Token K → Prop} {a b d : List (Token K)}

theorem Fed.refl (a : List (Token K)) : Fed P a a := ⟨[], by simp, rfl⟩

theorem Fed.trans (h : Fed P a b) (h' : Fed P b d) : Fed P a d := by
  obtain ⟨ts, hts, hadd⟩ := h
  obtain ⟨ts', hts', hadd'⟩ := h'
  refine ⟨ts ++ ts', List.forall_mem_append.mpr ⟨hts, hts'⟩, ?_⟩
  rw [addAll] at hadd hadd' ⊢
  rw [List.foldlM_append, hadd]
  exact hadd'

theorem Fed.mono {Q : Token K → Prop} (h : Fed P a b) (hPQ : ∀ t, P t → Q t) : Fed Q a b := by
  obtain ⟨ts, hts, hadd⟩ := h
  exact ⟨ts, fun t ht => hPQ t (hts t ht), hadd⟩

theorem addAll_singleton {t : Token K} (h : addToken t a = some b) : addAll a [t] = some b := by
  rw [addAll, List.foldlM_cons, h]
  rfl

theorem fed_addToken {t : Token K} (ht : P t) (h : addToken t a = some b) : Fed P a b :=
  ⟨[t], by simpa using ht, addAll_singleton h⟩

end Feeding

section Sending

variable {cfg : Config K} {w : World K} {token : Token K}

theorem receiveToken_fed {u u' : Uav K} (h : receiveToken token u = some u') :
    Fed (· = token) u.tokens u'.tokens := by
  obtain ⟨tokens, hadd, rfl⟩ := Option.map_eq_some_iff.mp h
  exact fed_addToken rfl hadd

theorem sendTo_fed {s s' : Uav K × List (Call K)} {j : Nat} (h : sendTo cfg token s j = some s') :
    Fed (· = token) s.1.tokens s'.1.tokens := by
  rw [sendTo] at h
  split at h
  · obtain ⟨u, hu, rfl⟩ := Option.map_eq_some_iff.mp h
    exact receiveToken_fed hu
  · cases h
    exact .refl _

theorem sendToken_fed {u : Uav K} {s : Uav K × List (Call K)} (h : sendToken cfg w token u = some s) :
    Fed (· = token) u.tokens s.1.tokens := by
  let Grown (s : Uav K × List (Call K)) : Prop := Fed (· = token) u.tokens s.1.tokens
  refine forEach_invariant Grown (fun s e s' hs he => ?_) (Fed.refl _) h
  refine forEach_invariant Grown (fun s j s' hs hj => ?_) hs he
  split at hj
  · exact Fed.trans hs (sendTo_fed hj)
  · cases hj
    exact hs

theorem issueToken_fed {s s' : Uav K × List (Call K)} (h : issueToken cfg w s token = some s') :
    Fed (· = token) s.1.tokens s'.1.tokens := by
  obtain ⟨⟨u₁, calls⟩, h₁, h⟩ := Option.bind_eq_some_iff.mp h
  obtain ⟨u₂, h₂, h⟩ := Option.bind_eq_some_iff.mp h
  cases h
  exact (sendToken_fed h₁).trans (receiveToken_fed h₂)

theorem issueTokens_fed {tokens : List (Token K)} {s s' : Uav K × List (Call K)}
    (h : issueTokens cfg w tokens s = some s') : Fed (· ∈ tokens) s.1.tokens s'.1.tokens := by
  refine forEach_invariant_mem (fun s' => Fed (· ∈ tokens) s.1.tokens s'.1.tokens) ?_ (Fed.refl _) h
  intro s₁ token htoken s₂ hs hissue
  refine Fed.trans hs ((issueToken_fed hissue).mono ?_)
  rintro t rfl
  exact htoken

theorem sendHeldToken_fed {u : Uav K} {s : Uav K × List (Call K)} (h : sendHeldToken cfg w u = some s) :
    Fed (fun t => t = u.token ∧ t.expires ≠ seconds 0) u.tokens s.1.tokens := by
  rw [sendHeldToken] at h
  split at h
  · cases h
    exact .refl _
  · next hheld =>
      obtain ⟨⟨u₁, sent⟩, h₁, h⟩ := Option.bind_eq_some_iff.mp h
      obtain ⟨u₂, h₂, h⟩ := Option.bind_eq_some_iff.mp h
      cases h
      refine ((sendToken_fed h₁).trans (receiveToken_fed h₂)).mono ?_
      rintro t rfl
      exact ⟨rfl, hheld⟩

end Sending

section Steps

variable {c : CMath K} {cfg : Config K} {w : World K} {now : Time}

inductive Origin (cfg : Config K) (u : Uav K) (e : Time × Event K) (t : Token K) : Prop
  | received (event : e.2 = .receiveToken t)
  | held (token : t = u.token) (holds : t.expires ≠ seconds 0) (w : World K)
      (event : e.2 = .doInitializePrivate w)
  | issued (info : ClusterInfo K) (token : t = tokenOf cfg e.1 info) (w : World K)
      (event : e.2 = .doInitializePrivate w)

def Issued (cfg : Config K) (now : Time) (t : Token K) : Prop :=
  ∃ info : ClusterInfo K, t = tokenOf cfg now info

omit [Field K] [LinearOrder K] in
theorem issued_of_mem {infos : List (ClusterInfo K)} {t : Token K}
    (h : t ∈ generateTokens cfg now infos) : Issued cfg now t := by
  obtain ⟨info, _, rfl⟩ := List.mem_map.mp h
  exact ⟨info, rfl⟩

theorem checkLostClusters_fed {u : Uav K} {s : Uav K × List (Call K)}
    (h : checkLostClusters c cfg w now u = some s) : Fed (Issued cfg now) u.tokens s.1.tokens := by
  rw [checkLostClusters] at h
  split at h
  · exact (issueTokens_fed h).mono fun _ => issued_of_mem
  · split at h
    · obtain ⟨⟨numClust, pt⟩, _, h⟩ := Option.bind_eq_some_iff.mp h
      obtain ⟨clusters, _, h⟩ := Option.bind_eq_some_iff.mp h
      exact (issueTokens_fed h).mono fun _ => issued_of_mem
    · cases h
      exact .refl _

theorem observe_fed {u : Uav K} {s : Uav K × List (Call K)} (h : observe c cfg w now u = some s) :
    Fed (Issued cfg now) u.tokens s.1.tokens := by
  obtain ⟨⟨neighbours, allNeighbours⟩, _, h⟩ := Option.bind_eq_some_iff.mp h
  have hfed := checkLostClusters_fed h
  exact hfed

variable [FloorRing K]

theorem connected_fed {entry : RoutingTableEntry} {u : Uav K} {s : Uav K × List (Call K)}
    (h : connected c cfg w now entry u = some s) :
    Fed (fun t => t = u.token ∧ t.expires ≠ seconds 0) u.tokens s.1.tokens := by
  obtain ⟨u₁, h₁, h⟩ := Option.bind_eq_some_iff.mp h
  obtain ⟨persist, rangeApprox, rfl⟩ := updatePersist_eq h₁
  obtain ⟨⟨u₂, sent⟩, h₂, h⟩ := Option.bind_eq_some_iff.mp h
  obtain ⟨⟨u₃, moved⟩, h₃, h⟩ := Option.bind_eq_some_iff.mp h
  have hu₃ := moveIfDue_eq h₃
  have hfed := sendHeldToken_fed h₂
  cases h
  dsimp only at hu₃ hfed ⊢
  rw [waitPause_eq, hu₃]
  exact hfed

theorem disconnected_tokens {u : Uav K} {s : Uav K × List (Call K)}
    (h : disconnected c cfg w now u = some s) : s.1.tokens = u.tokens := by
  rw [disconnected] at h
  split at h
  · cases h
    rw [giveUp]
    dsimp only
    split <;> rfl
  · obtain ⟨⟨u₁, calls⟩, h₁, h⟩ := Option.bind_eq_some_iff.mp h
    obtain ⟨moved, _, h⟩ := Option.bind_eq_some_iff.mp h
    cases h
    rw [comparePersist] at h₁
    split at h₁
    · cases h₁
      rfl
    · obtain ⟨simNode, _, h₁⟩ := Option.map_eq_some_iff.mp h₁
      cases h₁
      rfl

theorem act_fed {entry : RoutingTableEntry} {u : Uav K} {s : Uav K × List (Call K)}
    (h : act c cfg w now entry u = some s) :
    Fed (fun t => t = u.token ∧ t.expires ≠ seconds 0) u.tokens s.1.tokens := by
  rw [act] at h
  split at h
  · rw [disconnected_tokens h]
    exact .refl _
  · exact connected_fed h

theorem doInitializePrivate_fed {u u' : Uav K} {calls : List (Call K)}
    (h : doInitializePrivate c cfg w now u = some (u', calls)) :
    Fed (Origin cfg u (now, .doInitializePrivate w)) u.tokens u'.tokens := by
  obtain ⟨⟨u₁, seen⟩, h₁, h⟩ := Option.bind_eq_some_iff.mp h
  obtain ⟨entry, _, h⟩ := Option.bind_eq_some_iff.mp h
  obtain ⟨⟨u₂, rest⟩, h₂, h⟩ := Option.bind_eq_some_iff.mp h
  obtain ⟨neighbours, allNeighbours, _, ⟨tokens, hu₁⟩, _⟩ := observe_sent h₁
  have htoken : u₁.token = u.token := by
    dsimp only at hu₁
    rw [hu₁]
    rfl
  cases h
  apply (observe_fed h₁).mono (fun t ht => ?_) |>.trans ((act_fed h₂).mono fun t ht => ?_)
  · obtain ⟨info, hinfo⟩ := ht
    exact .issued info hinfo w rfl
  · exact .held (ht.1.trans htoken) ht.2 w rfl

theorem step_fed {u u' : Uav K} {e : Time × Event K} {calls : List (Call K)}
    (h : step c cfg u e = some (u', calls)) :
    ∃ ts, (∀ t ∈ ts, Origin cfg u e t) ∧ (∀ t, e.2 = .receiveToken t → ts = [t]) ∧
      addAll u.tokens ts = some u'.tokens := by
  obtain ⟨now, e⟩ := e
  cases e with
  | doInitializePrivate w =>
      obtain ⟨ts, hts, hadd⟩ := doInitializePrivate_fed h
      exact ⟨ts, hts, nofun, hadd⟩
  | receiveToken token =>
      obtain ⟨u₁, h₁, h⟩ := Option.map_eq_some_iff.mp h
      cases h
      obtain ⟨tokens, hadd, rfl⟩ := Option.map_eq_some_iff.mp h₁
      refine ⟨[token], ?_, ?_, addAll_singleton hadd⟩
      · rw [List.forall_mem_singleton]
        exact .received rfl
      · rintro t ⟨⟩
        rfl
  | updateList tag pos | updateHistory junk | forwardedPacket =>
      cases h
      exact ⟨[], nofun, nofun, rfl⟩

end Steps

section Places

def fresherToken : Token ℚ := ⟨⟨200, 50, 0⟩, seconds 2780, 3, ⟨1, 0, 0⟩, seconds 3380, 2⟩

/-- The connection is lost before 700 s, the token issued at 2100 s, to expire
at 2700 s, and the connection is back at 2800 s. -/
def heldBack : List (Time × Event ℚ) :=
  [control 0 toBs, hear 5 200 695, control 700 [], hear 5 200 1395, control 1400 [], hear 5 200 2095,
    (seconds 2100, .updateHistory ⟨0, 0, 0⟩), control 2100 [],
    (seconds 2790, .receiveToken fresherToken), control 2800 toBs]

theorem heldBack_reconnects : ∃ a, (run rationalMath (config 1 1) noToken heldBack)[9]? = some a ∧
    a.pre.tokens = [fresherToken] := by
  obtain ⟨a, ha⟩ : ∃ a, (run rationalMath (config 1 1) noToken heldBack)[9]? = some a :=
    Option.isSome_iff_exists.mp (by decide +kernel)
  have hpre : ((run rationalMath (config 1 1) noToken heldBack)[9]?.map fun a => a.pre.tokens) =
      some [fresherToken] := by decide +kernel
  rw [ha] at hpre
  exact ⟨a, ha, Option.some.inj hpre⟩

end Places

end UavMonitoring.TokenStore
