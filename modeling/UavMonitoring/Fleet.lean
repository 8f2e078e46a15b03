import UavMonitoring.TokenTraffic

namespace UavMonitoring.Fleet

open Basics EdsMonitor Clusters Runs Replicas SeedsManager SpringForces VirtualSprings ControlSteps
  ControlRuns TokenStore TokenTraffic

variable {K : Type} [Field K] [LinearOrder K]

/-- The attributes of the UAVs, each of which is found under its own id. -/
structure Team (K : Type) where
  config : Nat → Config K
  config_id : ∀ i, (config i).id = i

/-- What happens at a UAV by itself; its tokens come from the others. -/
inductive Act (K : Type)
  | updateList (tag : Option Nat) (pos : Vector3D K)
  | updateHistory (junk : EdsEntry K)
  | forwardedPacket
  | doInitializePrivate (w : World K)

/-- `GetEdsList` of a node answers from what that node has heard. -/
def shown (now : Time) (s : Nat → Uav K) (w : World K) : World K :=
  { w with coverage := fun j => getEdsList now (seconds 20) (s j).monitor }

def Act.event (now : Time) (s : Nat → Uav K) : Act K → Event K
  | .updateList tag pos => .updateList tag pos
  | .updateHistory junk => .updateHistory junk
  | .forwardedPacket => .forwardedPacket
  | .doInitializePrivate w => .doInitializePrivate (shown now s w)

/-- The calls of `ReceiveToken` at nodes other than `i`, which has its own tokens already. -/
def handOver (i : Nat) (s : Nat → Uav K) (ms : List (Nat × Token K)) : Option (Nat → Uav K) :=
  ms.foldlM (fun s m =>
    if m.1 = i then some s else (receiveToken m.2 (s m.1)).map (Function.update s m.1)) s

abbrev FleetEvent (K : Type) := Time × Nat × Act K

abbrev FleetStep (K : Type) := Transition (Nat → Uav K) (FleetEvent K) (List (Call K))

def step [FloorRing K] (c : CMath K) (team : Team K) (s : Nat → Uav K) (e : FleetEvent K) :
    Option ((Nat → Uav K) × List (Call K)) := do
  let (u, calls) ← ControlSteps.step c (team.config e.2.1) (s e.2.1) (e.1, e.2.2.event e.1 s)
  let s ← handOver e.2.1 (Function.update s e.2.1 u) (receipts calls)
  some (s, calls)

def run [FloorRing K] (c : CMath K) (team : Team K) (junk : Nat → Token K) (es : List (FleetEvent K)) :
    List (FleetStep K) :=
  transitions (step c team) (fun i => doInitialize (junk i)) es

section Scenario

def pair : Team ℚ := ⟨fun i => config i 1, fun _ => rfl⟩

def parted : List (FleetEvent ℚ) :=
  let hears (t : Int) : FleetEvent ℚ := (seconds t, 1, .updateList (some 5) ⟨200, 50, 0⟩)
  let controls (t : Int) (entries : List RoutingTableEntry) : FleetEvent ℚ :=
    (seconds t, 1, .doInitializePrivate (world entries))
  [controls 0 toBs, hears 695, controls 700 [], hears 1395, controls 1400 [], hears 2095,
    (seconds 2098, 2, .updateHistory ⟨0, 0, 0⟩), (seconds 2100, 1, .updateHistory ⟨0, 0, 0⟩),
    controls 2100 [], controls 2800 toBs]

end Scenario

section Steps

theorem handOver_eq {i : Nat} {s s' : Nat → Uav K} {ms : List (Nat × Token K)}
    (h : handOver i s ms = some s') (j : Nat) :
    (j = i → s' j = s j) ∧ (j ≠ i → ∃ tokens, s' j = { s j with tokens := tokens } ∧
      addAll (s j).tokens (ms.filterMap fun m => if m.1 = j then some m.2 else none) = some tokens) := by
  induction ms generalizing s with
  | nil =>
      cases h
      exact ⟨fun _ => rfl, fun _ => ⟨(s' j).tokens, rfl, rfl⟩⟩
  | cons m ms ih =>
      rw [handOver, List.foldlM_cons] at h
      obtain ⟨s₁, hm, h⟩ := Option.bind_eq_some_iff.mp h
      obtain ⟨hself, hother⟩ := ih h
      rw [List.filterMap_cons]
      split at hm
      · next hmi =>
          cases hm
          refine ⟨hself, fun hj => ?_⟩
          rw [if_neg (fun hmj => hj (hmj.symm.trans hmi))]
          exact hother hj
      · next hmi =>
          obtain ⟨u, hu, rfl⟩ := Option.map_eq_some_iff.mp hm
          obtain ⟨tokens, hadd, rfl⟩ := Option.map_eq_some_iff.mp hu
          by_cases hmj : m.1 = j
          · subst hmj
            rw [Function.update_self] at hother
            refine ⟨fun hj => absurd hj hmi, fun hj => ?_⟩
            obtain ⟨tokens', hs', hadd'⟩ := hother hj
            refine ⟨tokens', hs', ?_⟩
            rw [if_pos rfl]
            change takeAll addToken _ (m.2 :: _) = _
            rw [takeAll_cons, hadd]
            exact hadd'
          · rw [Function.update_of_ne (Ne.symm hmj)] at hself hother
            rw [if_neg hmj]
            exact ⟨hself, hother⟩

variable [FloorRing K] {c : CMath K} {team : Team K} {s s' : Nat → Uav K} {e : FleetEvent K}
  {calls : List (Call K)}

theorem step_parts (h : step c team s e = some (s', calls)) :
    ControlSteps.step c (team.config e.2.1) (s e.2.1) (e.1, e.2.2.event e.1 s) =
        some (s' e.2.1, calls) ∧
      ∀ j, j ≠ e.2.1 → ∃ tokens, s' j = { s j with tokens := tokens } ∧
        addAll (s j).tokens (tokensTo j calls) = some tokens := by
  obtain ⟨⟨u, calls⟩, hstep, h⟩ := Option.bind_eq_some_iff.mp h
  obtain ⟨s₁, hs₁, h⟩ := Option.bind_eq_some_iff.mp h
  cases h
  refine ⟨?_, fun j hj => ?_⟩
  · rw [(handOver_eq hs₁ e.2.1).1 rfl, Function.update_self]
    exact hstep
  · obtain ⟨tokens, hs', hadd⟩ := (handOver_eq hs₁ j).2 hj
    rw [Function.update_of_ne hj] at hs' hadd
    exact ⟨tokens, hs', hadd⟩

def Act.isControl : Act K → Bool
  | .doInitializePrivate _ => true
  | _ => false

theorem step_quiet {cfg : Config K} {u u' : Uav K} {act : Act K} {now : Time} (hact : ¬ act.isControl)
    (h : ControlSteps.step c cfg u (now, act.event now s) = some (u', calls)) :
    u'.tokens = u.tokens ∧ u'.token = u.token ∧ calls = [] := by
  cases act with
  | doInitializePrivate w => exact absurd rfl hact
  | updateList tag pos | updateHistory junk | forwardedPacket =>
      cases h
      exact ⟨rfl, rfl, rfl⟩

def copies (team : Team K) (i : Nat) (act : Act K) (j : Nat) : Nat :=
  match act with
  | .doInitializePrivate w => (routed (team.config i) w).count j + if j = i then 1 else 0
  | _ => 0

theorem step_shares (h : step c team s e = some (s', calls)) :
    ∃ ts : List (Token K), (∀ t ∈ ts, Sends (team.config e.2.1) e.1 (s e.2.1) t) ∧
      (¬ e.2.2.isControl → ts = []) ∧
      ∀ j, addAll (s j).tokens (repeated (copies team e.2.1 e.2.2 j) ts) = some (s' j).tokens := by
  obtain ⟨hown, hothers⟩ := step_parts h
  obtain ⟨now, i, act⟩ := e
  dsimp only at hown hothers ⊢
  by_cases hact : act.isControl
  · cases act with
    | doInitializePrivate w =>
        obtain ⟨ts, hts, hmoves, _⟩ := doInitializePrivate_moves hown
        refine ⟨ts, hts, fun hno => absurd rfl hno, fun j => ?_⟩
        rw [team.config_id] at hmoves
        by_cases hj : j = i
        · subst hj
          rw [copies, if_pos rfl]
          exact tokens_of_moves hmoves
        · obtain ⟨tokens, hs', hadd⟩ := hothers j hj
          have hto := tokensTo_of_moves hmoves j
          dsimp only at hto
          rw [copies, if_neg hj, Nat.add_zero, hs']
          rw [hto] at hadd
          exact hadd
    | _ => cases hact
  · obtain ⟨htokens, _, rfl⟩ := step_quiet hact hown
    refine ⟨[], by simp, fun _ => rfl, fun j => congrArg some ?_⟩
    by_cases hj : j = i
    · rw [hj, htokens]
    · obtain ⟨tokens, hs', hadd⟩ := hothers j hj
      cases hadd
      rw [hs']

end Steps

section Runs

variable [FloorRing K] (c : CMath K) (team : Team K) (junk : Nat → Token K) (es : List (FleetEvent K))

def told (j : Nat) (a : FleetStep K) : List (Time × Event K) :=
  if a.event.2.1 = j then [(a.event.1, a.event.2.2.event a.event.1 a.pre)]
  else (tokensTo j a.out).map fun t => (a.event.1, .receiveToken t)

theorem goesTo_receiveToken (cfg : Config K) (now : Time) (ts : List (Token K)) (u : Uav K) :
    goesTo (ControlSteps.step c cfg) u (ts.map fun t => (now, .receiveToken t)) =
      (addAll u.tokens ts).map fun tokens => { u with tokens := tokens } := by
  change _ = (takeAll addToken u.tokens ts).map _
  induction ts generalizing u with
  | nil => rfl
  | cons t ts ih =>
      rw [List.map_cons, goesTo_cons, takeAll_cons]
      change ((Option.map _ (Option.map _ _)).bind _) = _
      cases addToken t u.tokens with
      | none => rfl
      | some tokens => exact ih { u with tokens := tokens }

theorem goesTo_told {a : FleetStep K} (h : step c team a.pre a.event = some (a.post, a.out)) (j : Nat) :
    goesTo (ControlSteps.step c (team.config j)) (a.pre j) (told j a) = some (a.post j) := by
  obtain ⟨hown, hothers⟩ := step_parts h
  rw [told]
  by_cases hj : a.event.2.1 = j
  · rw [if_pos hj, goesTo_cons]
    subst hj
    rw [hown]
    rfl
  · obtain ⟨tokens, hpost, hadd⟩ := hothers j (Ne.symm hj)
    rw [if_neg hj, goesTo_receiveToken, hadd, hpost]
    rfl

/-- Whatever the interleaving, each UAV of a fleet goes through a run of its own
in which no step is stuck, and every step it takes in the fleet is one of them. -/
theorem run_projects (j : Nat) :
    let own := ControlRuns.run c (team.config j) (junk j) ((run c team junk es).flatMap (told j))
    own.map Transition.event = (run c team junk es).flatMap (told j) ∧
      ∀ a ∈ run c team junk es, a.event.2.1 = j →
        ⟨a.pre j, (a.event.1, a.event.2.2.event a.event.1 a.pre), a.post j, a.out⟩ ∈ own := by
  have htold (a : FleetStep K) (h : step c team a.pre a.event = some (a.post, a.out)) :=
    goesTo_told c team h j
  refine ⟨?_, fun a ha hj => ?_⟩
  · obtain ⟨u, hu⟩ := goesTo_projection (fun s => s j) (told j) htold (fun i => doInitialize (junk i)) es
    exact events_of_goesTo hu
  · refine transitions_projection (fun s => s j) (told j) htold ha _ ?_
    obtain ⟨hown, _⟩ := step_parts (step_of_mem ha)
    subst hj
    rw [told, if_pos rfl, transitions_cons _ _ _ _ _ _ hown]
    exact List.mem_cons_self

/-- A step gives the same tokens in the same order to every UAV it reaches, and
nothing to any other, however often it reaches them. -/
theorem delivered_alike [IsStrictOrderedRing K] :
    ∀ a ∈ run c team junk es, ∃ ts : List (Token K),
      (∀ t ∈ ts, Sends (team.config a.event.2.1) a.event.1 (a.pre a.event.2.1) t) ∧
      ∀ j, addAll (a.pre j).tokens (if copies team a.event.2.1 a.event.2.2 j = 0 then [] else ts) =
        some (a.post j).tokens := by
  intro a ha
  obtain ⟨ts, hts, _, hshares⟩ := step_shares (step_of_mem ha)
  refine ⟨ts, hts, fun j => ?_⟩
  have hshare : takeAll addToken (a.pre j).tokens
      (repeated (copies team a.event.2.1 a.event.2.2 j) ts) = some (a.post j).tokens := hshares j
  split
  · next hnone =>
      rw [hnone, repeated_zero] at hshare
      exact hshare
  · next hsome =>
      rw [takeAll_repeated addToken_idempotent (Nat.pos_of_ne_zero hsome)] at hshare
      exact hshare

theorem delivered_alike_parted : ∃ a ∈ run rationalMath pair (fun _ => noToken) parted,
    a.pre 2 ≠ a.post 2 ∧ ∃ ts : List (Token ℚ),
      (∀ t ∈ ts, Sends (pair.config a.event.2.1) a.event.1 (a.pre a.event.2.1) t) ∧
      ∀ j, addAll (a.pre j).tokens (if copies pair a.event.2.1 a.event.2.2 j = 0 then [] else ts) =
        some (a.post j).tokens := by
  have hstep : (run rationalMath pair (fun _ => noToken) parted).any (fun a =>
      decide ((a.pre 2).tokens.length = 0) && decide ((a.post 2).tokens.length = 1)) = true := by
    decide +kernel
  obtain ⟨a, ha, hfacts⟩ := List.any_eq_true.mp hstep
  simp only [Bool.and_eq_true, decide_eq_true_eq] at hfacts
  obtain ⟨hpre, hpost⟩ := hfacts
  refine ⟨a, ha, fun h => ?_, delivered_alike rationalMath pair (fun _ => noToken) parted a ha⟩
  rw [h, hpost] at hpre
  cases hpre

/-- UAVs hold the same tokens, each in the same place, in all states of a run
exactly when every step that changes the store of one of them reaches all of them. -/
theorem stores_agree_iff [IsStrictOrderedRing K] (members : Nat → Prop) :
    (∀ s ∈ states (step c team) (fun i => doInitialize (junk i)) es,
      ∀ j k, members j → members k → (s j).tokens = (s k).tokens) ↔
    ∀ a ∈ run c team junk es, ∀ j, members j → (a.post j).tokens ≠ (a.pre j).tokens →
      ∀ k, members k → 0 < copies team a.event.2.1 a.event.2.2 k := by
  let Shared (s : Nat → Uav K) (e : FleetEvent K) : Prop :=
    ∀ s' calls, step c team s e = some (s', calls) → ∀ j, members j → (s' j).tokens ≠ (s j).tokens →
      ∀ k, members k → 0 < copies team e.2.1 e.2.2 k
  have hcond : (∀ a ∈ run c team junk es, ∀ j, members j → (a.post j).tokens ≠ (a.pre j).tokens →
      ∀ k, members k → 0 < copies team a.event.2.1 a.event.2.2 k) ↔
      ∀ a ∈ run c team junk es, Shared a.pre a.event := by
    refine forall₂_congr fun a ha => ⟨fun h s' calls hs' => ?_, fun h => h _ _ (step_of_mem ha)⟩
    rw [step_of_mem ha] at hs'
    cases hs'
    exact h
  rw [hcond]
  refine states_step_iff (step c team) (fun _ _ => True) _ Shared ?_ ?_ es trivial fun _ _ _ _ => rfl
  · exact fun _ _ _ _ _ _ _ => trivial
  · intro s e s' calls es _ hstep hagree
    obtain ⟨ts, _, _, hshares⟩ := step_shares hstep
    constructor
    · intro hagree' s₁ calls₁ hs₁ j hj hchanged k hk
      rw [hstep] at hs₁
      cases hs₁
      by_contra hnone
      have hshare := hshares k
      rw [Nat.eq_zero_of_not_pos hnone, repeated_zero] at hshare
      apply hchanged
      rw [hagree' j k hj hk, hagree j k hj hk]
      exact (Option.some.inj hshare).symm
    · intro hshared
      by_cases hall : ∀ k, members k → 0 < copies team e.2.1 e.2.2 k
      · exact agree_step addToken_idempotent (fun j k => hagree j k) hall fun j _ => hshares j
      · have hkeep (j : Nat) (hj : members j) : (s' j).tokens = (s j).tokens := by
          by_contra hchanged
          exact hall (hshared s' calls hstep j hj hchanged)
        intro j k hj hk
        rw [hkeep j hj, hkeep k hk, hagree j k hj hk]

theorem stores_agree_iff_parted :
    (∀ s ∈ states (step rationalMath pair) (fun _ => doInitialize noToken) parted,
      ∀ j k, (j = 1 ∨ j = 2) → (k = 1 ∨ k = 2) → (s j).tokens = (s k).tokens) ↔
    ∀ a ∈ run rationalMath pair (fun _ => noToken) parted, ∀ j, (j = 1 ∨ j = 2) →
      (a.post j).tokens ≠ (a.pre j).tokens →
        ∀ k, (k = 1 ∨ k = 2) → 0 < copies pair a.event.2.1 a.event.2.2 k :=
  stores_agree_iff rationalMath pair (fun _ => noToken) parted fun j => j = 1 ∨ j = 2

structure Minted (team : Team K) (b : FleetStep K) (t : Token K) : Prop where
  control : b.event.2.2.isControl
  expires : t.expires = b.event.1 + minutes 10
  kind : ((team.config b.event.2.1).predictionMode = 1 ∧ t.id = UInt32.ofNat b.event.2.1) ∨
    (((team.config b.event.2.1).predictionMode = 2 ∨ (team.config b.event.2.1).predictionMode = 3) ∧
      ∃ n : UInt16, t.id = UInt32.ofNat (b.event.2.1 * 10 + n.toNat))

def MintedIn (team : Team K) (past : List (FleetStep K)) (t : Token K) : Prop :=
  ∃ b ∈ past, Minted team b t

/-- All tokens about, stored or held back, were made up in the past. -/
structure Authentic (team : Team K) (past : List (FleetStep K)) (s : Nat → Uav K) : Prop where
  stored : ∀ j, ∀ t ∈ (s j).tokens, MintedIn team past t
  held : ∀ j, (s j).token.expires ≠ seconds 0 → MintedIn team past (s j).token

omit [FloorRing K] in
theorem mem_of_addAll {stored stored' ts : List (Token K)} (h : addAll stored ts = some stored') {t : Token K}
    (ht : t ∈ stored') : t ∈ stored ∨ t ∈ ts := by
  change takeAll addToken stored ts = _ at h
  induction ts generalizing stored with
  | nil => cases h; exact .inl ht
  | cons t₁ ts ih =>
      rw [takeAll_cons] at h
      obtain ⟨stored₁, hadd, h⟩ := Option.bind_eq_some_iff.mp h
      rcases ih h with hmem | hmem
      · rw [eq_put_of_addToken hadd] at hmem
        rcases FirstMatch.mem_of_mem_put hmem with hmem | rfl
        · exact .inl hmem
        · exact .inr List.mem_cons_self
      · exact .inr (List.mem_cons_of_mem _ hmem)

variable {c team} in
theorem held_step {s s' : Nat → Uav K} {e : FleetEvent K} {calls : List (Call K)}
    (h : step c team s e = some (s', calls)) (j : Nat) :
    (s' j).token = (s j).token ∨ (s' j).token.expires = seconds 0 ∨
      Minted team ⟨s, e, s', calls⟩ (s' j).token := by
  obtain ⟨hown, hothers⟩ := step_parts h
  obtain ⟨now, i, act⟩ := e
  dsimp only at hown hothers
  by_cases hj : j = i
  · subst hj
    by_cases hact : act.isControl
    · cases act with
      | doInitializePrivate w =>
          obtain ⟨_, _, _, hkeeps⟩ := doInitializePrivate_moves hown
          cases hkeeps with
          | same token => exact .inl token
          | sent token => exact .inr (.inl (by rw [token]; rfl))
          | issued v mode token =>
              refine .inr (.inr ⟨rfl, by rw [token]; rfl, .inl ⟨mode, ?_⟩⟩)
              rw [token]
              exact congrArg UInt32.ofNat (team.config_id j)
      | _ => cases hact
    · exact .inl (step_quiet hact hown).2.1
  · obtain ⟨tokens, hs', _⟩ := hothers j hj
    exact .inl (by rw [hs'])

variable {c team} in
theorem authentic_step {past : List (FleetStep K)} {s s' : Nat → Uav K} {e : FleetEvent K}
    {calls : List (Call K)} (ih : Authentic team past s) (h : step c team s e = some (s', calls)) :
    Authentic team (past ++ [⟨s, e, s', calls⟩]) s' := by
  have hold {t : Token K} (ht : MintedIn team past t) : MintedIn team (past ++ [⟨s, e, s', calls⟩]) t := by
    obtain ⟨b, hb, hmint⟩ := ht
    exact ⟨b, List.mem_append_left _ hb, hmint⟩
  have hnew {t : Token K} (ht : Minted team ⟨s, e, s', calls⟩ t) :
      MintedIn team (past ++ [⟨s, e, s', calls⟩]) t := ⟨_, by simp, ht⟩
  obtain ⟨ts, hts, hquiet, hshares⟩ := step_shares h
  constructor
  · intro j t ht
    rcases mem_of_addAll (hshares j) ht with ht | ht
    · exact hold (ih.stored j t ht)
    · obtain ⟨t', ht', hcopies⟩ := List.mem_flatMap.mp ht
      obtain rfl := (List.mem_replicate.mp hcopies).2
      rcases hts t ht' with ⟨⟨info, rfl⟩, hmode⟩ | ⟨rfl, hheld⟩
      · refine hnew ⟨?_, rfl, .inr ⟨hmode, info.id, ?_⟩⟩
        · by_contra hno
          rw [hquiet hno] at ht'
          cases ht'
        · exact congrArg (fun i => UInt32.ofNat (i * 10 + info.id.toNat)) (team.config_id _)
      · exact hold (ih.held _ hheld)
  · intro j hj
    rcases held_step h j with hsame | hnone | hmint
    · rw [hsame] at hj ⊢
      exact hold (ih.held j hj)
    · exact absurd hnone hj
    · exact hnew hmint

/-- In every state of every run each token stored or held back by a UAV has
been made up in an earlier control step of some UAV of the fleet, to expire ten
minutes after it, under the id of that UAV or of one of its clusters. -/
theorem tokens_authentic {past rest : List (FleetStep K)} {a : FleetStep K}
    (h : run c team junk es = past ++ a :: rest) : Authentic team past a.pre := by
  refine history_invariant (Authentic team) (fun _ _ _ _ _ ih hstep => authentic_step ih hstep) ?_ h
  exact ⟨fun _ _ ht => absurd ht List.not_mem_nil, fun _ hj => absurd rfl hj⟩

theorem tokens_authentic_parted : ∃ past a rest,
    run rationalMath pair (fun _ => noToken) parted = past ++ a :: rest ∧
      (a.pre 1).token.expires ≠ seconds 0 ∧ Authentic pair past a.pre := by
  let r := run rationalMath pair (fun _ => noToken) parted
  obtain ⟨a, ha⟩ : ∃ a, r[9]? = some a := Option.isSome_iff_exists.mp (by decide +kernel)
  have hsplit : r = r.take 9 ++ a :: r.drop 10 := by
    obtain ⟨hlt, rfl⟩ := List.getElem?_eq_some_iff.mp ha
    rw [← List.drop_eq_getElem_cons hlt, List.take_append_drop]
  have hheld : (r[9]?.map fun a => (a.pre 1).token.expires) = some (seconds 2700) := by decide +kernel
  rw [ha, Option.map_some, Option.some.injEq] at hheld
  refine ⟨_, a, _, hsplit, ?_, tokens_authentic rationalMath pair (fun _ => noToken) parted hsplit⟩
  rw [hheld]
  decide

end Runs

end UavMonitoring.Fleet
