import Mathlib.Data.List.Basic

namespace UavMonitoring.Runs

variable {σ ε ω : Type}

structure Transition (σ ε ω : Type) where
  pre : σ
  event : ε
  post : σ
  out : ω

/-- The transitions of a run, in order. A step that does not come back ends
the run: nothing after it ever happens. -/
def transitions (step : σ → ε → Option (σ × ω)) : σ → List ε → List (Transition σ ε ω)
  | _, [] => []
  | s, e :: es => match step s e with
      | none => []
      | some (s', o) => ⟨s, e, s', o⟩ :: transitions step s' es

def states (step : σ → ε → Option (σ × ω)) (s : σ) (es : List ε) : List σ :=
  s :: (transitions step s es).map Transition.post

def total (f : σ → ε → σ) : σ → ε → Option (σ × Unit) := fun s e => some (f s e, ())

theorem transitions_cons (step : σ → ε → Option (σ × ω)) (s s' : σ) (e : ε) (o : ω) (es : List ε)
    (h : step s e = some (s', o)) :
    transitions step s (e :: es) = ⟨s, e, s', o⟩ :: transitions step s' es := by
  simp only [transitions, h]

theorem transitions_cons_none (step : σ → ε → Option (σ × ω)) (s : σ) (e : ε) (es : List ε)
    (h : step s e = none) : transitions step s (e :: es) = [] := by
  simp only [transitions, h]

@[simp] theorem transitions_total_cons (f : σ → ε → σ) (s : σ) (e : ε) (es : List ε) :
    transitions (total f) s (e :: es) = ⟨s, e, f s e, ()⟩ :: transitions (total f) (f s e) es := rfl

theorem pre_mem_states {step : σ → ε → Option (σ × ω)} {s : σ} {es : List ε} {t : Transition σ ε ω}
    (ht : t ∈ transitions step s es) : t.pre ∈ states step s es := by
  induction es generalizing s with
  | nil => cases ht
  | cons e es ih =>
      cases hstep : step s e with
      | none =>
          rw [transitions_cons_none _ _ _ _ hstep] at ht
          cases ht
      | some r =>
          rw [transitions_cons _ _ _ _ _ _ hstep] at ht
          rcases List.mem_cons.mp ht with rfl | ht
          · exact List.mem_cons_self
          · have hlater := ih ht
            rw [states] at hlater ⊢
            rw [transitions_cons _ _ _ _ _ _ hstep]
            exact List.mem_cons_of_mem _ hlater

theorem foldl_mem_states (f : σ → ε → σ) (s : σ) (es : List ε) :
    es.foldl f s ∈ states (total f) s es := by
  induction es generalizing s with
  | nil => simp [states]
  | cons e es ih =>
      have h := ih (f s e)
      simp only [states, List.foldl_cons, transitions_total_cons, List.map_cons, List.mem_cons] at h ⊢
      exact .inr h

theorem step_of_mem {step : σ → ε → Option (σ × ω)} {s : σ} {es : List ε} {t : Transition σ ε ω}
    (h : t ∈ transitions step s es) : step t.pre t.event = some (t.post, t.out) := by
  induction es generalizing s with
  | nil => simp [transitions] at h
  | cons e es ih =>
      cases hs : step s e with
      | none => simp [transitions_cons_none _ _ _ _ hs] at h
      | some r =>
          obtain ⟨s', o⟩ := r
          rw [transitions_cons _ _ _ _ _ _ hs] at h
          rcases List.mem_cons.mp h with rfl | h
          · exact hs
          · exact ih h

theorem event_of_getElem? {step : σ → ε → Option (σ × ω)} {s : σ} {es : List ε} {i : Nat}
    {t : Transition σ ε ω} (h : (transitions step s es)[i]? = some t) : es[i]? = some t.event := by
  induction es generalizing s i with
  | nil => simp [transitions] at h
  | cons e es ih =>
      cases hs : step s e with
      | none => simp [transitions_cons_none _ _ _ _ hs] at h
      | some r =>
          obtain ⟨s', o⟩ := r
          rw [transitions_cons _ _ _ _ _ _ hs] at h
          cases i with
          | zero => cases h; rfl
          | succ i => exact ih h

theorem events_prefix (step : σ → ε → Option (σ × ω)) (s : σ) (es : List ε) :
    (transitions step s es).map Transition.event <+: es := by
  induction es generalizing s with
  | nil => exact List.prefix_rfl
  | cons e es ih =>
      cases hs : step s e with
      | none =>
          rw [transitions_cons_none _ _ _ _ hs]
          exact List.nil_prefix
      | some r =>
          rw [transitions_cons _ _ _ _ _ _ hs]
          exact List.cons_prefix_cons.mpr ⟨rfl, ih r.1⟩

/-- What every step preserves holds before every transition; it may speak about
everything the run did so far. -/
theorem history_invariant {step : σ → ε → Option (σ × ω)} (I : List (Transition σ ε ω) → σ → Prop)
    (hstep : ∀ past s e s' o, I past s → step s e = some (s', o) → I (past ++ [⟨s, e, s', o⟩]) s')
    {s : σ} (hs : I [] s) {es : List ε} {pre post : List (Transition σ ε ω)} {t : Transition σ ε ω}
    (h : transitions step s es = pre ++ t :: post) : I pre t.pre := by
  suffices hgen : ∀ past s es pre, I past s → transitions step s es = pre ++ t :: post →
      I (past ++ pre) t.pre from hgen [] s es pre hs h
  intro past s es pre hp h
  induction es generalizing past s pre with
  | nil => simp [transitions] at h
  | cons e es ih =>
      cases he : step s e with
      | none => simp [transitions_cons_none _ _ _ _ he] at h
      | some r =>
          obtain ⟨s', o⟩ := r
          rw [transitions_cons _ _ _ _ _ _ he] at h
          cases pre with
          | nil =>
              obtain ⟨rfl, _⟩ := List.cons.inj h
              rwa [List.append_nil]
          | cons t' pre =>
              obtain ⟨rfl, hrest⟩ := List.cons.inj h
              have := ih (past ++ [⟨s, e, s', o⟩]) s' pre (hstep past s e s' o hp he) hrest
              rwa [List.append_assoc] at this

theorem history_of_run {step : σ → ε → Option (σ × ω)} (I : List (Transition σ ε ω) → σ → Prop)
    (hstep : ∀ past s e s' o, I past s → step s e = some (s', o) → I (past ++ [⟨s, e, s', o⟩]) s')
    {s : σ} (hs : I [] s) (es : List ε) : ∃ s', I (transitions step s es) s' := by
  rcases List.eq_nil_or_concat (transitions step s es) with hnil | ⟨pre, t, hcat⟩
  · exact ⟨s, hnil ▸ hs⟩
  · rw [List.concat_eq_append] at hcat
    have hpre := history_invariant I hstep hs hcat
    have ht : t ∈ transitions step s es := by rw [hcat]; simp
    exact ⟨t.post, hcat ▸ hstep pre t.pre t.event t.post t.out hpre (step_of_mem ht)⟩

def goesTo (step : σ → ε → Option (σ × ω)) (s : σ) (es : List ε) : Option σ :=
  es.foldlM (fun s e => (step s e).map Prod.fst) s

theorem goesTo_cons (step : σ → ε → Option (σ × ω)) (s : σ) (e : ε) (es : List ε) :
    goesTo step s (e :: es) = (step s e).bind fun r => goesTo step r.1 es := by
  rw [goesTo, List.foldlM_cons]
  cases step s e <;> rfl

theorem goesTo_append (step : σ → ε → Option (σ × ω)) (s : σ) (es es' : List ε) :
    goesTo step s (es ++ es') = (goesTo step s es).bind fun s' => goesTo step s' es' := by
  rw [goesTo, List.foldlM_append]
  rfl

theorem transitions_append {step : σ → ε → Option (σ × ω)} {s s' : σ} {es : List ε}
    (h : goesTo step s es = some s') (es' : List ε) :
    transitions step s (es ++ es') = transitions step s es ++ transitions step s' es' := by
  induction es generalizing s with
  | nil => cases h; rfl
  | cons e es ih =>
      rw [goesTo_cons] at h
      obtain ⟨⟨s₁, o⟩, he, h⟩ := Option.bind_eq_some_iff.mp h
      rw [List.cons_append, transitions_cons _ _ _ _ _ _ he, transitions_cons _ _ _ _ _ _ he, ih h]
      rfl

theorem events_of_goesTo {step : σ → ε → Option (σ × ω)} {s s' : σ} {es : List ε}
    (h : goesTo step s es = some s') : (transitions step s es).map Transition.event = es := by
  induction es generalizing s with
  | nil => rfl
  | cons e es ih =>
      rw [goesTo_cons] at h
      obtain ⟨⟨s₁, o⟩, he, h⟩ := Option.bind_eq_some_iff.mp h
      rw [transitions_cons _ _ _ _ _ _ he, List.map_cons, ih h]

/-- When each transition of a system takes a part of it through some steps of a
machine of its own, the whole run takes the part through a run of that machine. -/
theorem goesTo_projection {S E W : Type} {big : S → E → Option (S × W)} {step : σ → ε → Option (σ × ω)}
    (part : S → σ) (told : Transition S E W → List ε)
    (hstep : ∀ t, big t.pre t.event = some (t.post, t.out) →
      goesTo step (part t.pre) (told t) = some (part t.post)) (s : S) (es : List E) :
    ∃ s', goesTo step (part s) ((transitions big s es).flatMap told) = some s' := by
  induction es generalizing s with
  | nil => exact ⟨part s, rfl⟩
  | cons e es ih =>
      cases he : big s e with
      | none => exact ⟨part s, by rw [transitions_cons_none _ _ _ _ he]; rfl⟩
      | some r =>
          obtain ⟨s₁, hs₁⟩ := ih r.1
          refine ⟨s₁, ?_⟩
          have hone := hstep ⟨s, e, r.1, r.2⟩ he
          rw [transitions_cons _ _ _ _ _ _ he, List.flatMap_cons, goesTo_append, hone]
          exact hs₁

theorem transitions_projection {S E W : Type} {big : S → E → Option (S × W)}
    {step : σ → ε → Option (σ × ω)} (part : S → σ) (told : Transition S E W → List ε)
    (hstep : ∀ t, big t.pre t.event = some (t.post, t.out) →
      goesTo step (part t.pre) (told t) = some (part t.post)) {s : S} {es : List E}
    {t : Transition S E W} (ht : t ∈ transitions big s es) :
    ∀ d ∈ transitions step (part t.pre) (told t),
      d ∈ transitions step (part s) ((transitions big s es).flatMap told) := by
  intro d hd
  induction es generalizing s with
  | nil => simp [transitions] at ht
  | cons e es ih =>
      cases he : big s e with
      | none => simp [transitions_cons_none _ _ _ _ he] at ht
      | some r =>
          have hone := hstep ⟨s, e, r.1, r.2⟩ he
          rw [transitions_cons _ _ _ _ _ _ he, List.mem_cons] at ht
          rw [transitions_cons _ _ _ _ _ _ he, List.flatMap_cons, transitions_append hone, List.mem_append]
          rcases ht with rfl | ht
          · exact .inl hd
          · exact .inr (ih ht)

theorem exists_first {α : Type} {P : α → Prop} {xs : List α} {x : α} (hx : x ∈ xs) (hp : P x) :
    ∃ before y after, xs = before ++ y :: after ∧ P y ∧ ∀ z ∈ before, ¬ P z := by
  classical
  have hfound : (xs.find? fun x => decide (P x)).isSome := List.find?_isSome.mpr ⟨x, hx, by simpa using hp⟩
  obtain ⟨y, hy⟩ := Option.isSome_iff_exists.mp hfound
  obtain ⟨hpy, before, after, rfl, hbefore⟩ := List.find?_eq_some_iff_append.mp hy
  exact ⟨before, y, after, rfl, of_decide_eq_true hpy, fun z hz => by simpa using hbefore z hz⟩

def Since (reset P : Transition σ ε ω → Prop) (past : List (Transition σ ε ω)) : Prop :=
  ∃ before t between, past = before ++ t :: between ∧ P t ∧ ∀ t' ∈ between, ¬ reset t'

theorem not_since_nil (reset P : Transition σ ε ω → Prop) : ¬ Since reset P [] := by
  rintro ⟨before, t, between, h, _⟩
  simp at h

theorem Since.imp_of_mem {reset P Q : Transition σ ε ω → Prop} {past : List (Transition σ ε ω)}
    (h : Since reset P past) (himp : ∀ t ∈ past, P t → Q t) : Since reset Q past := by
  obtain ⟨before, t, between, rfl, hp, hr⟩ := h
  exact ⟨before, t, between, rfl, himp t (by simp) hp, hr⟩

theorem exists_cut_concat_iff {α : Type} (Q : List α → α → List α → Prop) (xs : List α) (x : α) :
    (∃ before y between, xs ++ [x] = before ++ y :: between ∧ Q before y between) ↔
      Q xs x [] ∨ ∃ before y between, xs = before ++ y :: between ∧ Q before y (between ++ [x]) := by
  constructor
  · rintro ⟨before, y, between, h, hq⟩
    rcases List.eq_nil_or_concat between with rfl | ⟨between, b, rfl⟩
    · obtain ⟨rfl, he⟩ := List.append_inj' h rfl
      obtain rfl := List.singleton_inj.mp he
      exact .inl hq
    · rw [List.concat_eq_append, ← List.cons_append, ← List.append_assoc] at h
      obtain ⟨rfl, he⟩ := List.append_inj' h rfl
      obtain rfl := List.singleton_inj.mp he
      rw [List.concat_eq_append] at hq
      exact .inr ⟨before, y, between, rfl, hq⟩
  · rintro (hq | ⟨before, y, between, rfl, hq⟩)
    · exact ⟨xs, x, [], rfl, hq⟩
    · exact ⟨before, y, between ++ [x], by simp, hq⟩

theorem since_concat_iff (reset P : Transition σ ε ω → Prop) (past : List (Transition σ ε ω))
    (t : Transition σ ε ω) :
    Since reset P (past ++ [t]) ↔ P t ∨ (¬ reset t ∧ Since reset P past) := by
  rw [Since, exists_cut_concat_iff fun _ t between => P t ∧ ∀ t' ∈ between, ¬ reset t']
  simp only [List.not_mem_nil, false_implies, implies_true, and_true]
  apply or_congr_right
  constructor
  · rintro ⟨before, t', between, hpast, hp, hr⟩
    exact ⟨hr t (by simp), before, t', between, hpast, hp, fun a ha => hr a (by simp [ha])⟩
  · rintro ⟨hr, before, t', between, hpast, hp, hbetween⟩
    refine ⟨before, t', between, hpast, hp, ?_⟩
    simpa [or_imp, forall_and] using ⟨hbetween, hr⟩

/-- When a good state is followed by a good one exactly if the step meets `C`,
then along a whole run all states are good exactly if all steps meet `C`. -/
theorem states_step_iff (step : σ → ε → Option (σ × ω)) (I : σ → List ε → Prop) (P : σ → Prop)
    (C : σ → ε → Prop)
    (hI : ∀ s e s' o es, I s (e :: es) → step s e = some (s', o) → I s' es)
    (hP : ∀ s e s' o es, I s (e :: es) → step s e = some (s', o) → P s → (P s' ↔ C s e))
    {s : σ} (es : List ε) (hs : I s es) (hp : P s) :
    (∀ s' ∈ states step s es, P s') ↔ ∀ t ∈ transitions step s es, C t.pre t.event := by
  induction es generalizing s with
  | nil => simp [states, transitions, hp]
  | cons e es ih =>
      cases he : step s e with
      | none => simp [states, transitions_cons_none _ _ _ _ he, hp]
      | some r =>
          obtain ⟨s', o⟩ := r
          have hcons : (∀ a ∈ states step s (e :: es), P a) ↔ P s ∧ ∀ a ∈ states step s' es, P a := by
            simp only [states, transitions_cons _ _ _ _ _ _ he, List.map_cons, List.forall_mem_cons]
          rw [hcons, transitions_cons _ _ _ _ _ _ he, List.forall_mem_cons]
          constructor
          · rintro ⟨_, h⟩
            have hp' : P s' := h _ List.mem_cons_self
            exact ⟨(hP s e s' o es hs he hp).mp hp', (ih (hI s e s' o es hs he) hp').mp h⟩
          · rintro ⟨hc, h⟩
            have hp' : P s' := (hP s e s' o es hs he hp).mpr hc
            exact ⟨hp, (ih (hI s e s' o es hs he) hp').mpr h⟩

theorem states_of_steps {step : σ → ε → Option (σ × ω)} (P : σ → Prop) (C : Transition σ ε ω → Prop)
    (hstep : ∀ t, P t.pre → step t.pre t.event = some (t.post, t.out) → C t → P t.post) {s : σ} (hs : P s)
    {es : List ε} (hC : ∀ t ∈ transitions step s es, C t) : ∀ s' ∈ states step s es, P s' := by
  induction es generalizing s with
  | nil => simpa [states, transitions] using hs
  | cons e es ih =>
      cases he : step s e with
      | none => simpa [states, transitions_cons_none _ _ _ _ he] using hs
      | some r =>
          rw [transitions_cons _ _ _ _ _ _ he, List.forall_mem_cons] at hC
          have hpost := hstep ⟨s, e, r.1, r.2⟩ hs he hC.1
          rw [states, transitions_cons _ _ _ _ _ _ he, List.map_cons]
          exact List.forall_mem_cons.mpr ⟨hs, ih hpost hC.2⟩

theorem states_invariant {step : σ → ε → Option (σ × ω)} (P : σ → Prop)
    (hstep : ∀ s e s' o, P s → step s e = some (s', o) → P s') {s : σ} (hs : P s) (es : List ε) :
    ∀ s' ∈ states step s es, P s' := by
  refine (states_step_iff step (fun _ _ => True) P (fun _ _ => True) ?_ ?_ es trivial hs).mpr ?_
  · exact fun _ _ _ _ _ _ _ => trivial
  · exact fun s e s' o _ _ h hp => iff_of_true (hstep s e s' o hp h) trivial
  · exact fun _ _ => trivial

theorem states_iff (f : σ → ε → σ) (I : σ → List ε → Prop) (P : σ → Prop) (C : σ → ε → Prop)
    (hI : ∀ s e es, I s (e :: es) → I (f s e) es)
    (hP : ∀ s e es, I s (e :: es) → P s → (P (f s e) ↔ C s e))
    {s : σ} (es : List ε) (hs : I s es) (hp : P s) :
    (∀ s' ∈ states (total f) s es, P s') ↔
      ∀ t ∈ transitions (total f) s es, C t.pre t.event := by
  refine states_step_iff (total f) I P C ?_ ?_ es hs hp
  · intro s e s' o es hs h
    cases h
    exact hI s e es hs
  · intro s e s' o es hs h hp
    cases h
    exact hP s e es hs hp

theorem split_getElem {α : Type} {xs : List α} {i : Nat} (hi : i < xs.length) :
    xs = xs.take i ++ xs[i] :: xs.drop (i + 1) := by
  rw [← List.drop_eq_getElem_cons hi, List.take_append_drop]

theorem split_getElem? {α : Type} {xs : List α} {i : Nat} {x : α} (h : xs[i]? = some x) :
    xs = xs.take i ++ x :: xs.drop (i + 1) := by
  obtain ⟨hi, rfl⟩ := List.getElem?_eq_some_iff.mp h
  exact split_getElem hi

end UavMonitoring.Runs
