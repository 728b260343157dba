import CoreBroker.Proofs.Speculative.StepInversion
set_option autoImplicit false

/-!
# Steps of attempts

An attempt brings a core into the fulfiller and delivers it to the obtainment it works for; a core that
comes too late is disposed of.
-/

namespace CoreBroker.Speculative

variable {f f' : Speculative} {s s' : Scene} {a : Attempt} {me bound : Nat}

/-! ## Soundness under small changes -/

theorem IsSound.mono (hsound : f.IsSound bound) {bound' : Nat} (hle : bound ≤ bound') :
    f.IsSound bound' :=
  ⟨hsound.ids, hsound.serials, fun a ha => Nat.lt_of_lt_of_le (hsound.bounded a ha) hle,
    hsound.released, hsound.ended⟩

theorem serials_attemptGoTo (f : Speculative) (a : Attempt) (point : AttemptPoint) :
    (f.attemptGoTo a point).attempts.map (·.serial) = f.attempts.map (·.serial) := by
  simp only [Speculative.attemptGoTo, modifyAttempt, List.map_map]
  refine List.map_congr_left fun b _ => ?_
  by_cases hb : b.serial = a.serial
  · simp [hb]
  · simp [hb]

theorem IsSound.attemptGoTo (hsound : f.IsSound bound) (ha : a ∈ f.attempts)
    (point : AttemptPoint) : (f.attemptGoTo a point).IsSound bound where
  ids := hsound.ids
  serials := by
    rw [serials_attemptGoTo]
    exact hsound.serials
  bounded b hb := by
    have hmem : b.serial ∈ (f.attemptGoTo a point).attempts.map (·.serial) :=
      List.mem_map_of_mem hb
    rw [serials_attemptGoTo] at hmem
    obtain ⟨c, hc, hserial⟩ := List.mem_map.mp hmem
    exact hserial ▸ hsound.bounded c hc
  released := hsound.released
  ended hended := by
    rw [hsound.ended hended] at ha
    exact absurd ha List.not_mem_nil

theorem IsSound.exitAttempt (hsound : f.IsSound bound) (ha : a ∈ f.attempts) (isPanic : Bool) :
    (f.exitAttempt a isPanic).IsSound bound where
  ids := hsound.ids
  serials := hsound.serials.sublist (List.filter_sublist.map _)
  bounded b hb := hsound.bounded b (List.mem_filter.mp hb).1
  released := hsound.released
  ended hended := by
    rw [hsound.ended hended] at ha
    exact absurd ha List.not_mem_nil

/-! ## Where the delivered core is -/

/-- An attempt that goes on takes along its share of what is being delivered. -/
theorem delivered_attemptGoTo (hsound : f.IsSound bound) (ha : a ∈ f.attempts)
    (point : AttemptPoint) (core : Core) :
    (f.attemptGoTo a point).delivered core + (a.delivers core).toNat =
      f.delivered core + (decide (point = .settling (some core))).toNat := by
  have hcount := countP_replace hsound.serials ha rfl (fun b => { b with point })
    (fun b => b.delivers core)
  have hpoint : ({ a with point } : Attempt).delivers core =
      decide (point = .settling (some core)) := by
    simp only [Attempt.delivers]
    by_cases hp : point = .settling (some core)
    · simp [hp]
    · simp [hp]
  rw [hpoint] at hcount
  exact hcount

theorem delivered_exitAttempt (hsound : f.IsSound bound) (ha : a ∈ f.attempts) (isPanic : Bool)
    (core : Core) :
    (f.exitAttempt a isPanic).delivered core + (a.delivers core).toNat = f.delivered core :=
  countP_remove hsound.serials ha rfl fun b => b.delivers core

/-! ## Outcomes -/

/-- Where an outcome leaves the obtainment that it ends. -/
def phaseAfter (core : Option Core) : ObtainmentPhase Core := core.elim .idle .holding

section Outcome

variable {states : States Core}

/-- The provider of an attempt is asked by it, or at least not under its number. -/
theorem current_or_stale (states : States Core) (a : Attempt) :
    (∃ o, states.own? a.provider = some o ∧ o.isCurrent a.number = true) ∨
      ∀ o, states.own? a.provider = some o → o.isCurrent a.number = false := by
  cases hown : states.own? a.provider with
  | none => exact .inr fun o ho => absurd ho (by simp)
  | some o =>
    cases hcurrent : o.isCurrent a.number with
    | true => exact .inl ⟨o, rfl, hcurrent⟩
    | false =>
      refine .inr fun q hq => ?_
      cases hq
      exact hcurrent

/-- The outcome of an attempt that is in flight ends its obtainment. -/
theorem applyOutcome_of_current {o : Obtainment Core} (hown : states.own? a.provider = some o)
    (hcurrent : o.isCurrent a.number = true) (core : Option Core) :
    applyOutcome states a core =
      (states.modify a.provider.id fun _ => { o with phase := phaseAfter core }, none) := by
  cases core with
  | none => simp only [applyOutcome, hown, Obtainment.fail?, hcurrent, if_true, phaseAfter, Option.elim]
  | some core =>
    simp only [applyOutcome, hown, Obtainment.accept?, hcurrent, if_true, phaseAfter, Option.elim]

/-- The outcome of any other attempt is refused. -/
theorem applyOutcome_of_stale
    (hstale : ∀ o, states.own? a.provider = some o → o.isCurrent a.number = false)
    (core : Option Core) : applyOutcome states a core = (states, core) := by
  unfold applyOutcome
  cases hown : states.own? a.provider with
  | none => cases core <;> rfl
  | some o =>
    cases core with
    | none => simp only [Obtainment.fail?, hstale o hown, Bool.false_eq_true, if_false]
    | some core => simp only [Obtainment.accept?, hstale o hown, Bool.false_eq_true, if_false]

/-- What becomes of the outcome of an attempt: the obtainments keep their providers, and a core that
they do not take is handed back. -/
theorem applyOutcome_counts (hids : states.ids.Nodup) (a : Attempt) (core : Option Core) :
    (applyOutcome states a core).1.providers = states.providers ∧
      ∀ c, (applyOutcome states a core).1.countP (·.holds c) +
          (applyOutcome states a core).2.toList.count c =
        states.countP (·.holds c) + core.toList.count c := by
  rcases current_or_stale states a with ⟨o, hown, hcurrent⟩ | hstale
  · have hget := (States.of_own? hown).1
    rw [applyOutcome_of_current hown hcurrent]
    refine ⟨States.providers_replace hids hget rfl, fun c => ?_⟩
    have hcount := States.countP_modify hids hget (fun _ => { o with phase := phaseAfter core })
      (·.holds c)
    rw [Obtainment.holds_of_isObtaining (Obtainment.isObtaining_of_isCurrent hcurrent)] at hcount
    cases core with
    | none =>
      rw [Obtainment.holds_of_idle rfl] at hcount
      simpa using hcount
    | some core =>
      rw [Obtainment.holds_of_holding rfl] at hcount
      by_cases hc : core = c
      · simpa [hc] using hcount
      · simpa [hc] using hcount
  · rw [applyOutcome_of_stale hstale]
    exact ⟨rfl, fun _ => rfl⟩

/-- Where a core is refused, nothing has changed. -/
theorem applyOutcome_of_refused {core : Option Core} {late : Core}
    (hrefused : (applyOutcome states a core).2 = some late) :
    (applyOutcome states a core).1 = states := by
  rcases current_or_stale states a with ⟨o, hown, hcurrent⟩ | hstale
  · rw [applyOutcome_of_current hown hcurrent] at hrefused
    exact absurd hrefused (by simp)
  · rw [applyOutcome_of_stale hstale]

/-- An attempt that reports exits, unless its core was refused and it has to dispose of it. -/
theorem settle_fst (f : Speculative) (a : Attempt) (core : Option Core) (s : Scene) :
    (f.settle a core s).1 = f.leave.attemptGoTo a .disposing ∨
      (f.settle a core s).1 =
        ({ f with states := (applyOutcome f.states a core).1 }.leave).exitAttempt a false := by
  have hrefused := fun late => @applyOutcome_of_refused a f.states core late
  unfold settle
  generalize applyOutcome f.states a core = outcome at *
  obtain ⟨states, stale⟩ := outcome
  cases stale with
  | none => exact .inr rfl
  | some late =>
    obtain rfl : states = f.states := hrefused late rfl
    exact .inl rfl

/-- When everything has been given up, no outcome is accepted any more. -/
theorem applyOutcome_of_released (hidle : ∀ o ∈ states, o.isIdle = true) (a : Attempt)
    (core : Option Core) : (applyOutcome states a core).1 = states := by
  rw [applyOutcome_of_stale fun o hown => ?_]
  have hoidle := hidle o (States.get?_eq_some (States.of_own? hown).1).1
  unfold Obtainment.isCurrent
  cases hphase : o.phase with
  | obtaining current token => simp [Obtainment.isIdle, hphase] at hoidle
  | idle => rfl
  | holding held => rfl

end Outcome

/-! ## The step -/

/-- An attempt goes on without a core, or to deliver the core that has just been made. -/
theorem goesTo_accounts (hsound : f.IsSound s.nextSerial) (ha : a ∈ f.attempts)
    {point : AttemptPoint} {events : List Event}
    (hacts : Scene.ActSequence (May f.subscription) s events s') (hbefore : ∀ core, a.delivers core = false)
    (hbalance : ∀ core, (decide (point = .settling (some core))).toNat + spent core events =
      events.count (.minted core))
    (hsettled : IsSettled events) : Accounts f s events (f.attemptGoTo a point) s' where
  same := rfl
  sound := (hsound.attemptGoTo ha point).mono hacts.serial_le
  acts := hacts
  balance core := by
    have hdelivered := delivered_attemptGoTo hsound ha point core
    have hevents := hbalance core
    rw [hbefore core] at hdelivered
    simp only [held, Bool.toNat_false] at hdelivered ⊢
    have htracked : (f.attemptGoTo a point).tracked core = f.tracked core := rfl
    have hpass : (f.attemptGoTo a point).inLoop core = f.inLoop core := rfl
    omega
  settled := hsettled

theorem exitAttempt_accounts (hsound : f.IsSound s.nextSerial) (ha : a ∈ f.attempts)
    (hbefore : ∀ core, a.delivers core = false) (isPanic : Bool) (haside : s.Aside s') :
    Accounts f s [] (f.exitAttempt a isPanic) s' where
  same := rfl
  sound := (hsound.exitAttempt ha isPanic).mono haside.serial
  acts := .aside .refl haside
  balance core := by
    have hdelivered := delivered_exitAttempt hsound ha isPanic core
    rw [hbefore core] at hdelivered
    have htracked : (f.exitAttempt a isPanic).tracked core = f.tracked core := rfl
    have hloop : (f.exitAttempt a isPanic).inLoop core = f.inLoop core := rfl
    simp only [held, spent_nil, List.count_nil, Bool.toNat_false] at hdelivered ⊢
    omega
  settled := isSettled_nil

theorem attemptReceive_accounts (hsound : f.IsSound s.nextSerial) (ha : a ∈ f.attempts)
    (hbefore : ∀ core, a.delivers core = false) {result : CallResult} {s₁ : Scene}
    (hlook : (CallLook.ended result s₁).Tells s) :
    ∃ events, Accounts f s events (f.attemptReceive a result s₁).1
      (f.attemptReceive a result s₁).2 := by
  cases result with
  | core core =>
    have hacts := Scene.Performs.acts hlook (may_minted f.subscription s.stage core)
    refine ⟨_, goesTo_accounts hsound ha hacts hbefore (fun c => ?_) ?_⟩
    · by_cases hc : core = c
      · simp [hc, Act.events, spent, Event.assigns]
      · simp [hc, Act.events, spent, Event.assigns]
    · intro b id c
      simp [Act.events]
  | failed chain =>
    have haside := (Scene.Aside.trans hlook (Scene.aside_report s₁ .warn
      "Core provider failed, retrying" [providerField a.provider.id,
        ("error", .ofText (chain.head?.getD ""))])).trans (Scene.aside_trace _ f.sink traceSource
          ("provider " ++ a.provider.id ++ " failed: " ++ ": ".intercalate chain : String))
    exact ⟨[], goesTo_accounts hsound ha (.aside .refl haside) hbefore (fun _ => by simp)
      isSettled_nil⟩
  | panicked => exact ⟨[], exitAttempt_accounts hsound ha hbefore true hlook⟩

/-- Under the guard of the obtainments: the core is delivered, or disposed of when it is too late. -/
theorem settle_accounts (hsound : f.IsSound s.nextSerial) (ha : a ∈ f.attempts)
    {core : Option Core} (hpoint : a.point = .settling core) :
    ∃ events, Accounts f s events (f.settle a core s).1 (f.settle a core s).2 := by
  obtain ⟨hproviders, hcounts⟩ := applyOutcome_counts hsound.ids a core
  have hreleased : (∀ o ∈ f.states, o.isIdle = true) →
      (applyOutcome f.states a core).1 = f.states :=
    fun hidle => applyOutcome_of_released hidle a core
  have hdelivers : ∀ c, (a.delivers c).toNat = core.toList.count c := by
    intro c
    cases core with
    | none => simp [Attempt.delivers, hpoint]
    | some held =>
      by_cases hc : held = c
      · simp [Attempt.delivers, hpoint, hc]
      · simp [Attempt.delivers, hpoint, hc]
  unfold settle
  generalize applyOutcome f.states a core = outcome at *
  obtain ⟨states, stale⟩ := outcome
  simp only at hproviders hcounts hreleased ⊢
  have hsound' : IsSound s.nextSerial ({ f with states }.leave) := by
    refine ⟨?_, hsound.serials, hsound.bounded, ?_, hsound.ended⟩
    · show states.ids.Nodup
      rw [States.ids_eq_providers, hproviders, ← States.ids_eq_providers]
      exact hsound.ids
    · intro hover
      show ∀ o ∈ states, o.isIdle = true
      rw [hreleased (hsound.released hover)]
      exact hsound.released hover
  -- Whether it exits or stays to dispose of its core, it delivers nothing any more.
  have hbalance : ∀ (f' : Speculative) (c : Core), f'.states = states → f'.point = f.point →
      f'.delivered c + (a.delivers c).toNat = f.delivered c →
        f'.held c + stale.toList.count c = f.held c := by
    intro f' c hafter hpoint' hdelivered
    have htracked : f'.tracked c = states.countP (·.holds c) := by rw [tracked, hafter]
    have hloop : f'.inLoop c = f.inLoop c := by rw [inLoop, inLoop, hpoint']
    have hbefore : f.tracked c = f.states.countP (·.holds c) := rfl
    have hstates := hcounts c
    have hcore := hdelivers c
    simp only [held]
    omega
  cases stale with
  | none =>
    have haside := s.aside_report .trace "obtainment attempt finished"
      [providerField a.provider.id, ("attempt", .ofText (toString a.number))]
    refine ⟨[], rfl, (hsound'.exitAttempt ha false).mono haside.serial, .aside .refl haside,
      fun c => ?_, isSettled_nil⟩
    have hc := hbalance ({ f with states }.leave.exitAttempt a false) c rfl rfl
      (delivered_exitAttempt hsound' ha false c)
    simpa using hc
  | some late =>
    have haside := (s.aside_report .debug "late core disposed" [providerField a.provider.id,
      ("attempt", .ofText (toString a.number))]).trans (Scene.aside_trace _ f.sink traceSource
        ("late core from " ++ a.provider.id ++ " disposed" : String))
    have hdisposed := Scene.Performs.afterAside haside (Scene.performs_disposeCore _ late)
    refine ⟨[.disposed late], rfl, (hsound'.attemptGoTo ha .disposing).mono hdisposed.serial,
      hdisposed.acts (may_disposed f.subscription _ late), fun c => ?_, ?_⟩
    · have hdelivered := delivered_attemptGoTo hsound' ha .disposing c
      simp only [reduceCtorEq, decide_false, Bool.toNat_false, Nat.add_zero] at hdelivered
      have hc := hbalance ({ f with states }.leave.attemptGoTo a .disposing) c rfl rfl hdelivered
      rw [spent_disposed]
      by_cases hlate : late = c
      · simpa [hlate] using hc
      · simpa [hlate] using hc
    · intro b id c
      simp

/-- Every step of an attempt is accounted for. -/
theorem stepAttempt_accounts (hsound : f.IsSound s.nextSerial) (ha : a ∈ f.attempts)
    {r : Speculative × Scene} (hstep : f.stepAttempt me a s = some r) :
    ∃ events, Accounts f s events r.1 r.2 := by
  have hempty : ∀ {point : AttemptPoint}, a.point = point → (∀ core, point ≠ .settling core) →
      ∀ core, a.delivers core = false := fun hpoint hnot core => by
    rw [Attempt.delivers, hpoint]
    exact beq_eq_false_iff_ne.mpr (hnot (some core))
  have hfree : ∀ {point : AttemptPoint}, (∀ core, point ≠ .settling (some core)) → ∀ core,
      (decide (point = .settling (some core))).toNat + spent core [] =
        ([] : List Event).count (.minted core) := by
    intro point hpoint core
    simp [hpoint core]
  cases stepAttempt_attemptStep hstep with
  | @withdraws call hpoint _ =>
    exact ⟨[], goesTo_accounts hsound ha (.aside .refl (s.aside_dropCall call))
      (hempty hpoint fun _ => by simp) (hfree fun _ => by simp) isSettled_nil⟩
  | calls hpoint haside =>
    exact ⟨[], goesTo_accounts hsound ha (.aside .refl haside) (hempty hpoint fun _ => by simp)
      (hfree fun _ => by simp) isSettled_nil⟩
  | receives hpoint htells =>
    exact attemptReceive_accounts hsound ha (hempty hpoint fun _ => by simp) htells
  | resumes hpoint =>
    exact ⟨[], goesTo_accounts hsound ha .refl (hempty hpoint fun _ => by simp)
      (hfree fun _ => by simp) isSettled_nil⟩
  | joins _ _ =>
    exact ⟨[], rfl, ⟨hsound.ids, hsound.serials, hsound.bounded, hsound.released, hsound.ended⟩,
      .refl, fun _ => rfl, isSettled_nil⟩
  | @settles core guard hpoint _ =>
    have hsound' : IsSound s.nextSerial { f with guard } :=
      ⟨hsound.ids, hsound.serials, hsound.bounded, hsound.released, hsound.ended⟩
    obtain ⟨events, haccounts⟩ := settle_accounts hsound' ha hpoint
    exact ⟨events, haccounts.same, haccounts.sound, haccounts.acts, haccounts.balance,
      haccounts.settled⟩
  | exits hpoint =>
    exact ⟨[], exitAttempt_accounts hsound ha (hempty hpoint fun _ => by simp) false (.refl s)⟩

end CoreBroker.Speculative
