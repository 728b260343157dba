import CoreBroker.Proofs.Speculative.PassSteps
set_option autoImplicit false

/-!
# Steps of the loop of a speculative fulfiller

Every step of the loop is accounted for: it makes no core and loses none.
-/

namespace CoreBroker.Speculative

variable (chance : Chance) {f f' : Speculative} {s s' : Scene} {me bound : Nat}

/-- Going on to a point at which not everything has been given up yet. -/
theorem IsSound.withPoint (hsound : f.IsSound bound) {point : SpeculativePoint}
    (hpoint : point.isReleased = false) : (f.goTo point).IsSound bound where
  ids := hsound.ids
  serials := hsound.serials
  bounded := hsound.bounded
  released hover := absurd (hpoint.symm.trans hover) Bool.false_ne_true
  ended hended := by
    rw [show point = .ended from hended] at hpoint
    exact absurd hpoint (by simp [SpeculativePoint.isReleased])

namespace Accounts

theorem afterDoes {events : List Event} {s₁ : Scene} (hacts : Scene.ActSequence (May f.subscription) s [] s₁)
    (h : Accounts f s₁ events f' s') : Accounts f s events f' s' := by
  refine ⟨h.same, h.sound, ?_, h.balance, h.settled⟩
  have hboth := hacts.trans h.acts
  rwa [List.append_nil] at hboth

theorem afterAside {events : List Event} {s₁ : Scene} (haside : s.Aside s₁)
    (h : Accounts f s₁ events f' s') : Accounts f s events f' s' :=
  h.afterDoes (.aside .refl haside)

end Accounts

theorem goTo_accounts (hsound : f.IsSound s.nextSerial) (haside : s.Aside s')
    {point : SpeculativePoint} (hpoint : point.isReleased = false)
    (hcores : point.cores = f.point.cores) : Accounts f s [] (f.goTo point) s' where
  same := rfl
  sound := (hsound.withPoint hpoint).mono haside.serial
  acts := .aside .refl haside
  balance core := by
    have hpass : (f.goTo point).inLoop core = f.inLoop core := by
      simp only [inLoop, goTo, hcores]
    simp only [held, hpass, spent_nil, List.count_nil]
    rfl
  settled := isSettled_nil

theorem turn_accounts (hsound : f.IsSound s.nextSerial) (hcores : f.point.cores = []) :
    Accounts f s [] (f.turn s).1 (f.turn s).2 := by
  unfold turn
  split
  · exact goTo_accounts hsound (.refl s) rfl hcores.symm
  · exact goTo_accounts hsound (.refl s) rfl hcores.symm

theorem drain_acts {may : Stage → Act → Prop}
    (hboard : ∀ st, may st (.looked f.board f.requestReceiver))
    (hroster : ∀ st, may st (.lookedAtRoster f.roster f.rosterReceiver)) (s : Scene) :
    Scene.ActSequence may s [] (f.drain s) :=
  (Scene.acts_drainBoard (hboard _)).trans (Scene.acts_drainRoster (hroster _))

/-! ## A pass -/

theorem reconcile_accounts (hstage : s.stage.IsSound) (hsound : f.IsSound s.nextSerial)
    (hcores : f.point.cores = []) : Accounts f s [] (f.reconcile s).1 (f.reconcile s).2 where
  same := rfl
  sound := ⟨States.ids_sync_nodup hsound.ids (members_nodup hstage f), hsound.serials,
    fun a ha => Nat.lt_of_lt_of_le (hsound.bounded a ha) (f.aside_reconcile s).serial,
    fun hover => absurd hover Bool.false_ne_true, fun hended => by simp [reconcile, goTo] at hended⟩
  acts := .aside .refl (f.aside_reconcile s)
  balance core := by
    have hcounts := reconcile_counts f s core
    have hpass : f.inLoop core = 0 := by simp [inLoop, hcores]
    have hdelivered : (f.reconcile s).1.delivered core = f.delivered core := rfl
    simp only [held, spent_nil, List.count_nil]
    omega
  settled := isSettled_nil

/-- A part of a pass that takes held cores. -/
theorem Holds.accounts {ready : List Ready} {discarded : List Core}
    (hholds : Holds f s ready discarded f' s') (hsound : f.IsSound s.nextSerial)
    (hcores : ∀ core, f.inLoop core = (ready.map (·.2)).count core + discarded.count core) :
    Accounts f s [] f' s' where
  same := by
    rw [hholds.same]
    rfl
  sound := by
    have hrest := hholds.same
    have hpass := SpeculativePoint.not_isStopping_of_isInPass hholds.point
    refine ⟨ids_nodup_of_providers hholds.providers hsound.ids, ?_, ?_, ?_, ?_⟩
    · rw [hrest]
      exact hsound.serials
    · rw [hrest]
      exact fun a ha => Nat.lt_of_lt_of_le (hsound.bounded a ha) hholds.aside.serial
    · exact fun hover => absurd
        (hpass.symm.trans (SpeculativePoint.isStopping_of_isReleased hover)) Bool.false_ne_true
    · exact fun hended => absurd hpass (by simp [hended, SpeculativePoint.isStopping])
  acts := .aside .refl hholds.aside
  balance core := by
    have hcounts := hholds.counts core
    have hpass := hcores core
    have hdelivered : f'.delivered core = f.delivered core := by
      rw [hholds.same]
      rfl
    simp only [held, spent_nil, List.count_nil]
    omega
  settled := isSettled_nil

theorem judge_accounts {pending : Nat} {ready : List Ready} {held : Ready} {ticket : Nat}
    {holders : List String} {discarded : List Core}
    (hpoint : f.point = .probing pending ready held ticket holders discarded)
    (hsound : f.IsSound s.nextSerial) (isAlive : Bool) :
    Accounts f s [] (f.judge pending ready held holders discarded isAlive s).1
      (f.judge pending ready held holders discarded isAlive s).2 := by
  unfold judge
  split
  · refine (nextHolder_holds pending (ready ++ [held]) discarded holders hsound.ids).accounts
      hsound fun core => ?_
    simp only [inLoop, hpoint, SpeculativePoint.cores, List.map_append, List.map_cons, List.map_nil,
      List.count_append, count_cons_toNat, List.count_nil]
    omega
  · have haside := (s.aside_report .debug "Held core is not alive, disposing"
      [providerField held.1]).trans (Scene.aside_trace _ f.sink traceSource
        ("dead core from " ++ held.1 : String))
    refine Accounts.afterAside haside ((nextHolder_holds pending ready (discarded ++ [held.2])
      holders hsound.ids).accounts (hsound.mono haside.serial) fun core => ?_)
    simp only [inLoop, hpoint, SpeculativePoint.cores, List.count_append, count_cons_toNat,
      List.count_nil]
    omega

/-- A core is disposed of, with others to follow. -/
theorem disposeInTurn_accounts {wait : List Core → SpeculativePoint} {next : SpeculativePoint}
    (hsound : f.IsSound s.nextSerial)
    (hwait : ∀ others, (wait others).Continues f.point ∧ (wait others).cores = others)
    (hnext : next.Continues f.point ∧ next.cores = []) :
    ∃ events, Accounts f s events (f.disposeInTurn s wait next f.point.cores).1
      (f.disposeInTurn s wait next f.point.cores).2 := by
  have hacts := Scene.acts_disposeCores (may_disposed f.subscription) (f.point.cores.take 1) s
  have hfollows : (SpeculativePoint.inTurn wait next f.point.cores).Continues f.point :=
    SpeculativePoint.of_inTurn (P := (·.Continues f.point)) (fun others => (hwait others).1) hnext.1 _
  rw [disposeInTurn_eq]
  refine ⟨_, rfl, ⟨hsound.ids, hsound.serials, ?_, ?_, ?_⟩, hacts, fun core => ?_,
    isSettled_disposals _⟩
  · exact fun a ha => Nat.lt_of_lt_of_le (hsound.bounded a ha) hacts.serial_le
  · exact fun hover => hsound.released (hfollows.1 hover)
  · exact fun hended => absurd hended hfollows.2
  · have hcount := count_inTurn (fun others => (hwait others).2) hnext.2 f.point.cores core
    have hafter : (f.goTo (.inTurn wait next f.point.cores)).held core = f.delivered core +
        f.tracked core + (SpeculativePoint.inTurn wait next f.point.cores).cores.count core := rfl
    rw [hafter, spent_disposals, count_disposals (by simp)]
    simp only [held, inLoop]
    omega

/-- The end of a pass: what was not assigned is back in its obtainment or is to be disposed of. -/
theorem finishPass_accounts (me : Nat) {ready : List Ready} {discarded : List Core}
    (hpoint : f.point = .matching ready discarded) (hsound : f.IsSound s.nextSerial)
    (board : Board) :
    ∃ events, Accounts f s events (f.finishPass chance me ready discarded board s).1
      (f.finishPass chance me ready discarded board s).2 := by
  obtain ⟨events, hassigns⟩ := f.assign_assigns
    ((board.registry.candidates f.constraint).map (·.id)) ready s
  rw [finishPass_eq]
  generalize f.assign s ((board.registry.candidates f.constraint).map (·.id)) ready = matched at *
  have hrebalance := resize_rebalanceStep chance me discarded matched hsound.ids
  have hsame := resize_same chance me discarded matched hsound.ids
  have hproviders := resize_providers chance me discarded matched hsound.ids
  have hcounts := resize_counts chance me discarded matched hsound.ids
  have hdisposed := resize_acts chance me discarded matched hsound.ids (may_disposed f.subscription)
  generalize f.resize chance me discarded matched = sized at *
  obtain ⟨g, s₁, gone⟩ := sized
  simp only at hrebalance hsame hproviders hcounts hdisposed ⊢
  have hassigned : Scene.ActSequence (May f.subscription) s events matched.scene :=
    hassigns.acts.mono fun _ _ => MayPlace.may
  obtain ⟨hbounded, hserials⟩ := hrebalance.serials
    (fun a ha => Nat.lt_of_lt_of_le (hsound.bounded a ha) hassigned.serial_le) hsound.serials
  refine ⟨((gone.take 1).map Event.disposed).reverse ++ events, ?_, ?_, hassigned.trans hdisposed, ?_,
    ?_⟩
  · rw [hsame]
    rfl
  · refine ⟨ids_nodup_of_providers hproviders hsound.ids, hserials, ?_, ?_, ?_⟩
    · exact fun a ha => Nat.lt_of_lt_of_le (hbounded a ha)
        (Scene.acts_disposeCores (may_disposed f.subscription) (gone.take 1) s₁).serial_le
    · exact fun hover => absurd hover (by cases gone <;> exact Bool.false_ne_true)
    · exact fun hended => absurd hended (by cases gone <;> simp [goTo, SpeculativePoint.inTurn])
  · intro core
    have htracked := hcounts core
    have hdelivered : g.delivered core = f.delivered core := hrebalance.delivered core
    have hmatched := hassigns.counts core
    have hunminted := hassigns.unminted core
    have hpass : f.inLoop core = (ready.map (·.2)).count core + discarded.count core := by
      simp only [inLoop, hpoint, SpeculativePoint.cores, List.count_append]
    have hcount : (SpeculativePoint.inTurn .discarding .idle gone).cores.count core +
        (gone.take 1).count core = gone.count core := count_inTurn (fun _ => rfl) rfl gone core
    have hafter : (g.leave.goTo (.inTurn .discarding .idle gone)).held core = g.delivered core +
        g.tracked core + (SpeculativePoint.inTurn .discarding .idle gone).cores.count core := rfl
    rw [hafter, spent_append, spent_disposals, List.count_append, count_disposals (by simp)]
    simp only [held]
    omega
  · exact hassigns.settled.append (isSettled_disposals _)

/-! ## Exits and the end -/

theorem noticeExit_accounts (exit : Exit) (hsound : f.IsSound s.nextSerial)
    (hcores : f.point.cores = []) :
    Accounts f s [] (f.noticeExit exit s).1 (f.noticeExit exit s).2 := by
  have hsound' : IsSound s.nextSerial
      { f with owners := f.owners.filter (·.serial != exit.serial) } :=
    ⟨hsound.ids, hsound.serials, hsound.bounded, hsound.released, hsound.ended⟩
  have hwiden : ∀ {g : Speculative} {s' : Scene},
      Accounts { f with owners := f.owners.filter (·.serial != exit.serial) } s [] g s' →
        Accounts f s [] g s' := fun h =>
    ⟨by rw [h.same]; rfl, h.sound, h.acts, h.balance, h.settled⟩
  unfold noticeExit
  simp only
  split
  · have haside : ∀ id : String, s.Aside (f.trace (s.report .error "Obtainment attempt panicked"
        [providerField id]) ("attempt for provider " ++ id ++ " panicked" : String)) :=
      fun id => (s.aside_report _ _ _).trans (Scene.aside_trace _ _ _ _)
    split
    · exact hwiden (goTo_accounts hsound' (haside _) rfl hcores.symm)
    · exact hwiden (goTo_accounts hsound' (haside _) rfl hcores.symm)
  · exact hwiden (turn_accounts hsound' hcores)

/-- A panic is recorded in the obtainments alone, and they keep their providers. -/
theorem recordPanic_eq (hids : f.states.ids.Nodup) (owner : Owner) (s : Scene) :
    ∃ states : States Core, states.providers = f.states.providers ∧
      (∀ core, states.countP (·.holds core) = f.states.countP (·.holds core)) ∧
      f.recordPanic owner s = (({ f with states }.leave).goTo
        (.pausing (s.now + f.settings.retryDelay.toNat)), s) := by
  unfold recordPanic
  cases hfail : (f.states.own? owner.provider).bind (·.fail? owner.number) with
  | none => exact ⟨f.states, rfl, fun _ => rfl, rfl⟩
  | some o' =>
    obtain ⟨o, hown, hfailed⟩ := Option.bind_eq_some_iff.mp hfail
    have hget := (States.of_own? hown).1
    obtain ⟨hcurrent, rfl⟩ := Obtainment.of_fail? hfailed
    refine ⟨f.states.modify owner.provider.id fun _ => { o with phase := .idle },
      States.providers_replace hids hget rfl, fun core => ?_, rfl⟩
    have hcount := States.countP_modify hids hget (fun _ => { o with phase := .idle })
      (·.holds core)
    rw [Obtainment.holds_of_isObtaining (Obtainment.isObtaining_of_isCurrent hcurrent),
      Obtainment.holds_of_idle rfl] at hcount
    simpa using hcount

theorem recordPanic_accounts (owner : Owner) (hsound : f.IsSound s.nextSerial)
    (hcores : f.point.cores = []) :
    Accounts f s [] (f.recordPanic owner s).1 (f.recordPanic owner s).2 := by
  obtain ⟨states, hproviders, hcounts, heq⟩ := recordPanic_eq hsound.ids owner s
  rw [heq]
  refine ⟨rfl, ⟨ids_nodup_of_providers hproviders hsound.ids, hsound.serials, hsound.bounded, ?_, ?_⟩,
    .refl, fun core => ?_, isSettled_nil⟩
  · exact fun hover => absurd hover Bool.false_ne_true
  · exact fun hended => by simp [goTo] at hended
  · have hcore := hcounts core
    have hpass : f.inLoop core = 0 := by simp [inLoop, hcores]
    have hafter : (({ f with states }.leave).goTo
        (.pausing (s.now + f.settings.retryDelay.toNat))).held core =
          f.delivered core + states.countP (·.holds core) := rfl
    rw [hafter, hcore]
    simp only [held, hpass, tracked, spent_nil, List.count_nil, Nat.add_zero]

theorem releaseAll_eq (f : Speculative) (s : Scene) : f.releaseAll s =
    ({ f with states := f.states.map Obtainment.release }.leave.goTo
        (.inTurn .dissolving .joining (f.states.filterMap Obtainment.heldCore?)),
      ((f.states.filterMap Obtainment.inFlight?).foldl Scene.fire s).disposeCores
        ((f.states.filterMap Obtainment.heldCore?).take 1)) :=
  disposeInTurn_eq _ _ _ _ _

theorem releaseAll_accounts (hsound : f.IsSound s.nextSerial) (hcores : f.point.cores = []) :
    ∃ events, Accounts f s events (f.releaseAll s).1 (f.releaseAll s).2 := by
  have haside := Scene.aside_foldl Scene.aside_fire (f.states.filterMap (·.inFlight?)) s
  have hdisposed := Scene.acts_disposeCores (may_disposed f.subscription)
    ((f.states.filterMap (·.heldCore?)).take 1)
    ((f.states.filterMap (·.inFlight?)).foldl Scene.fire s)
  have hacts := (Scene.ActSequence.aside .refl haside).trans hdisposed
  rw [List.append_nil] at hacts
  rw [releaseAll_eq]
  refine ⟨_, rfl, ⟨?_, hsound.serials, ?_, ?_, ?_⟩, hacts, fun core => ?_,
    isSettled_disposals _⟩
  · have hproviders : (f.states.map Obtainment.release).map (·.provider.id) = f.states.ids := by
      simp only [List.map_map]
      rfl
    show ((f.states.map Obtainment.release).map (·.provider.id)).Nodup
    rw [hproviders]
    exact hsound.ids
  · exact fun a ha => Nat.lt_of_lt_of_le (hsound.bounded a ha) hacts.serial_le
  · intro _ o ho
    obtain ⟨q, -, rfl⟩ := List.mem_map.mp ho
    rfl
  · exact fun hended => absurd hended (SpeculativePoint.of_inTurn (P := (· ≠ .ended))
      (fun _ => SpeculativePoint.noConfusion) SpeculativePoint.noConfusion _)
  · have hpass : f.inLoop core = 0 := by simp [inLoop, hcores]
    have hnone : (f.states.map Obtainment.release).countP (fun o => o.holds core) = 0 := by
      rw [List.countP_eq_zero]
      intro o ho
      obtain ⟨q, -, rfl⟩ := List.mem_map.mp ho
      simp [Obtainment.holds_of_idle (o := q.release) rfl]
    have hcount : (SpeculativePoint.inTurn .dissolving .joining
          (f.states.filterMap (·.heldCore?))).cores.count core +
        ((f.states.filterMap (·.heldCore?)).take 1).count core =
          (f.states.filterMap (·.heldCore?)).count core := count_inTurn (fun _ => rfl) rfl _ core
    have hheld := States.count_heldCores f.states core
    rw [spent_disposals, count_disposals (by simp)]
    show f.delivered core + (f.states.map Obtainment.release).countP (fun o => o.holds core) +
      (SpeculativePoint.inTurn .dissolving .joining
        (f.states.filterMap (·.heldCore?))).cores.count core + _ = _
    rw [hnone]
    simp only [held, hpass, tracked, ← hheld]
    omega

theorem finish_acts (f : Speculative) (s : Scene) :
    Scene.ActSequence (May f.subscription) s [] (f.finish s).2 := by
  have haside := s.aside_report .debug "multi-source control loop stopped" []
  exact ((Scene.ActSequence.aside .refl haside).trans (Scene.acts_unsubscribeBoard
    (may_left f.subscription _))).trans (Scene.acts_unsubscribeRoster (may_leftRoster f.subscription _))

theorem finish_accounts (hsound : f.IsSound s.nextSerial) (hpoint : f.point = .joining)
    (hattempts : f.attempts = []) : Accounts f s [] (f.finish s).1 (f.finish s).2 := by
  have hacts := f.finish_acts s
  refine ⟨rfl, ⟨hsound.ids, hsound.serials, ?_, fun _ => hsound.released (by rw [hpoint]; rfl),
    fun _ => hattempts⟩, hacts, fun core => ?_, isSettled_nil⟩
  · exact fun a ha => Nat.lt_of_lt_of_le (hsound.bounded a ha) hacts.serial_le
  · have hpass : f.inLoop core = 0 := by simp [inLoop, hpoint, SpeculativePoint.cores]
    have hafter : (f.finish s).1.inLoop core = 0 := rfl
    simp only [held, hpass, hafter, spent_nil, List.count_nil]
    rfl

/-! ## The step -/

theorem aside_noticeLateExit (f : Speculative) (exit : Exit) (s : Scene) :
    s.Aside (f.noticeLateExit exit s).2 := by
  unfold noticeLateExit
  split
  · exact s.aside_report _ _ _
  · exact .refl s

theorem Accounts.withGuard {guard : Guard Task} {events : List Event}
    (h : Accounts { f with guard } s events f' s') : Accounts f s events f' s' :=
  ⟨by rw [h.same]; rfl, h.sound, h.acts, h.balance, h.settled⟩

theorem Accounts.withExits {exits : List Exit} {events : List Event}
    (h : Accounts { f with exits } s events f' s') : Accounts f s events f' s' :=
  ⟨by rw [h.same]; rfl, h.sound, h.acts, h.balance, h.settled⟩

theorem IsSound.withGuard (hsound : f.IsSound bound) (guard : Guard Task) :
    IsSound bound { f with guard } :=
  ⟨hsound.ids, hsound.serials, hsound.bounded, hsound.released, hsound.ended⟩

theorem IsSound.withExits (hsound : f.IsSound bound) (exits : List Exit) :
    IsSound bound { f with exits } :=
  ⟨hsound.ids, hsound.serials, hsound.bounded, hsound.released, hsound.ended⟩

theorem waits_accounts (hsound : f.IsSound s.nextSerial) (haside : s.Aside s') :
    Accounts f s [] f s' :=
  ⟨rfl, hsound.mono haside.serial, .aside .refl haside, fun _ => rfl, isSettled_nil⟩

/-- Every step of the loop is accounted for. -/
theorem step_accounts (hstage : s.stage.IsSound) (hsound : f.IsSound s.nextSerial)
    {r : Speculative × Scene} (hstep : f.step chance me s = some r) :
    ∃ events, Accounts f s events r.1 r.2 := by
  cases step_loopStep hstep with
  | @joins guard hholder =>
    exact ⟨[], (waits_accounts (hsound.withGuard guard) (.refl s)).withGuard⟩
  | waits haside => exact ⟨[], waits_accounts hsound haside⟩
  | begins hpoint =>
    have haside := s.aside_report .debug "multi-source control loop started" []
    exact ⟨[], (turn_accounts (hsound.mono haside.serial) (by rw [hpoint]; rfl)).afterAside haside⟩
  | @reconciles guard hpoint _ =>
    exact ⟨[], (reconcile_accounts hstage (hsound.withGuard guard) (by rw [hpoint]; rfl)).withGuard⟩
  | @counts discarded board s₁ hpoint haside _ =>
    have haccounts := (count_holds chance hsound.ids discarded board s₁).accounts
      (hsound.mono haside.serial) fun core => by
        simp [inLoop, hpoint, SpeculativePoint.cores]
    exact ⟨[], haccounts.afterAside haside⟩
  | judges hpoint haside isAlive =>
    exact ⟨[], (judge_accounts hpoint (hsound.mono haside.serial) isAlive).afterAside haside⟩
  | @assigns _ _ board s₁ hpoint haside _ =>
    obtain ⟨events, haccounts⟩ := finishPass_accounts chance me hpoint (hsound.mono haside.serial) board
    exact ⟨events, haccounts.afterAside haside⟩
  | @discards others hpoint =>
    have hothers : f.point.cores = others := by rw [hpoint]; rfl
    rw [← hothers]
    exact disposeInTurn_accounts hsound
      (fun _ => ⟨⟨fun h => absurd h Bool.false_ne_true, SpeculativePoint.noConfusion⟩, rfl⟩)
      ⟨⟨fun h => absurd h Bool.false_ne_true, SpeculativePoint.noConfusion⟩, rfl⟩
  | stops hpoint _ =>
    exact ⟨[], goTo_accounts hsound (.refl s) rfl (by rw [hpoint]; rfl)⟩
  | @notices exit exits hpoint _ =>
    have hdrained := drain_acts (may_looked f.subscription) (may_lookedAtRoster f.subscription) s
    have haccounts := noticeExit_accounts exit ((hsound.mono hdrained.serial_le).withExits exits)
      (by rw [hpoint]; rfl)
    exact ⟨[], haccounts.withExits.afterDoes hdrained⟩
  | wakes hpoint =>
    have hdrained := drain_acts (may_looked f.subscription) (may_lookedAtRoster f.subscription) s
    have haccounts := turn_accounts (hsound.mono hdrained.serial_le) (by rw [hpoint]; rfl)
    exact ⟨[], haccounts.afterDoes hdrained⟩
  | @records guard owner hpoint =>
    have haccounts := recordPanic_accounts owner (hsound.withGuard guard) (by rw [hpoint]; rfl)
    exact ⟨[], haccounts.withGuard⟩
  | resumes hpoint => exact ⟨[], turn_accounts hsound (by rw [hpoint]; rfl)⟩
  | @releases guard hpoint =>
    obtain ⟨events, haccounts⟩ := releaseAll_accounts (hsound.withGuard guard) (by rw [hpoint]; rfl)
    exact ⟨events, haccounts.withGuard⟩
  | @dissolves others hpoint =>
    have hothers : f.point.cores = others := by rw [hpoint]; rfl
    rw [← hothers]
    have hreleased : f.point.isReleased = true := by rw [hpoint]; rfl
    exact disposeInTurn_accounts hsound
      (fun _ => ⟨⟨fun _ => hreleased, SpeculativePoint.noConfusion⟩, rfl⟩)
      ⟨⟨fun _ => hreleased, SpeculativePoint.noConfusion⟩, rfl⟩
  | @noticesLate exit exits _ _ =>
    have haside := aside_noticeLateExit { f with exits } exit s
    exact ⟨[], (waits_accounts (hsound.withExits exits) haside).withExits⟩
  | finishes hpoint hattempts => exact ⟨[], finish_accounts hsound hpoint hattempts⟩

end CoreBroker.Speculative
