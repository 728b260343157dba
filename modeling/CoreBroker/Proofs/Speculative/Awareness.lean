import CoreBroker.Proofs.Speculative.Notification
import CoreBroker.Proofs.Speculative.Sizing
set_option autoImplicit false

/-!
# What a fulfiller knows

What a pass has found out at each of its points stays true as long as the receivers of the fulfiller find
nothing.  A count may be out of date when the requests are looked at again, and cores may then be left or
missing; but whatever made it so has been announced, and another pass follows.
-/

namespace CoreBroker

namespace Speculative

variable {f f' : Speculative} {s s' : Scene} {st st' : Stage} {me : Nat}

/-- How many of these requests the fulfiller serves. -/
def demand (f : Speculative) (waiting : List (Request Core)) : Nat :=
  waiting.countP fun r => f.constraint.admits r.preference

/-- Only providers with these ids hold cores. -/
def HoldsOnly (f : Speculative) (ids : List String) : Prop :=
  ∀ o ∈ f.states, o.hasCore = true → o.provider.id ∈ ids

/-- What the point at which the loop is says about the requests, as far as nothing was announced. -/
def Knows (f : Speculative) (st : Stage) : Prop :=
  match f.point with
  | .probing pending _ _ _ holders _ => 0 < pending ∧ f.HoldsOnly holders
  | .matching ready _ =>
    ∀ waiting, st.IsCalm f.board f.requestReceiver waiting →
      f.demand waiting = 0 ∨ ready ≠ [] ∨ f.HoldsOnly []
  | .discarding _ | .idle => f.exits = [] → ∀ waiting,
      st.IsCalm f.board f.requestReceiver waiting → f.IsSized (f.demand waiting)
  | _ => True

/-- What holds of a fulfiller, whose index is `me`, and the stage. -/
structure IsAware (me : Nat) (st : Stage) (f : Speculative) : Prop where
  served : f.point ≠ .ended → f.subscription.IsServed st
  known : ∀ o ∈ f.states, o.provider ∈ st.providers
  guarded : f.point.isInPass = true → f.guard.holder = some (.speculative me)
  /-- From the beginning of a pass to the next one the tracked providers are those on the roster. -/
  tracks : f.point.isInPass = true ∨ f.point.isAfterPass = true → ∀ members,
    st.IsCurrent f.roster f.rosterReceiver members → f.states.providers.Perm members
  knows : f.Knows st

/-- Away from passes, and from the wait for the next one, there is nothing to know. -/
theorem IsAware.elsewhere (hpass : f.point.isInPass = false) (hafter : f.point.isAfterPass = false)
    (hserved : f.point ≠ .ended → f.subscription.IsServed st)
    (hknown : ∀ o ∈ f.states, o.provider ∈ st.providers) : f.IsAware me st where
  served := hserved
  known := hknown
  guarded hin := absurd (hpass.symm.trans hin) Bool.false_ne_true
  tracks hpoint := by
    rcases hpoint with hin | hpoint
    · exact absurd (hpass.symm.trans hin) Bool.false_ne_true
    · exact absurd (hafter.symm.trans hpoint) Bool.false_ne_true
  knows := by
    unfold Knows
    cases hpoint : f.point with
    | probing pending ready held ticket holders discarded =>
      rw [hpoint] at hpass
      exact absurd hpass (by simp [SpeculativePoint.isInPass])
    | matching ready discarded =>
      rw [hpoint] at hpass
      exact absurd hpass (by simp [SpeculativePoint.isInPass])
    | discarding others =>
      rw [hpoint] at hafter
      exact absurd hafter (by simp [SpeculativePoint.isAfterPass])
    | idle =>
      rw [hpoint] at hafter
      exact absurd hafter (by simp [SpeculativePoint.isAfterPass])
    | _ => trivial

/-- What a fulfiller knows is about its point, its obtainments and the exits alone. -/
theorem Knows.of_same (hknows : f.Knows st) (hsame : f' = { f with
      attempts := f'.attempts, guard := f'.guard, exits := f'.exits, sink := f'.sink })
    (hexits : f'.exits = [] → f.exits = []) : f'.Knows st := by
  generalize f'.attempts = attempts, f'.guard = guard, f'.exits = exits, f'.sink = sink at *
  subst hsame
  unfold Knows at hknows ⊢
  cases hpoint : f.point with
  | discarding _ | idle =>
    simp only [hpoint] at hknows ⊢
    intro hnone waiting hcalm
    obtain ⟨hengaged, hcoreless⟩ := hknows (hexits hnone) waiting hcalm
    exact ⟨hengaged, hcoreless⟩
  | probing pending ready held ticket holders discarded =>
    simp only [hpoint] at hknows ⊢
    exact hknows
  | matching ready discarded =>
    simp only [hpoint] at hknows ⊢
    exact hknows
  | _ => trivial

/-- What others do a fulfiller notices, so what it knows stays true. -/
theorem Knows.later (hknows : f.Knows st) (hnotices : f.subscription.Notices st st') : f.Knows st' := by
  unfold Knows at hknows ⊢
  split at hknows
  · exact hknows
  · exact fun waiting hcalm => hknows waiting (hnotices.calm hcalm)
  · exact fun hexits waiting hcalm => hknows hexits waiting (hnotices.calm hcalm)
  · exact fun hexits waiting hcalm => hknows hexits waiting (hnotices.calm hcalm)
  · trivial

theorem IsAware.later (haware : f.IsAware me st)
    (hproviders : ∀ p ∈ st.providers, p ∈ st'.providers)
    (hothers : f.subscription.IsServed st → f.subscription.IsServed st' ∧ f.subscription.Notices st st') :
    f.IsAware me st' := by
  by_cases hended : f.point = .ended
  · refine .elsewhere ?_ ?_ (fun hnot => absurd hended hnot)
      fun o ho => hproviders _ (haware.known o ho)
    · rw [hended]
      rfl
    · rw [hended]
      rfl
  · obtain ⟨hserved, hnotices⟩ := hothers (haware.served hended)
    exact ⟨fun _ => hserved, fun o ho => hproviders _ (haware.known o ho), haware.guarded,
      fun hpoint members hcurrent => haware.tracks hpoint members (hnotices.current hcurrent),
      haware.knows.later hnotices⟩

/-! ## Held cores -/

/-- As long as there are holders left that were not asked, a pass goes on asking them. -/
theorem nextHolder_knows {pending : Nat} (hpending : 0 < pending) (ready : List Ready)
    (discarded : List Core) (st : Stage) :
    ∀ (holders : List String) {f : Speculative} {s : Scene}, f.states.ids.Nodup →
      f.HoldsOnly holders → (f.nextHolder pending ready discarded s holders).1.Knows st := by
  intro holders
  -- The holders that are left cover the cores that are left, and each is taken off the list with its core.
  induction holders with
  | nil =>
    intro f s _ hcover
    exact fun waiting _ => .inr (.inr hcover)
  | cons id rest ih =>
    intro f s hids hcover
    unfold nextHolder
    split
    · rename_i henough
      refine fun waiting _ => .inr (.inl fun hnone => ?_)
      rw [hnone, List.length_nil] at henough
      omega
    · cases htake : f.states.takeCore? id with
      | none =>
        refine ih hids fun o ho hcore => ?_
        rcases List.mem_cons.mp (hcover o ho hcore) with hid | hrest
        · obtain ⟨core, states, htaken⟩ := States.takeCore?_of_hasCore hids ho hcore
          rw [hid, htake] at htaken
          exact absurd htaken (by simp)
        · exact hrest
      | some taken =>
        obtain ⟨core, states⟩ := taken
        refine ⟨hpending, fun o ho hcore => ?_⟩
        obtain ⟨hbefore, hne⟩ := States.of_mem_takeCore? htake ho hcore
        rcases List.mem_cons.mp (hcover o hbefore hcore) with hid | hrest
        · exact absurd hid hne
        · exact hrest

/-- The next holder is asked by a fulfiller that otherwise stays as it is. -/
theorem IsAware.withHolds (haware : f.IsAware me s.stage) (hpass : f.point.isInPass = true)
    {ready : List Ready} {discarded : List Core} (hholds : Holds f s ready discarded f' s')
    (hknows : f'.Knows s'.stage) : f'.IsAware me s'.stage := by
  have hsubscription : f'.subscription = f.subscription := by
    rw [hholds.same]
    rfl
  have hroster : f'.roster = f.roster ∧ f'.rosterReceiver = f.rosterReceiver := by
    rw [hholds.same]
    exact ⟨rfl, rfl⟩
  have hguard : f'.guard = f.guard := by
    rw [hholds.same]
  refine ⟨fun _ => ?_, fun o ho => ?_, fun _ => ?_, fun _ members hcurrent => ?_, hknows⟩
  · rw [hsubscription, hholds.aside.stage]
    exact haware.served fun hended => by simp [hended, SpeculativePoint.isInPass] at hpass
  · rw [hholds.aside.stage]
    have hmem : o.provider ∈ f'.states.providers := List.mem_map_of_mem ho
    rw [hholds.providers] at hmem
    obtain ⟨q, hq, hqo⟩ := List.mem_map.mp hmem
    exact hqo ▸ haware.known q hq
  · rw [hguard]
    exact haware.guarded hpass
  · rw [hholds.providers]
    rw [hroster.1, hroster.2, hholds.aside.stage] at hcurrent
    exact haware.tracks (.inl hpass) members hcurrent

/-- Where nothing was announced, the candidates are the requests that wait. -/
theorem candidateCount_of_calm {g : Registry Core} {changes : Channel Statistics}
    (hboard : st.boards[f.board]? = some (g, changes)) {waiting : List (Request Core)}
    (hcalm : st.IsCalm f.board f.requestReceiver waiting) :
    g.candidateCount f.constraint = f.demand waiting := by
  obtain ⟨hfree, rfl⟩ := hcalm.of_board hboard
  exact hfree.candidateCount_eq f.constraint

/-! ## A pass -/

theorem reconcile_aware (hstage : s.stage.IsSound) (hids : f.states.ids.Nodup)
    (haware : f.IsAware me s.stage) (hended : f.point ≠ .ended)
    (hguard : f.guard.holder = some (.speculative me)) :
    (f.reconcile s).1.IsAware me (f.reconcile s).2.stage := by
  rw [(f.aside_reconcile s).stage]
  have hmember : ∀ p ∈ f.members s, p ∈ s.stage.providers := by
    intro p hp
    unfold members at hp
    cases hroster : s.rosters[f.roster]? with
    | none => simp [hroster] at hp
    | some roster =>
      have hmem : (roster.members, roster.changes) ∈ s.stage.rosters :=
        List.mem_map.mpr ⟨roster, List.mem_of_getElem? hroster, rfl⟩
      exact hstage.members _ hmem p (by simpa [hroster] using hp)
  refine ⟨fun _ => haware.served hended, fun o ho => ?_, fun _ => hguard, fun _ members hcurrent => ?_,
    trivial⟩
  · rcases States.provider_of_sync ho with ho | hp
    · exact haware.known o ho
    · exact hmember _ hp
  · have hthese : f.members s = members := by
      obtain ⟨changes, hroster, -⟩ := hcurrent
      obtain ⟨roster, hfound, hmembers, -⟩ := Scene.roster_of_stage hroster
      rw [Speculative.members, ← hmembers]
      simp only [reconcile, goTo] at hfound
      simp [hfound]
    rw [← hthese]
    exact States.providers_sync_perm hids (members_nodup hstage f) fun o ho p hp hserial =>
      hstage.eq_of_serial (haware.known o ho) (hmember p hp) hserial

theorem count_aware (chance : Chance) (hids : f.states.ids.Nodup) (haware : f.IsAware me s.stage)
    (hpass : f.point.isInPass = true) {board : Board}
    (hboard : s.stage.boards[f.board]? = some (board.registry, board.changes)) (discarded : List Core) :
    (f.count chance discarded board s).1.IsAware me (f.count chance discarded board s).2.stage := by
  have hholds := count_holds chance hids discarded board s
  refine haware.withHolds hpass hholds ?_
  rw [hholds.aside.stage]
  unfold count
  simp only
  split
  · rename_i hnone
    exact fun waiting hcalm => .inl ((candidateCount_of_calm hboard hcalm).symm.trans hnone)
  · rename_i hsome
    have hcover : f.HoldsOnly (f.drawHolders chance (s.leave f.board)).1 := by
      intro o ho hcore
      refine (chance.mem_order _ _ _).mpr (List.mem_map_of_mem ?_)
      exact List.mem_filter.mpr ⟨ho, hcore⟩
    exact nextHolder_knows (Nat.pos_of_ne_zero hsome) [] discarded s.stage _ hids hcover

theorem judge_aware (hids : f.states.ids.Nodup) (haware : f.IsAware me s.stage) {pending : Nat}
    {ready : List Ready} {held : Ready} {ticket : Nat} {holders : List String} {discarded : List Core}
    (hpoint : f.point = .probing pending ready held ticket holders discarded) (isAlive : Bool) :
    (f.judge pending ready held holders discarded isAlive s).1.IsAware me
      (f.judge pending ready held holders discarded isAlive s).2.stage := by
  have hpass : f.point.isInPass = true := by
    rw [hpoint]
    rfl
  obtain ⟨hpending, hcover⟩ : 0 < pending ∧ f.HoldsOnly holders := by
    have hknows := haware.knows
    unfold Knows at hknows
    rwa [hpoint] at hknows
  unfold judge
  split
  · exact haware.withHolds hpass (nextHolder_holds pending (ready ++ [held]) discarded holders hids)
      (nextHolder_knows hpending (ready ++ [held]) discarded _ holders hids hcover)
  · have haside := (s.aside_report .debug "Held core is not alive, disposing"
      [providerField held.1]).trans (Scene.aside_trace _ f.sink traceSource
        ("dead core from " ++ held.1 : String))
    rw [← haside.stage] at haware
    exact haware.withHolds hpass (nextHolder_holds pending ready (discarded ++ [held.2]) holders hids)
      (nextHolder_knows hpending ready (discarded ++ [held.2]) _ holders hids hcover)

/-- Where there are requests and cores, a core is assigned, and that is announced. -/
theorem not_calm_of_assign (hstage : s.stage.IsSound) (hserved : f.subscription.IsServed s.stage)
    {g : Registry Core} {changes : Channel Statistics}
    (hboard : s.stage.boards[f.board]? = some (g, changes))
    (hrequests : g.candidates f.constraint ≠ []) {ready : List Ready}
    (hready : ready ≠ []) {waiting : List (Request Core)} :
    ¬ (f.assign s ((g.candidates f.constraint).map (·.id)) ready).scene.stage.IsCalm f.board
      f.requestReceiver waiting := by
  obtain ⟨q, rest, hcandidates⟩ := List.exists_cons_of_ne_nil hrequests
  obtain ⟨⟨provider, core⟩, others, rfl⟩ := List.exists_cons_of_ne_nil hready
  have hq : q ∈ g.candidates f.constraint := hcandidates ▸ List.mem_cons_self
  obtain ⟨hmem, hcandidate⟩ := Registry.mem_candidates.mp hq
  obtain ⟨hids, hcoherent⟩ := hstage.requests hboard
  have hassign : g.assign q.id core = .ok (g.modify q.id fun _ =>
      { q with isAssigned := true, core := some core, phase := .fulfilled }) := by
    simp only [Registry.assign, Registry.get?_of_mem hids hmem,
      (hcoherent q hmem).assign_of_isCandidate hcandidate core]
  obtain ⟨s₁, hassigned⟩ : ∃ s₁, (s.note (.offered f.board q.id core)).assignCore f.board q.id core =
      .ok s₁ := by
    obtain ⟨board, hfound, rfl, -⟩ := Scene.board_of_stage hboard
    have hnoted : (s.note (.offered f.board q.id core)).boards[f.board]? = some board := hfound
    simp only [Scene.assignCore, hnoted, hassign]
    exact ⟨_, rfl⟩
  have hbecomes : s.stage.Becomes (.changed f.board (.assigned q.id core)) s₁.stage :=
    (Scene.performs_assignCore hassigned).stage
  have haside := (s₁.aside_report .trace "request fulfilled"
    [providerField provider, ("request_id", .naming q.id)]).trans (Scene.aside_trace _ f.sink
      traceSource (Phrase.ofText "fulfilled request " ++ Phrase.naming q.id
        ++ Phrase.ofText (" from " ++ provider)))
  rw [hcandidates, List.map_cons]
  unfold assign
  simp only [hassigned]
  -- The first assignment is announced, and whatever is assigned afterwards does not silence it.
  intro hcalm
  have hstart : s₁.stage.IsSound := hstage.becomes hbecomes
  have hthere : s₁.stage.ServesBoard f.board f.requestReceiver :=
    hbecomes.servesBoard (fun h => h) hserved.board
  obtain ⟨events, hrest⟩ := f.assign_assigns (rest.map (·.id)) others (f.trace (s₁.report .trace
    "request fulfilled" [providerField provider, ("request_id", .naming q.id)])
      (Phrase.ofText "fulfilled request " ++ Phrase.naming q.id ++ Phrase.ofText (" from " ++ provider)))
  have hacts := (Scene.ActSequence.aside .refl haside).trans hrest.acts
  have hspares : ∀ st act, MayPlace f.board (rest.map (·.id)) (others.map (·.2)) st act →
      act.Spares f.subscription st := fun _ _ => MayPlace.spares
  exact hbecomes.not_calm hstage hserved.board
    (hacts.calm hstart (fun _ _ h => (hspares _ _ h).1) hthere hcalm)

/-- What a pass comes to at its end, when nothing was announced meanwhile: nothing was assigned, so what
is left to serve are all the requests that wait, and no core is left unless there are none. -/
theorem matched_of_calm (hstage : s.stage.IsSound) (hserved : f.subscription.IsServed s.stage)
    {g : Registry Core} {changes : Channel Statistics}
    (hboard : s.stage.boards[f.board]? = some (g, changes)) {ready : List Ready}
    {waiting : List (Request Core)} (hbefore : s.stage.IsCalm f.board f.requestReceiver waiting)
    (hafter : (f.assign s ((g.candidates f.constraint).map (·.id)) ready).scene.stage.IsCalm f.board
      f.requestReceiver waiting) :
    (f.assign s ((g.candidates f.constraint).map (·.id)) ready).pending = f.demand waiting ∧
      (f.demand waiting = 0 ∨ ready = []) := by
  have hcount := candidateCount_of_calm hboard hbefore
  rw [Registry.candidateCount, List.countP_eq_length_filter] at hcount
  by_cases hrequests : g.candidates f.constraint = []
  · rw [Registry.candidates] at hrequests
    rw [hrequests, List.length_nil] at hcount
    simp only [Registry.candidates, hrequests, List.map_nil, assign]
    exact ⟨hcount, .inl hcount.symm⟩
  · have hready : ready = [] := by
      by_contra hready
      exact not_calm_of_assign hstage hserved hboard hrequests hready hafter
    refine ⟨?_, .inr hready⟩
    obtain ⟨q, rest, hcandidates⟩ := List.exists_cons_of_ne_nil hrequests
    rw [Registry.candidates] at hcandidates
    rw [hcandidates] at hcount
    simp only [hready, Registry.candidates, hcandidates, List.map_cons, assign, List.length_cons,
      List.length_map]
    exact hcount

theorem leftovers_of_assign_nil (f : Speculative) (s : Scene) (requests : List Nat) :
    (f.assign s requests []).leftovers = [] := by
  cases requests <;> rfl

/-- A pass during which nothing was announced ends with the right number of providers engaged. -/
theorem resize_isSized_of_calm (chance : Chance) (hstage : s.stage.IsSound) (hids : f.states.ids.Nodup)
    (hserved : f.subscription.IsServed s.stage) (me : Nat) (discarded : List Core) {g : Registry Core}
    {changes : Channel Statistics} (hboard : s.stage.boards[f.board]? = some (g, changes))
    {ready : List Ready} {waiting : List (Request Core)}
    (hknows : f.demand waiting = 0 ∨ ready ≠ [] ∨ f.HoldsOnly [])
    (hbefore : s.stage.IsCalm f.board f.requestReceiver waiting)
    (hafter : (f.assign s ((g.candidates f.constraint).map (·.id)) ready).scene.stage.IsCalm f.board
      f.requestReceiver waiting) :
    (f.resize chance me discarded
      (f.assign s ((g.candidates f.constraint).map (·.id)) ready)).1.IsSized (f.demand waiting) := by
  obtain ⟨hpending, hcase⟩ := matched_of_calm hstage hserved hboard hbefore hafter
  have hsized := resize_isSized chance hids me discarded
    (f.assign s ((g.candidates f.constraint).map (·.id)) ready) fun hleft => by
      rw [hpending] at hleft
      -- Requests are left, so there was no core to assign, and the pass looked at all that were held.
      have hnone : ready = [] := hcase.resolve_left hleft
      have hcover : f.HoldsOnly [] :=
        (hknows.resolve_left hleft).resolve_left fun hready => hready hnone
      subst hnone
      rw [leftovers_of_assign_nil]
      exact List.countP_eq_zero.mpr fun o ho hcore => absurd (hcover o ho hcore) List.not_mem_nil
  rwa [hpending] at hsized

/-- Every pass ends with the right number of providers engaged, unless something was announced. -/
theorem finishPass_aware (chance : Chance) (hstage : s.stage.IsSound) (hids : f.states.ids.Nodup)
    (haware : f.IsAware me s.stage) {ready : List Ready} {discarded : List Core}
    (hpoint : f.point = .matching ready discarded) {board : Board}
    (hboard : s.stage.boards[f.board]? = some (board.registry, board.changes)) :
    (f.finishPass chance me ready discarded board s).1.IsAware me
      (f.finishPass chance me ready discarded board s).2.stage := by
  have hpass : f.point.isInPass = true := by
    rw [hpoint]
    rfl
  have hserved := haware.served fun hended => by simp [hpoint] at hended
  have hknows : ∀ waiting, s.stage.IsCalm f.board f.requestReceiver waiting →
      f.demand waiting = 0 ∨ ready ≠ [] ∨ f.HoldsOnly [] := by
    have hknows := haware.knows
    unfold Knows at hknows
    rwa [hpoint] at hknows
  obtain ⟨events, hassigns⟩ := f.assign_assigns
    ((board.registry.candidates f.constraint).map (·.id)) ready s
  have hsized := fun waiting hbefore => @resize_isSized_of_calm f s chance hstage hids hserved me
    discarded _ _ hboard ready waiting (hknows waiting hbefore) hbefore
  rw [finishPass_eq]
  generalize f.assign s ((board.registry.candidates f.constraint).map (·.id)) ready = matched at *
  have hsame := resize_same chance me discarded matched hids
  have hproviders := resize_providers chance me discarded matched hids
  have hfirst : Scene.ActSequence (Act.Spares f.subscription) s events matched.scene :=
    hassigns.acts.mono fun _ _ => MayPlace.spares
  have hrest : Scene.ActSequence (Act.Spares f.subscription) matched.scene _ _ :=
    resize_acts chance me discarded matched hids fun _ _ => ⟨trivial, trivial⟩
  generalize f.resize chance me discarded matched = sized at *
  obtain ⟨g, s₁, gone⟩ := sized
  simp only at hsized hsame hproviders hrest ⊢
  have hthere := hfirst.isServed (fun _ _ h => h.not_leaves) hserved
  have hnoticed := hfirst.notices hstage (fun _ _ h => h) hserved
  have hlast := hrest.notices (hfirst.stage_isSound hstage) (fun _ _ h => h) hthere
  generalize g.states = states, g.attempts = attempts, g.owners = owners at hsame hproviders
  subst hsame
  refine ⟨fun _ => ?_, fun o ho => ?_, fun hin => absurd hin ?_, fun _ members hcurrent => ?_, ?_⟩
  · exact hrest.isServed (fun _ _ h => h.not_leaves) hthere
  · have hmem : o.provider ∈ states.providers := List.mem_map_of_mem ho
    rw [hproviders] at hmem
    obtain ⟨q, hq, hqo⟩ := List.mem_map.mp hmem
    exact hrest.mem_providers (hfirst.mem_providers (hqo ▸ haware.known q hq))
  · cases gone <;> exact Bool.false_ne_true
  · have hbefore : s.stage.IsCurrent f.roster f.rosterReceiver members :=
      hnoticed.current (hlast.current hcurrent)
    exact hproviders.symm ▸ haware.tracks (.inl hpass) members hbefore
  · -- Whether there is something to dispose of first or not, the providers are engaged as they should be.
    have hknown : ∀ waiting, (s₁.disposeCores (gone.take 1)).stage.IsCalm f.board f.requestReceiver
        waiting → _ := fun waiting hcalm =>
      have hafter : matched.scene.stage.IsCalm f.board f.requestReceiver waiting := hlast.calm hcalm
      hsized waiting (hnoticed.calm hafter) hafter
    cases gone <;> exact fun _ waiting hcalm =>
      ⟨(hknown waiting hcalm).1, (hknown waiting hcalm).2⟩

end Speculative

end CoreBroker
