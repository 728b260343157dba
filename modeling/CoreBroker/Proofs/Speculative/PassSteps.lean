import CoreBroker.Proofs.Speculative.AttemptSteps
set_option autoImplicit false

/-!
# What the parts of a pass do

Every part of a pass keeps the number of each core: a core that leaves an obtainment goes through the
hands of the pass to a request, back into its obtainment, or is disposed of at the end.
-/

namespace CoreBroker

theorem Scene.aside_foldl {α : Type} {act : Scene → α → Scene}
    (hact : ∀ (s : Scene) (a : α), s.Aside (act s a)) :
    ∀ (entries : List α) (s : Scene), s.Aside (entries.foldl act s) := by
  intro entries
  induction entries with
  | nil => exact fun s => .refl s
  | cons a entries ih => exact fun s => (hact s a).trans (ih (act s a))

/-- The points of a pass, at which the guard of the obtainments is held. -/
def SpeculativePoint.isInPass : SpeculativePoint → Bool
  | .counting _ | .probing _ _ _ _ _ _ | .matching _ _ => true
  | _ => false

/-- The points between a pass and what the loop takes notice of next. -/
def SpeculativePoint.isAfterPass : SpeculativePoint → Bool
  | .discarding _ | .idle => true
  | _ => false

/-- The points at which the loop has turned to giving everything up, or has done so. -/
def SpeculativePoint.isStopping : SpeculativePoint → Bool
  | .releasing | .dissolving _ | .joining | .ended => true
  | _ => false

theorem SpeculativePoint.isStopping_of_isReleased {point : SpeculativePoint}
    (hreleased : point.isReleased = true) : point.isStopping = true := by
  cases point with
  | dissolving _ | joining | ended => rfl
  | _ => exact absurd hreleased Bool.false_ne_true

/-- At a point to which the loop goes on it is not over, and has given everything up only if it had so
before. -/
def SpeculativePoint.Continues (point before : SpeculativePoint) : Prop :=
  (point.isReleased = true → before.isReleased = true) ∧ point ≠ .ended

/-- The point to which the loop goes when it disposes of cores in turn. -/
def SpeculativePoint.inTurn (wait : List Core → SpeculativePoint) (next : SpeculativePoint) :
    List Core → SpeculativePoint
  | [] => next
  | _ :: others => wait others

theorem SpeculativePoint.of_inTurn {P : SpeculativePoint → Prop} {wait : List Core → SpeculativePoint}
    {next : SpeculativePoint} (hwait : ∀ others, P (wait others)) (hnext : P next)
    (cores : List Core) : P (.inTurn wait next cores) := by
  cases cores with
  | nil => exact hnext
  | cons core others => exact hwait others

theorem SpeculativePoint.isReleased_inTurn (cores : List Core) :
    (SpeculativePoint.inTurn .dissolving .joining cores).isReleased = true :=
  of_inTurn (P := (·.isReleased = true)) (fun _ => rfl) rfl cores

theorem SpeculativePoint.not_isAfterPass_of_isInPass {point : SpeculativePoint}
    (hpass : point.isInPass = true) : point.isAfterPass = false := by
  cases point with
  | counting _ | probing _ _ _ _ _ _ | matching _ _ => rfl
  | _ => exact absurd hpass Bool.false_ne_true

theorem SpeculativePoint.not_isStopping_of_isInPass {point : SpeculativePoint}
    (hpass : point.isInPass = true) : point.isStopping = false := by
  cases point with
  | counting _ | probing _ _ _ _ _ _ | matching _ _ => rfl
  | _ => exact absurd hpass Bool.false_ne_true

namespace Speculative

variable {f f' : Speculative} {s s' : Scene} {me : Nat}

/-! ## Disposing in turn -/

section Turn

variable {wait : List Core → SpeculativePoint} {next : SpeculativePoint}

theorem disposeInTurn_eq (f : Speculative) (s : Scene) (wait : List Core → SpeculativePoint)
    (next : SpeculativePoint) (cores : List Core) : f.disposeInTurn s wait next cores =
      (f.goTo (.inTurn wait next cores), s.disposeCores (cores.take 1)) := by
  cases cores <;> rfl

theorem disposeInTurn_story (f : Speculative) (s : Scene) (wait : List Core → SpeculativePoint)
    (next : SpeculativePoint) (cores : List Core) :
    (f.disposeInTurn s wait next cores).2.story = (cores.take 1).map .disposed ++ s.story := by
  cases cores with
  | nil => rfl
  | cons core others => exact (s.performs_disposeCore core).story

/-- A core is disposed of, and the others stay in the hands of the loop. -/
theorem count_inTurn (hwait : ∀ others, (wait others).cores = others) (hnext : next.cores = [])
    (cores : List Core) (core : Core) :
    (SpeculativePoint.inTurn wait next cores).cores.count core + (cores.take 1).count core =
      cores.count core := by
  cases cores with
  | nil => simp [SpeculativePoint.inTurn, hnext]
  | cons first others =>
    rw [SpeculativePoint.inTurn, hwait, List.take_succ_cons, List.take_zero, ← List.count_append]
    exact (List.perm_append_singleton first others).count_eq core

end Turn

/-! ## Reconciling -/

theorem aside_dropProvider (f : Speculative) (s : Scene) (o : Obtainment Core) :
    s.Aside (f.dropProvider s o) :=
  ((Scene.aside_foldl Scene.aside_fire _ s).trans (Scene.aside_report _ _ _ _)).trans
    (Scene.aside_trace _ _ _ _)

theorem aside_trackProvider (f : Speculative) (s : Scene) (p : ProviderRef) :
    s.Aside (f.trackProvider s p) :=
  (s.aside_report _ _ _).trans (Scene.aside_trace _ _ _ _)

theorem aside_reconcile (f : Speculative) (s : Scene) : s.Aside (f.reconcile s).2 :=
  (Scene.aside_foldl f.aside_dropProvider _ s).trans (Scene.aside_foldl f.aside_trackProvider _ _)

/-- The members of the roster of a fulfiller. -/
def members (f : Speculative) (s : Scene) : List ProviderRef :=
  ((s.rosters[f.roster]?).map (·.members)).getD []

/-- The members of a roster on a sound stage have ids of their own. -/
theorem members_nodup (hstage : s.stage.IsSound) (f : Speculative) :
    ((f.members s).map (·.id)).Nodup := by
  unfold members
  cases hroster : s.rosters[f.roster]? with
  | none => exact List.nodup_nil
  | some roster =>
    have hmem : (roster.members, roster.changes) ∈ s.stage.rosters :=
      List.mem_map.mpr ⟨roster, List.mem_of_getElem? hroster, rfl⟩
    exact hstage.ids _ hmem

theorem reconcile_counts (f : Speculative) (s : Scene) (core : Core) :
    (f.reconcile s).1.tracked core + (f.reconcile s).1.inLoop core = f.tracked core :=
  States.countP_sync f.states (f.members s) core

/-! ## Held cores -/

/-- Taking held cores, one after the other, until one is asked whether it works. -/
structure Holds (f : Speculative) (s : Scene) (ready : List Ready) (discarded : List Core)
    (f' : Speculative) (s' : Scene) : Prop where
  same : f' = { f with states := f'.states, point := f'.point }
  aside : s.Aside s'
  providers : f'.states.providers = f.states.providers
  point : f'.point.isInPass = true
  counts : ∀ core, f'.tracked core + f'.inLoop core =
    f.tracked core + (ready.map (·.2)).count core + discarded.count core

theorem nextHolder_holds (pending : Nat) (ready : List Ready) (discarded : List Core) :
    ∀ (holders : List String) {f : Speculative} {s : Scene}, f.states.ids.Nodup →
      Holds f s ready discarded (f.nextHolder pending ready discarded s holders).1
        (f.nextHolder pending ready discarded s holders).2 := by
  have hmatching : ∀ (f : Speculative) (s : Scene),
      Holds f s ready discarded (f.goTo (.matching ready discarded)) s := fun f s => by
    refine ⟨rfl, .refl s, rfl, rfl, fun core => ?_⟩
    simp [inLoop, tracked, goTo, SpeculativePoint.cores]
    omega
  intro holders
  induction holders with
  | nil => exact fun _ => hmatching _ _
  | cons id rest ih =>
    intro f s hids
    unfold nextHolder
    split
    · exact hmatching f s
    · cases htake : f.states.takeCore? id with
      | none => exact ih hids
      | some taken =>
        obtain ⟨core, states⟩ := taken
        obtain ⟨hproviders, hcounts⟩ := States.of_takeCore? hids htake
        refine ⟨rfl, s.aside_fresh, hproviders, rfl, fun c => ?_⟩
        have hc := hcounts c
        simp only [inLoop, tracked, goTo, SpeculativePoint.cores, List.count_append,
          count_cons_toNat]
        omega

/-- To judge a core is to go on to the next holder; the core is ready from now on or will be disposed of. -/
theorem judge_eq_nextHolder (f : Speculative) (pending : Nat) (ready : List Ready) (held : Ready)
    (holders : List String) (discarded : List Core) (isAlive : Bool) (s : Scene) :
    ∃ ready' discarded' s', s.Aside s' ∧ f.judge pending ready held holders discarded isAlive s =
      f.nextHolder pending ready' discarded' s' holders := by
  unfold judge
  split
  · exact ⟨_, _, _, .refl s, rfl⟩
  · have haside := (s.aside_report .debug "Held core is not alive, disposing"
      [providerField held.1]).trans (Scene.aside_trace _ f.sink traceSource
        ("dead core from " ++ held.1 : String))
    exact ⟨_, _, _, haside, rfl⟩

theorem aside_drawHolders (chance : Chance) (f : Speculative) (s : Scene) :
    s.Aside (f.drawHolders chance s).2 :=
  Scene.aside_of_same (Nat.le_refl _) rfl rfl rfl rfl

theorem count_holds (chance : Chance) (hids : f.states.ids.Nodup) (discarded : List Core) (board : Board)
    (s : Scene) : Holds f s [] discarded (f.count chance discarded board s).1
      (f.count chance discarded board s).2 := by
  by_cases hnone : board.registry.candidateCount f.constraint = 0
  · simp only [count, hnone, if_true]
    refine ⟨rfl, s.aside_leave f.board, rfl, rfl, fun core => ?_⟩
    simp [inLoop, tracked, goTo, SpeculativePoint.cores]
  · simp only [count, hnone, if_false]
    have hholds := nextHolder_holds (board.registry.candidateCount f.constraint) [] discarded
      (f.drawHolders chance (s.leave f.board)).1 (s := (f.drawHolders chance (s.leave f.board)).2)
      hids
    exact ⟨hholds.same, ((s.aside_leave f.board).trans (aside_drawHolders chance f _)).trans
      hholds.aside, hholds.providers, hholds.point, hholds.counts⟩

/-! ## Matching -/

/-- What comes of assigning cores to requests: every core was assigned or is left over. -/
structure Assigns (board : Nat) (requests : List Nat) (s : Scene) (events : List Event)
    (ready : List Ready) (matched : Matched) : Prop where
  acts : Scene.ActSequence (MayPlace board requests (ready.map (·.2))) s events matched.scene
  settled : IsSettled events
  unminted : ∀ core, events.count (.minted core) = 0
  counts : ∀ core, (matched.leftovers.map (·.2)).count core + spent core events =
    (ready.map (·.2)).count core

/-- One core more is dealt with before the others: it is spent, or among those that are left over. -/
theorem Assigns.after {board request : Nat} {requests : List Nat} {s₁ : Scene} {first rest : List Event}
    {ready leftovers : List Ready} {matched : Matched} {id : String} {core : Core}
    (hrest : Assigns board requests s₁ rest ready matched)
    (hacts : Scene.ActSequence (MayPlace board (request :: requests) (core :: ready.map (·.2))) s first s₁)
    (hsettled : IsSettled first)
    (hunminted : ∀ c, first.count (.minted c) = 0)
    (hcounts : ∀ c, (leftovers.map (·.2)).count c + spent c first =
      (matched.leftovers.map (·.2)).count c + (decide (core = c)).toNat) :
    Assigns board (request :: requests) s (rest ++ first) ((id, core) :: ready)
      { matched with leftovers } where
  acts := hacts.trans (hrest.acts.mono fun _ _ =>
    MayPlace.mono (List.subset_cons_self _ _) (List.subset_cons_self _ _))
  settled := hsettled.append hrest.settled
  unminted c := by rw [List.count_append, hrest.unminted, hunminted]
  counts c := by
    have hfirst := hcounts c
    have hothers := hrest.counts c
    simp only [List.map_cons, count_cons_toNat, spent_append]
    omega

theorem assign_assigns (f : Speculative) : ∀ (requests : List Nat) (ready : List Ready) (s : Scene),
    ∃ events, Assigns f.board requests s events ready (f.assign s requests ready) := by
  intro requests
  induction requests with
  | nil =>
    intro ready s
    exact ⟨[], .refl, isSettled_nil, fun _ => rfl, fun _ => by simp [assign]⟩
  | cons request requests ih =>
    intro ready s
    cases ready with
    | nil => exact ⟨[], .refl, isSettled_nil, fun _ => rfl, fun _ => by simp [assign]⟩
    | cons entry ready =>
      obtain ⟨id, core⟩ := entry
      have hoffered := (s.performs_note (show (Event.offered f.board request core).isRemark
        from rfl)).acts (show MayPlace f.board (request :: requests) (core :: ready.map (·.2)) s.stage _
          from rfl)
      unfold assign
      simp only
      cases hassign : (s.note (.offered f.board request core)).assignCore f.board request core with
      | ok s₁ =>
        have hassigned := (Scene.performs_assignCore hassign).acts
          (show MayPlace f.board (request :: requests) (core :: ready.map (·.2)) _ _ from
            ⟨rfl, List.mem_cons_self, List.mem_cons_self⟩)
        have haside := (s₁.aside_report .trace "request fulfilled"
          [providerField id, ("request_id", .naming request)]).trans (Scene.aside_trace _ f.sink
            traceSource (Phrase.ofText "fulfilled request " ++ Phrase.naming request
              ++ Phrase.ofText (" from " ++ id)))
        obtain ⟨events, hrest⟩ := ih ready (f.trace (s₁.report .trace "request fulfilled"
          [providerField id, ("request_id", .naming request)])
            (Phrase.ofText "fulfilled request " ++ Phrase.naming request
              ++ Phrase.ofText (" from " ++ id)))
        refine ⟨_, hrest.after ((hoffered.trans hassigned).aside haside) ?_ ?_ ?_⟩
        · intro b n c
          simp [Act.events, List.count_cons]
        · intro c
          simp [Act.events]
        · intro c
          simp only [Act.events, spent_append, spent_assigned, spent_offered]
          omega
      | error reason =>
        have hrefused := ((s.note (.offered f.board request core)).performs_note
          (show (Event.refused f.board request core).isRemark from rfl)).acts
            (show MayPlace f.board (request :: requests) (core :: ready.map (·.2)) _ _ from rfl)
        have haside := Scene.aside_report ((s.note (.offered f.board request core)).note
          (.refused f.board request core)) .debug "core rejected"
            [("request_id", .naming request), ("reason", reason.message)]
        obtain ⟨events, hrest⟩ := ih ready (((s.note (.offered f.board request core)).note
          (.refused f.board request core)).report .debug "core rejected"
            [("request_id", .naming request), ("reason", reason.message)])
        refine ⟨_, hrest.after ((hoffered.trans hrefused).aside haside) ?_ ?_ ?_⟩
        · intro b n c
          simp [Act.events, List.count_cons]
        · intro c
          simp [Act.events]
        · intro c
          simp only [Act.events, spent_append, spent_refused, spent_offered, List.map_cons,
            count_cons_toNat]
          omega

/-! ## Sizing -/

/-- Attempts were started or obtainments given up: a core that leaves an obtainment is among those to be
disposed of. -/
structure RebalanceStep (f : Speculative) (s : Scene) (discarded : List Core) (f' : Speculative)
    (s' : Scene) (discarded' : List Core) : Prop where
  same : f' = { f with states := f'.states, attempts := f'.attempts, owners := f'.owners }
  aside : s.Aside s'
  providers : f'.states.providers = f.states.providers
  serials : (∀ a ∈ f.attempts, a.serial < s.nextSerial) → (f.attempts.map (·.serial)).Nodup →
    (∀ a ∈ f'.attempts, a.serial < s'.nextSerial) ∧ (f'.attempts.map (·.serial)).Nodup
  delivered : ∀ core, f'.delivered core = f.delivered core
  counts : ∀ core, f'.tracked core + discarded'.count core = f.tracked core + discarded.count core

namespace RebalanceStep

variable {f₁ f₂ f₃ : Speculative} {s₁ s₂ s₃ : Scene} {d₁ d₂ d₃ : List Core}

theorem of_aside (haside : s₁.Aside s₂) : RebalanceStep f₁ s₁ d₁ f₁ s₂ d₁ :=
  ⟨rfl, haside, rfl,
    fun hbounded hnodup => ⟨fun a ha => Nat.lt_of_lt_of_le (hbounded a ha) haside.serial, hnodup⟩,
    fun _ => rfl, fun _ => rfl⟩

theorem trans (h : RebalanceStep f₁ s₁ d₁ f₂ s₂ d₂) (h' : RebalanceStep f₂ s₂ d₂ f₃ s₃ d₃) :
    RebalanceStep f₁ s₁ d₁ f₃ s₃ d₃ where
  same := by
    rw [h'.same, h.same]
  aside := h.aside.trans h'.aside
  providers := h'.providers.trans h.providers
  serials hbounded hnodup := by
    obtain ⟨hbounded', hnodup'⟩ := h.serials hbounded hnodup
    exact h'.serials hbounded' hnodup'
  delivered core := (h'.delivered core).trans (h.delivered core)
  counts core := (h'.counts core).trans (h.counts core)

end RebalanceStep

theorem startAttempt_rebalanceStep (hids : f.states.ids.Nodup) (me : Nat) (s : Scene) (id : String)
    (discarded : List Core) : RebalanceStep f s discarded (f.startAttempt me s id).1
      (f.startAttempt me s id).2 discarded := by
  unfold startAttempt
  cases hget : f.states.get? id with
  | none => exact .of_aside (.refl s)
  | some o =>
    simp only
    cases hstart : o.start? (f.shutdown.child s.fresh.1) with
    | none => exact .of_aside s.aside_fresh
    | some started =>
      obtain ⟨number, o'⟩ := started
      obtain ⟨hidle, hprovider, hobtaining⟩ := Obtainment.isIdle_of_start? hstart
      simp only
      have hreported := (s.aside_fresh.trans (Scene.aside_report _ .debug "starting obtainment"
        [providerField id, ("attempt", .ofText (toString number))])).trans (Scene.aside_trace _
          f.sink traceSource ("obtaining from " ++ id : String))
      refine ⟨rfl, ?_, States.providers_replace hids hget hprovider, ?_, ?_, ?_⟩
      · exact ((hreported.trans (Scene.aside_fresh _)).trans (Scene.aside_newCall _ _ _)).trans
          (Scene.aside_spawn _ _)
      · intro hbounded hnodup
        have hserial := hreported.serial
        refine ⟨?_, ?_⟩
        · intro a ha
          rcases List.mem_append.mp ha with ha | ha
          · exact Nat.lt_of_lt_of_le (hbounded a ha)
              (Nat.le_trans hserial (Nat.le_trans (Nat.le_succ _) (Nat.le_succ _)))
          · rw [List.mem_singleton.mp ha]
            exact Nat.lt_succ_of_lt (Nat.lt_succ_self _)
        · rw [List.map_append, List.nodup_append]
          refine ⟨hnodup, List.nodup_singleton _, ?_⟩
          intro x hx y hy hxy
          obtain ⟨a, ha, rfl⟩ := List.mem_map.mp hx
          rw [List.map_singleton, List.mem_singleton] at hy
          have hlt := Nat.lt_of_lt_of_le (hbounded a ha) hserial
          rw [hxy, hy] at hlt
          exact Nat.lt_irrefl _ hlt
      · intro core
        simp [delivered, List.countP_append, Attempt.delivers]
      · intro core
        have hcount := States.countP_modify hids hget (fun _ => o') (·.holds core)
        rw [Obtainment.holds_of_isIdle hidle, Obtainment.holds_of_isObtaining hobtaining] at hcount
        simpa [tracked] using hcount

theorem ids_nodup_of_providers {states states' : States Core}
    (hproviders : states'.providers = states.providers) (hids : states.ids.Nodup) :
    states'.ids.Nodup := by
  rw [States.ids_eq_providers, hproviders, ← States.ids_eq_providers]
  exact hids

theorem startAttempts_rebalanceStep (me : Nat) (discarded : List Core) :
    ∀ (ids : List String) {f : Speculative} (s : Scene), f.states.ids.Nodup →
      RebalanceStep f s discarded (f.startAttempts me s ids).1 (f.startAttempts me s ids).2 discarded := by
  intro ids
  induction ids with
  | nil => exact fun s _ => .of_aside (.refl s)
  | cons id rest ih =>
    intro f s hids
    have hfirst := startAttempt_rebalanceStep hids me s id discarded
    exact hfirst.trans (ih _ (ids_nodup_of_providers hfirst.providers hids))

theorem giveUp_rebalanceStep (hids : f.states.ids.Nodup) (s : Scene) (discarded : List Core)
    (id : String) : RebalanceStep f s discarded (f.giveUp s discarded id).1 (f.giveUp s discarded id).2.1
      (f.giveUp s discarded id).2.2 := by
  unfold giveUp
  cases hget : f.states.get? id with
  | none => exact .of_aside (.refl s)
  | some o =>
    have haside := ((s.aside_report .debug "cancelling surplus obtainment"
      [providerField id]).trans (Scene.aside_trace _ f.sink traceSource
        ("cancelled obtainment on " ++ id : String))).trans
          (Scene.aside_foldl Scene.aside_fire o.inFlight?.toList _)
    refine ⟨rfl, haside, States.providers_modify fun _ _ _ => rfl, ?_, fun _ => rfl, ?_⟩
    · exact fun hbounded hnodup =>
        ⟨fun a ha => Nat.lt_of_lt_of_le (hbounded a ha) haside.serial, hnodup⟩
    · intro core
      have hcount := States.countP_modify hids hget (·.release) (·.holds core)
      rw [Obtainment.holds_of_idle (o := o.release) rfl] at hcount
      have hheld := o.count_heldCore core
      simp only [Bool.toNat_false] at hcount
      simp only [tracked, List.count_append]
      omega

theorem giveUpAll_rebalanceStep : ∀ (ids : List String) {f : Speculative} (s : Scene)
    (discarded : List Core), f.states.ids.Nodup →
      RebalanceStep f s discarded (f.giveUpAll s discarded ids).1 (f.giveUpAll s discarded ids).2.1
        (f.giveUpAll s discarded ids).2.2 := by
  intro ids
  induction ids with
  | nil => exact fun s _ _ => .of_aside (.refl s)
  | cons id rest ih =>
    intro f s discarded hids
    have hfirst := giveUp_rebalanceStep hids s discarded id
    exact hfirst.trans (ih _ _ (ids_nodup_of_providers hfirst.providers hids))

theorem rebalance_rebalanceStep (chance : Chance) (hids : f.states.ids.Nodup) (me : Nat) (s : Scene)
    (pending : Nat) (discarded : List Core) :
    RebalanceStep f s discarded (f.rebalance chance me s pending discarded).1
      (f.rebalance chance me s pending discarded).2.1
      (f.rebalance chance me s pending discarded).2.2 := by
  have hdraw : ∀ s : Scene, s.Aside { s with draws := s.draws + 1 } :=
    fun s => Scene.aside_of_same (Nat.le_refl _) rfl rfl rfl rfl
  unfold rebalance
  simp only
  split
  · exact (RebalanceStep.of_aside ((s.aside_report _ _ _).trans (hdraw _))).trans
      (startAttempts_rebalanceStep me discarded _ _ hids)
  · split
    · exact (RebalanceStep.of_aside ((s.aside_report _ _ _).trans (hdraw _))).trans
        (giveUpAll_rebalanceStep _ _ discarded hids)
    · exact .of_aside (s.aside_report _ _ _)

/-! ## The end of a pass -/

/-- The cores that were not needed are back in their obtainments. -/
def putBack (f : Speculative) (leftovers : List Ready) : Speculative :=
  { f with states := (f.states.restoreCores leftovers).1 }

/-- What a pass does once the assignments are made: the cores that were not needed are put back, and as
many providers are engaged as there should be for what is left to serve. -/
def resize (chance : Chance) (f : Speculative) (me : Nat) (discarded : List Core) (matched : Matched) :
    Speculative × Scene × List Core :=
  (f.putBack matched.leftovers).rebalance chance me (matched.scene.leave f.board) matched.pending
    (discarded ++ (f.states.restoreCores matched.leftovers).2)

section Resizing

variable (chance : Chance) (me : Nat) (discarded : List Core) (matched : Matched)

theorem finishPass_resizes (f : Speculative) (ready : List Ready) (board : Board) (s : Scene) :
    f.finishPass chance me ready discarded board s =
      let sized := f.resize chance me discarded
        (f.assign s ((board.registry.candidates f.constraint).map (·.id)) ready)
      sized.1.leave.disposeInTurn sized.2.1 .discarding .idle sized.2.2 := rfl

theorem finishPass_eq (f : Speculative) (ready : List Ready) (board : Board) (s : Scene) :
    f.finishPass chance me ready discarded board s =
      let sized := f.resize chance me discarded
        (f.assign s ((board.registry.candidates f.constraint).map (·.id)) ready)
      (sized.1.leave.goTo (.inTurn .discarding .idle sized.2.2),
        sized.2.1.disposeCores (sized.2.2.take 1)) :=
  disposeInTurn_eq _ _ _ _ _

theorem putBack_ids (hids : f.states.ids.Nodup) (leftovers : List Ready) :
    (f.putBack leftovers).states.ids.Nodup :=
  ids_nodup_of_providers (States.of_restoreCores leftovers hids).1 hids

theorem resize_rebalanceStep (hids : f.states.ids.Nodup) :
    RebalanceStep (f.putBack matched.leftovers) matched.scene
      (discarded ++ (f.states.restoreCores matched.leftovers).2)
      (f.resize chance me discarded matched).1 (f.resize chance me discarded matched).2.1
      (f.resize chance me discarded matched).2.2 :=
  (RebalanceStep.of_aside (Scene.aside_leave _ f.board)).trans
    (rebalance_rebalanceStep chance (putBack_ids hids matched.leftovers) me _ _ _)

theorem resize_same (hids : f.states.ids.Nodup) :
    (f.resize chance me discarded matched).1 = { f with
      states := (f.resize chance me discarded matched).1.states
      attempts := (f.resize chance me discarded matched).1.attempts
      owners := (f.resize chance me discarded matched).1.owners } :=
  (resize_rebalanceStep chance me discarded matched hids).same

theorem resize_providers (hids : f.states.ids.Nodup) :
    (f.resize chance me discarded matched).1.states.providers = f.states.providers :=
  (resize_rebalanceStep chance me discarded matched hids).providers.trans
    (States.of_restoreCores matched.leftovers hids).1

/-- Putting cores back loses none of them: those that are refused are disposed of. -/
theorem resize_counts (hids : f.states.ids.Nodup) (core : Core) :
    (f.resize chance me discarded matched).1.tracked core +
        (f.resize chance me discarded matched).2.2.count core =
      f.tracked core + (matched.leftovers.map (·.2)).count core + discarded.count core := by
  have hcounts := (resize_rebalanceStep chance me discarded matched hids).counts core
  have hback : (f.putBack matched.leftovers).tracked core +
      (f.states.restoreCores matched.leftovers).2.count core =
        f.tracked core + (matched.leftovers.map fun entry : Ready => entry.2).count core :=
    (States.of_restoreCores matched.leftovers hids).2 core
  rw [List.count_append] at hcounts
  omega

/-- To the stage the end of a pass does nothing but dispose of a core. -/
theorem resize_acts (hids : f.states.ids.Nodup) {may : Stage → Act → Prop}
    (hmay : ∀ st c, may st (.remarked (.disposed c))) :
    Scene.ActSequence may matched.scene
      (((f.resize chance me discarded matched).2.2.take 1).map Event.disposed).reverse
      ((f.resize chance me discarded matched).2.1.disposeCores
        ((f.resize chance me discarded matched).2.2.take 1)) := by
  have hdisposed := Scene.acts_disposeCores hmay ((f.resize chance me discarded matched).2.2.take 1)
    (f.resize chance me discarded matched).2.1
  have hboth := (Scene.ActSequence.aside .refl
    (resize_rebalanceStep chance me discarded matched hids).aside).trans hdisposed
  rwa [List.append_nil] at hboth

end Resizing

end Speculative

end CoreBroker
