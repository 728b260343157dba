import CoreBroker.Proofs.Dedicated.StepInversion
import CoreBroker.Proofs.Scene.Sound
set_option autoImplicit false

/-!
# What a step of a dedicated fulfiller comes to

A step of the loop moves a core in one of six ways or moves none.  Everything else that is proved about
the loop follows from this list, which is stated here once.
-/

namespace CoreBroker

/-- The core that the loop works on at a point. -/
def DedicatedPoint.core? : DedicatedPoint → Option Core
  | .probing core _ | .choosing core | .placing core _ => some core
  | _ => none

/-- The call that is under way at a point. -/
def DedicatedPoint.call? : DedicatedPoint → Option Call
  | .calling call | .rechecking call => some call
  | _ => none

/-- The core and the request that is reserved for it at a point. -/
def DedicatedPoint.claim? : DedicatedPoint → Option (Core × Nat)
  | .placing core request => some (core, request)
  | _ => none

namespace Dedicated

/-- The cores that the loop holds: a spare, and one it works on. -/
def cores (f : Dedicated) : List Core := f.spare.toList ++ f.point.core?.toList

/-- The calls of the loop that are under way. -/
def calls (f : Dedicated) : List Call := f.point.call?.toList

/-- The core and the request that the loop has reserved for it. -/
def claim? (f : Dedicated) : Option (Core × Nat) := f.point.claim?

/-- The fulfiller differs at most in where its loop stands and in its spare core. -/
def Same (f f' : Dedicated) : Prop := f' = { f with spare := f'.spare, point := f'.point }

/-- A spare core is kept only while the loop waits for something to change. -/
def IsSound (f : Dedicated) : Prop := f.spare.isSome → ∃ lookAgainAt, f.point = .idle lookAgainAt

/-- What a loop may do, whose registry is `b` and whose receiver is `r`.  It gives up the reservation
of a request only when the request waits no more, and its receiver only when it is over. -/
def May (isOver : Bool) (b r : Nat) (st : Stage) : Act → Prop
  | .remarked (.disposed _) | .minted _ => True
  | .remarked (.offered board _ _) | .remarked (.refused board _ _) => board = b
  | .changed board (.assigned _ _) | .changed board (.reserved _) => board = b
  | .changed board (.unreserved id) => board = b ∧ ¬ st.Waits b id
  | .looked board receiver => board = b ∧ receiver = r
  | .left board receiver => isOver = true ∧ board = b ∧ receiver = r
  | _ => False

section May

variable {isOver : Bool} (b r : Nat) (st : Stage)

theorem may_disposed (core : Core) : May isOver b r st (.remarked (.disposed core)) := trivial

theorem may_minted (core : Core) : May isOver b r st (.minted core) := trivial

theorem may_offered (id : Nat) (core : Core) : May isOver b r st (.remarked (.offered b id core)) := rfl

theorem may_refused (id : Nat) (core : Core) : May isOver b r st (.remarked (.refused b id core)) := rfl

theorem may_assigned (id : Nat) (core : Core) : May isOver b r st (.changed b (.assigned id core)) := rfl

theorem may_reserved (id : Nat) : May isOver b r st (.changed b (.reserved id)) := rfl

theorem may_looked : May isOver b r st (.looked b r) := ⟨rfl, rfl⟩

theorem may_left : May true b r st (.left b r) := ⟨rfl, rfl, rfl⟩

end May

/-- What a step of the loop comes to: the events, newest first, and the fulfiller afterwards. -/
inductive CoreFlow (f : Dedicated) : List Event → Dedicated → Prop
  /-- The loop goes on with the cores it had. -/
  | along {f' : Dedicated} (hsame : f.Same f') (hcores : f'.cores = f.cores)
      (hclaim : f'.claim? = f.claim?) : CoreFlow f [] f'
  /-- The provider hands out a core. -/
  | received {f' : Dedicated} {core : Core} (hsame : f.Same f') (hnone : f.cores = [])
      (hcores : f'.cores = [core]) (hfree : f.claim? = none) (hclaim : f'.claim? = none) :
      CoreFlow f [.minted core] f'
  /-- A core that does not work, or is not needed any more, is disposed of. -/
  | disposed {f' : Dedicated} {core : Core} (hsame : f.Same f') (hcore : f.cores = [core])
      (hcores : f'.cores = []) (hfree : f.claim? = none) (hclaim : f'.claim? = none) :
      CoreFlow f [.disposed core] f'
  /-- A request is reserved for the core. -/
  | offered {f' : Dedicated} {core : Core} {id : Nat} (hsame : f.Same f')
      (hcore : f.cores = [core]) (hcores : f'.cores = [core]) (hfree : f.claim? = none)
      (hclaim : f'.claim? = some (core, id)) :
      CoreFlow f [.offered f.board id core, .changed f.board (.reserved id)] f'
  /-- The core is assigned to the reserved request. -/
  | assigned {f' : Dedicated} {core : Core} {id : Nat} (hsame : f.Same f')
      (hcore : f.cores = [core]) (hcores : f'.cores = []) (hclaimed : f.claim? = some (core, id))
      (hclaim : f'.claim? = none) :
      CoreFlow f [.changed f.board (.unreserved id), .changed f.board (.assigned id core)] f'
  /-- The reserved request does not take the core, and the loop keeps it. -/
  | refused {f' : Dedicated} {core : Core} {id : Nat} (hsame : f.Same f')
      (hcore : f.cores = [core]) (hcores : f'.cores = [core])
      (hclaimed : f.claim? = some (core, id)) (hclaim : f'.claim? = none) :
      CoreFlow f [.changed f.board (.unreserved id), .refused f.board id core] f'

variable {f f' : Dedicated} {s s' : Scene} {me : Nat}

theorem CoreFlow.same {events : List Event} (hflow : f.CoreFlow events f') : f.Same f' := by
  cases hflow <;> assumption

theorem cores_eq_spare (hcore : f.point.core? = none) : f.cores = f.spare.toList := by
  simp only [cores, hcore, Option.toList_none, List.append_nil]

theorem cores_eq_core (hspare : f.spare = none) : f.cores = f.point.core?.toList := by
  simp only [cores, hspare, Option.toList_none, List.nil_append]

/-! ## Ways to go on -/

/-- What is common to all ways to go on with a spare core or without one. -/
structure GoesOn (f : Dedicated) (s : Scene) (f' : Dedicated) (s' : Scene) : Prop where
  same : f.Same f'
  cores : f'.cores = f.spare.toList
  claim : f'.claim? = none
  sound : f'.IsSound
  aside : s.Aside s'

theorem rest_goesOn (f : Dedicated) (s : Scene) : GoesOn f s (f.rest s).1 (f.rest s).2 where
  same := rfl
  cores := cores_eq_spare rfl
  claim := rfl
  sound _ := ⟨_, rfl⟩
  aside := .refl s

theorem pass_goesOn (f : Dedicated) (s : Scene) : GoesOn f s (f.pass s).1 (f.pass s).2 := by
  unfold pass
  split
  · exact f.rest_goesOn s
  · split
    · rename_i core hspare
      refine ⟨rfl, ?_, rfl, ?_, s.aside_fresh⟩
      · rw [hspare]
        rfl
      · exact fun h => absurd h (by simp [probe, goTo])
    · rename_i hspare
      refine ⟨rfl, ?_, rfl, ?_, .refl s⟩
      · exact cores_eq_spare rfl
      · exact fun h => absurd h (by simp [goTo, hspare])

/-- A step of the loop: what it comes to, and what it does to the scene. -/
structure Steps (f : Dedicated) (s : Scene) (events : List Event) (f' : Dedicated) (s' : Scene) :
    Prop where
  flow : CoreFlow f events f'
  sound : f'.IsSound
  acts : Scene.ActSequence (May f'.isOver f.board f.receiver) s events s'

theorem Steps.afterAside {events : List Event} {s₁ : Scene} (haside : s.Aside s₁)
    (hsteps : Steps f s₁ events f' s') : Steps f s events f' s' := by
  refine ⟨hsteps.flow, hsteps.sound, ?_⟩
  have hacts := (Scene.ActSequence.refl.aside haside).trans hsteps.acts
  rwa [List.append_nil] at hacts

theorem Steps.afterDrain {events : List Event}
    (hsteps : Steps f (s.drainBoard f.board f.receiver) events f' s') :
    Steps f s events f' s' := by
  refine ⟨hsteps.flow, hsteps.sound, ?_⟩
  have hacts := (Scene.acts_drainBoard (may_looked f.board f.receiver s.stage)).trans hsteps.acts
  rwa [List.append_nil] at hacts

/-- Going to a point with the same core and the same reservation, while nothing happens to the
stage. -/
theorem steps_goTo {point : DedicatedPoint} (haside : s.Aside s') (hspare : f.spare = none)
    (hcore : point.core? = f.point.core?) (hclaim : point.claim? = f.point.claim?) :
    Steps f s [] (f.goTo point) s' where
  flow := .along rfl (by simp only [cores, goTo, hcore]) hclaim
  sound h := absurd h (by simp [goTo, hspare])
  acts := .aside .refl haside

/-- Going on with the spare core, while nothing happens to the stage. -/
theorem GoesOn.steps (hgoesOn : GoesOn f s f' s') (hcore : f.point.core? = none)
    (hclaim : f.point.claim? = none) : Steps f s [] f' s' where
  flow := .along hgoesOn.same (hgoesOn.cores.trans (cores_eq_spare hcore).symm)
    (hgoesOn.claim.trans hclaim.symm)
  sound := hgoesOn.sound
  acts := .aside .refl hgoesOn.aside

theorem finish_steps (hcore : f.point.core? = none) (hclaim : f.point.claim? = none)
    (hspare : f.spare = none) (s : Scene) : Steps f s [] (f.finish s).1 (f.finish s).2 where
  flow := by
    refine .along rfl ?_ hclaim.symm
    rw [cores_eq_spare hcore]
    exact cores_eq_spare rfl
  sound h := absurd h (by simp [finish, goTo, hspare])
  acts := (Scene.ActSequence.aside .refl (s.aside_report .debug "single-source control loop stopped"
    [f.providerField])).trans (Scene.acts_unsubscribeBoard (may_left f.board f.receiver _))

theorem close_steps (hcore : f.point.core? = none) (hclaim : f.point.claim? = none)
    (s : Scene) : ∃ events, Steps f s events (f.close s).1 (f.close s).2 := by
  unfold close
  split
  · rename_i core hspare
    refine ⟨[.disposed core], .disposed rfl ?_ rfl hclaim rfl, ?_, ?_⟩
    · rw [cores_eq_spare hcore, hspare]
      rfl
    · exact fun h => absurd h (by simp [goTo])
    · exact (s.performs_disposeCore core).acts (may_disposed f.board f.receiver _ core)
  · rename_i hspare
    exact ⟨[], finish_steps hcore hclaim hspare s⟩

theorem turn_steps (hcore : f.point.core? = none) (hclaim : f.point.claim? = none)
    (s : Scene) : ∃ events, Steps f s events (f.turn s).1 (f.turn s).2 := by
  unfold turn
  split
  · exact close_steps hcore hclaim s
  · exact ⟨[], (f.pass_goesOn s).steps hcore hclaim⟩

/-! ## What comes of calls, probes and choices -/

theorem receive_steps {call : Call} {result : CallResult} {s₁ : Scene}
    (hpoint : f.point = .calling call) (hspare : f.spare = none)
    (hlook : (CallLook.ended result s₁).Tells s) :
    ∃ events, Steps f s events (f.receive result s₁).1 (f.receive result s₁).2 := by
  have hcores : f.cores = [] := by
    rw [cores_eq_core hspare, hpoint]
    rfl
  have hfree : f.claim? = none := by
    rw [claim?, hpoint]
    rfl
  cases result with
  | core core =>
    refine ⟨[.minted core], .received rfl hcores ?_ hfree rfl, ?_, ?_⟩
    · exact cores_eq_core hspare
    · exact fun h => absurd h (by simp [receive, probe, goTo, hspare])
    · exact (Scene.Performs.acts hlook (may_minted f.board f.receiver _ core)).aside s₁.aside_fresh
  | failed chain =>
    refine ⟨[], steps_goTo ?_ hspare ?_ ?_⟩
    · exact (Scene.Aside.trans hlook (Scene.aside_report _ _ _ _)).trans (Scene.aside_trace _ _ _ _)
    · rw [hpoint]
      rfl
    · rw [hpoint]
      rfl
  | panicked =>
    refine ⟨[], .along rfl ?_ hfree.symm, ?_, ?_⟩
    · rw [hcores]
      exact cores_eq_core hspare
    · exact fun h => absurd h (by simp [receive, goTo, hspare])
    · exact (Scene.ActSequence.aside .refl hlook).trans
        (Scene.acts_unsubscribeBoard (may_left f.board f.receiver _))

theorem judge_steps {core : Core} {ticket : Nat} (hpoint : f.point = .probing core ticket)
    (hspare : f.spare = none) (isAlive : Bool) (s : Scene) :
    ∃ events, Steps f s events (f.judge core isAlive s).1 (f.judge core isAlive s).2 := by
  unfold judge
  split
  · exact ⟨[], steps_goTo (.refl s) hspare (by rw [hpoint]; rfl) (by rw [hpoint]; rfl)⟩
  · have hreported := (s.aside_report .debug "Obtained core is not alive, disposing"
      [f.providerField]).trans (Scene.aside_trace _ f.sink traceSource ("dead core disposed" : String))
    refine ⟨[.disposed core], .disposed rfl ?_ ?_ ?_ rfl, ?_,
      (Scene.Performs.afterAside hreported (Scene.performs_disposeCore _ core)).acts
        (may_disposed f.board f.receiver _ core)⟩
    · rw [cores_eq_core hspare, hpoint]
      rfl
    · exact cores_eq_core hspare
    · rw [claim?, hpoint]
      rfl
    · exact fun h => absurd h (by simp [goTo, hspare])

theorem choose_steps {core : Core} {board : Board} (hpoint : f.point = .choosing core)
    (hspare : f.spare = none)
    (hboard : s.stage.boards[f.board]? = some (board.registry, board.changes)) :
    ∃ events, Steps f s events (f.choose core board s).1 (f.choose core board s).2 := by
  have hcores : f.cores = [core] := by
    rw [cores_eq_core hspare, hpoint]
    rfl
  have hfree : f.claim? = none := by
    rw [claim?, hpoint]
    rfl
  unfold choose
  split
  · have haside := (s.aside_leave f.board).trans
      (Scene.aside_report _ .trace "no request left, keeping core" [f.providerField])
    have hgoesOn := rest_goesOn { f with spare := some core }
      ((s.leave f.board).report .trace "no request left, keeping core" [f.providerField])
    refine ⟨[], .along hgoesOn.same ?_ ?_, hgoesOn.sound, .aside .refl (haside.trans hgoesOn.aside)⟩
    · rw [hgoesOn.cores, hcores]
      rfl
    · rw [hgoesOn.claim, hfree]
  · rename_i r hnext
    obtain ⟨hmem, hcandidate⟩ := Registry.next?_candidate hnext
    have hreserved := Scene.performs_reserveRequest hboard hmem hcandidate
    have hreported := (hreserved.andAside (Scene.aside_leave _ f.board)).andAside
      (Scene.aside_reportReserved _ f.board r.id)
    have hoffered := Scene.performs_note (((s.reserveRequest f.board r.id).leave
      f.board).reportReserved f.board r.id) (show (Event.offered f.board r.id core).isRemark from rfl)
    have hacts : ∀ isOver, Scene.ActSequence (May isOver f.board f.receiver) s _ _ := fun _ =>
      (hreported.acts (may_reserved f.board f.receiver _ r.id)).trans
        (hoffered.acts (may_offered f.board f.receiver _ r.id core))
    refine ⟨_, .offered rfl hcores ?_ hfree rfl, ?_, hacts _⟩
    · exact cores_eq_core hspare
    · exact fun h => absurd h (by simp [goTo, hspare])

/-- Under the guard: the reserved request takes the core or refuses it, and is not reserved any
more. -/
theorem place_steps {core : Core} {id : Nat} {g : Registry Core} {changes : Channel Statistics}
    (hsound : s.stage.IsSound) (hpoint : f.point = .placing core id) (hspare : f.spare = none)
    (hboard : s.stage.boards[f.board]? = some (g, changes)) :
    ∃ events, Steps f s events (f.place core id s).1 (f.place core id s).2 := by
  have hcores : f.cores = [core] := by
    rw [cores_eq_core hspare, hpoint]
    rfl
  have hclaimed : f.claim? = some (core, id) := by
    rw [claim?, hpoint]
    rfl
  unfold place
  cases hassign : s.assignCore f.board id core with
  | ok s₁ =>
    have hassigned := Scene.performs_assignCore hassign
    have haside := ((s₁.aside_leave f.board).trans (Scene.aside_report _ .trace
      "request fulfilled" [f.providerField, ("request_id", .naming id)])).trans
        (Scene.aside_trace _ f.sink traceSource (Phrase.ofText "fulfilled request " ++ Phrase.naming id))
    obtain ⟨g', changes', hafter, hserved⟩ := hassigned.not_waits
    rw [← haside.stage] at hafter
    have hdone : ¬ Stage.Waits _ f.board id := Stage.not_waits_of_board hafter hserved
    have hacts : ∀ isOver, Scene.ActSequence (May isOver f.board f.receiver) s _ _ := fun _ =>
      ((hassigned.andAside haside).acts (may_assigned f.board f.receiver _ id core)).trans
        ((Scene.performs_unreserveRequest hafter id).acts ⟨rfl, hdone⟩)
    have hgoesOn := f.pass_goesOn (Scene.unreserveRequest (((s₁.leave f.board).report .trace
      "request fulfilled" [f.providerField, ("request_id", .naming id)]).trace f.sink traceSource
        (Phrase.ofText "fulfilled request " ++ Phrase.naming id)) f.board id)
    refine ⟨_, .assigned hgoesOn.same hcores ?_ hclaimed hgoesOn.claim, hgoesOn.sound,
      (hacts _).aside hgoesOn.aside⟩
    rw [hgoesOn.cores, hspare]
    rfl
  | error reason =>
    have hrefused := s.performs_note (show (Event.refused f.board id core).isRemark from rfl)
    have haside := (Scene.aside_leave (s.note (.refused f.board id core)) f.board).trans
      (Scene.aside_report _ .debug "core rejected, keeping it"
        [("request_id", .naming id), ("reason", reason.message)])
    have hafter : (((s.note (.refused f.board id core)).leave f.board).report .debug
        "core rejected, keeping it" [("request_id", .naming id), ("reason", reason.message)]
          ).stage.boards[f.board]? = some (g, changes) := by
      rw [haside.stage]
      exact hboard
    have hdone : ¬ Stage.Waits _ f.board id :=
      Stage.not_waits_of_board hafter (Scene.not_waits_of_refused hsound hboard hassign)
    have hacts : ∀ isOver, Scene.ActSequence (May isOver f.board f.receiver) s _ _ := fun _ =>
      ((hrefused.andAside haside).acts (may_refused f.board f.receiver _ id core)).trans
        ((Scene.performs_unreserveRequest hafter id).acts ⟨rfl, hdone⟩)
    have hgoesOn := pass_goesOn { f with spare := some core } (Scene.unreserveRequest
      (((s.note (.refused f.board id core)).leave f.board).report .debug
        "core rejected, keeping it" [("request_id", .naming id), ("reason", reason.message)])
          f.board id)
    refine ⟨_, .refused hgoesOn.same hcores ?_ hclaimed hgoesOn.claim, hgoesOn.sound,
      (hacts _).aside hgoesOn.aside⟩
    rw [hgoesOn.cores]
    rfl

/-! ## The step -/

theorem spare_eq_none (hsound : f.IsSound) (hpoint : ∀ lookAgainAt, f.point ≠ .idle lookAgainAt) :
    f.spare = none := by
  cases hspare : f.spare with
  | none => rfl
  | some core =>
    obtain ⟨lookAgainAt, hidle⟩ := hsound (by simp [hspare])
    exact absurd hidle (hpoint lookAgainAt)

/-- Every step of the loop comes to one of those listed. -/
theorem step_steps (hstage : s.stage.IsSound) (hsound : f.IsSound) {r : Dedicated × Scene}
    (hstep : f.step me s = some r) : ∃ events, Steps f s events r.1 r.2 := by
  cases step_loopStep hstep with
  | waits haside => exact ⟨[], .along rfl rfl rfl, hsound, .aside .refl haside⟩
  | begins hpoint =>
    obtain ⟨events, hsteps⟩ := turn_steps (by rw [hpoint]; rfl) (by rw [hpoint]; rfl)
      (s.report .debug "single-source control loop started" [f.providerField])
    exact ⟨events, hsteps.afterAside (s.aside_report _ _ _)⟩
  | @calls board s₁ hpoint haside _ _ =>
    have hcalled : s₁.Aside (f.call (s₁.leave f.board)).2 :=
      ((s₁.aside_leave f.board).trans (Scene.aside_fresh _)).trans
        (Scene.aside_newCall _ f.provider.serial (f.shutdown.child (s₁.leave f.board).nextSerial))
    exact ⟨[], steps_goTo (haside.trans hcalled) (spare_eq_none hsound fun _ => by simp [hpoint])
      (by rw [hpoint]; rfl) (by rw [hpoint]; rfl)⟩
  | @rests board s₁ hpoint haside _ _ =>
    have hsteps := (f.rest_goesOn (s₁.leave f.board)).steps (by rw [hpoint]; rfl) (by rw [hpoint]; rfl)
    exact ⟨[], hsteps.afterAside (haside.trans (s₁.aside_leave f.board))⟩
  | @withdraws call hpoint _ =>
    have hsteps := (f.rest_goesOn (s.dropCall call)).steps (by rw [hpoint]; rfl) (by rw [hpoint]; rfl)
    exact ⟨[], hsteps.afterAside (s.aside_dropCall call)⟩
  | receives hpoint htells =>
    exact receive_steps hpoint (spare_eq_none hsound fun _ => by simp [hpoint]) htells
  | goesOn hpoint haside =>
    exact ⟨[], steps_goTo haside (spare_eq_none hsound fun _ => by simp [hpoint])
      (by rw [hpoint]; rfl) (by rw [hpoint]; rfl)⟩
  | @looks call hpoint =>
    have hsteps : Steps f (s.drainBoard f.board f.receiver) [] (f.goTo (.rechecking call))
        (s.drainBoard f.board f.receiver) :=
      steps_goTo (.refl _) (spare_eq_none hsound fun _ => by simp [hpoint])
        (by rw [hpoint]; rfl) (by rw [hpoint]; rfl)
    exact ⟨[], hsteps.afterDrain⟩
  | @keeps call board s₁ hpoint haside _ _ =>
    exact ⟨[], steps_goTo (haside.trans (s₁.aside_leave f.board))
      (spare_eq_none hsound fun _ => by simp [hpoint]) (by rw [hpoint]; rfl) (by rw [hpoint]; rfl)⟩
  | @abandons call board s₁ hpoint haside _ _ =>
    have hdropped := (((s₁.aside_leave f.board).trans (Scene.aside_fire _ call.token)).trans
      (Scene.aside_report _ .debug "no request left, provider call abandoned"
        [f.providerField])).trans (Scene.aside_dropCall _ call)
    have hsteps := (f.rest_goesOn ((((s₁.leave f.board).fire call.token).report .debug
      "no request left, provider call abandoned" [f.providerField]).dropCall call)).steps
        (by rw [hpoint]; rfl) (by rw [hpoint]; rfl)
    exact ⟨[], hsteps.afterAside (haside.trans hdropped)⟩
  | resumes hpoint =>
    exact ⟨[], (f.pass_goesOn s).steps (by rw [hpoint]; rfl) (by rw [hpoint]; rfl)⟩
  | @judges core ticket s₁ hpoint haside isAlive =>
    obtain ⟨events, hsteps⟩ := judge_steps hpoint (spare_eq_none hsound fun _ => by simp [hpoint])
      isAlive s₁
    exact ⟨events, hsteps.afterAside haside⟩
  | chooses hpoint haside hboard =>
    obtain ⟨events, hsteps⟩ := choose_steps hpoint (spare_eq_none hsound fun _ => by simp [hpoint])
      hboard
    exact ⟨events, hsteps.afterAside haside⟩
  | @places core request board s₁ hpoint haside hboard =>
    have hstage' : s₁.stage.IsSound := by
      rw [haside.stage]
      exact hstage
    obtain ⟨events, hsteps⟩ := place_steps hstage' hpoint
      (spare_eq_none hsound fun _ => by simp [hpoint]) hboard
    exact ⟨events, hsteps.afterAside haside⟩
  | disposed hpoint =>
    exact ⟨[], (f.pass_goesOn s).steps (by rw [hpoint]; rfl) (by rw [hpoint]; rfl)⟩
  | closes hpoint => exact close_steps (by rw [hpoint]; rfl) (by rw [hpoint]; rfl) s
  | finishes hpoint =>
    exact ⟨[], finish_steps (by rw [hpoint]; rfl) (by rw [hpoint]; rfl)
      (spare_eq_none hsound fun _ => by simp [hpoint]) s⟩
  | wakes hpoint =>
    obtain ⟨events, hsteps⟩ := turn_steps (by rw [hpoint]; rfl) (by rw [hpoint]; rfl)
      (s.drainBoard f.board f.receiver)
    exact ⟨events, hsteps.afterDrain⟩

end Dedicated

end CoreBroker
