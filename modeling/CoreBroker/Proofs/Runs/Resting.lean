import CoreBroker.Proofs.Dedicated.Resting
import CoreBroker.Proofs.Runs.Awareness
import CoreBroker.Proofs.Runs.Locks
import CoreBroker.Proofs.Scene.Quiet
import CoreBroker.Proofs.Speculative.Resting
import Mathlib.Data.List.Induction
set_option autoImplicit false

/-!
# Fulfillers at rest

A loop that goes on has its receiver, which nobody else touches.  So a loop that rests, and whose receiver
finds nothing, has missed no request that was entered: whatever is available was so when it came to rest, or
its reservation was given up since.
-/

namespace CoreBroker

/-! ## Who touches which receiver -/

theorem Act.SparesBoard.receiver {b r : Nat} {st : Stage} {act : Act}
    (hspares : act.SparesBoard b r st) : act.SparesReceiver b r := by
  cases act <;> first | exact hspares | trivial

namespace World

variable {chance : Chance} {w w₁ w₂ w' : World} {actor : Option Task} {events events' : List Event}
  {t : Task} {b r i : Nat}

/-- The client does not touch the receivers of fulfillers. -/
theorem May.sparesReceiver {st : Stage} {act : Act} (hmay : w.May st act)
    (howned : w.isOwned b r = true) : act.SparesReceiver b r := by
  cases act with
  | looked board receiver =>
    rintro ⟨rfl, rfl⟩
    exact absurd (howned.symm.trans hmay) (by simp)
  | left board receiver =>
    rintro ⟨rfl, rfl⟩
    exact absurd (howned.symm.trans hmay) (by simp)
  | _ => trivial

/-- The receiver of a dedicated fulfiller is touched by its loop alone. -/
theorem DoneBy.sparesDedicatedReceiver (h : DoneBy w actor events w') (hw : w.IsApart) {f : Dedicated}
    (hf : w.dedicated[i]? = some f) (hactor : actor ≠ some (.dedicated i)) :
    ∃ may, w.scene.ActSequence may events w'.scene ∧
      ∀ st act, may st act → act.SparesReceiver f.board f.receiver := by
  rcases h.dedicatedSpared hw hf hactor with ⟨may, hacts, hspares⟩ | ⟨-, hacts, howned⟩
  · exact ⟨may, hacts, fun st act hmay => (hspares st act hmay).receiver⟩
  · exact ⟨_, hacts, fun _ _ hmay => May.sparesReceiver hmay howned⟩

/-- The receiver of a speculative fulfiller is touched by its tasks alone. -/
theorem DoneBy.sparesSpeculativeReceiver (h : DoneBy w actor events w') (hw : w.IsApart)
    {f : Speculative} (hf : w.speculative[i]? = some f)
    (hactor : actor.any (Task.isOfTeam i) = false) : ∃ may, w.scene.ActSequence may events w'.scene ∧
      ∀ st act, may st act → act.SparesReceiver f.board f.requestReceiver := by
  rcases h.speculativeSpared hw hf hactor with ⟨may, hacts, hspares⟩ | ⟨-, hacts, howned, -⟩
  · exact ⟨may, hacts, fun st act hmay => (hspares st act hmay).1.receiver⟩
  · exact ⟨_, hacts, fun _ _ hmay => May.sparesReceiver hmay howned⟩

/-! ## Loops that go on -/

/-- The fulfillers have receivers of their own, and as long as their loops go on they have them. -/
structure IsAttended (w : World) : Prop extends w.IsApart where
  dedicated : ∀ (i : Nat) (f : Dedicated), w.dedicated[i]? = some f → f.isOver = false →
    w.scene.stage.ServesBoard f.board f.receiver
  speculative : ∀ (i : Nat) (f : Speculative), w.speculative[i]? = some f → f.isOver = false →
    w.scene.stage.ServesBoard f.board f.requestReceiver

/-- A dedicated fulfiller whose loop goes on has its receiver after whatever happens. -/
theorem Transition.servesDedicated (hw : w.IsSound) (h : Transition chance w actor events w')
    (hattended : w.IsAttended) {f : Dedicated} (hf : w'.dedicated[i]? = some f)
    (hgoesOn : f.isOver = false) : w'.scene.stage.ServesBoard f.board f.receiver := by
  cases h.dedicatedTransition hw i with
  | @acts g f' _ hg hf' hstep hsteps =>
    rw [hf] at hf'
    cases hf'
    exact hsteps.served (hattended.dedicated i g hg (Dedicated.not_isOver_of_step hstep)) hgoesOn
  | stays hactor hsame =>
    obtain ⟨g, hg, hbare⟩ := exists_of_map_eq hsame hf
    rw [Dedicated.eq_of_bare hbare] at hgoesOn ⊢
    obtain ⟨may, hacts, hspares⟩ := h.doneBy.sparesDedicatedReceiver hattended.toIsApart hg hactor
    exact hacts.servesBoard (fun _ _ hmay => (hspares _ _ hmay).not_leaves)
      (hattended.dedicated i g hg hgoesOn)
  | starts _ _ hf' _ _ hserved =>
    rw [hf] at hf'
    cases hf'
    exact hserved

/-- A speculative fulfiller whose loop goes on has its receiver of requests after whatever happens. -/
theorem Transition.servesSpeculative (hw : w.IsSound) (h : Transition chance w actor events w')
    (hattended : w.IsAttended) {f : Speculative} (hf : w'.speculative[i]? = some f)
    (hgoesOn : f.isOver = false) : w'.scene.stage.ServesBoard f.board f.requestReceiver := by
  cases h.speculativeTransition hw i with
  | @acts g f' _ hg hf' htakes haccounts =>
    rw [hf] at hf'
    cases hf'
    have hids := (hw.speculative g (List.mem_of_getElem? hg)).ids
    have hsubscription : f.subscription = g.subscription := by
      rw [haccounts.same]
      rfl
    have hserved : g.isOver = false →
      w.scene.stage.ServesBoard g.subscription.board g.subscription.requestReceiver :=
      hattended.speculative i g hg
    show w'.scene.stage.ServesBoard f.subscription.board f.subscription.requestReceiver
    rw [hsubscription]
    rcases htakes with hstep | ⟨a, -, hstep⟩
    · obtain ⟨events', hstays⟩ := Speculative.step_stays hids hstep
        (by simpa [Speculative.isOver] using hgoesOn)
      exact hstays.servesBoard (fun _ _ hstay hleaves => hstay (.inl hleaves))
        (hserved (Speculative.not_isOver_of_step hstep))
    · obtain ⟨hattempted, hstage⟩ := Speculative.stepAttempt_attempted hids hstep
      rw [hstage]
      rw [Speculative.isOver, hattempted.point_eq] at hgoesOn
      exact hserved hgoesOn
  | stays hactor hsame _ =>
    obtain ⟨g, hg, hbare⟩ := exists_of_map_eq hsame hf
    rw [Speculative.eq_of_bare hbare] at hgoesOn ⊢
    obtain ⟨may, hacts, hspares⟩ := h.doneBy.sparesSpeculativeReceiver hattended.toIsApart hg hactor
    exact hacts.servesBoard (fun _ _ hmay => (hspares _ _ hmay).not_leaves)
      (hattended.speculative i g hg hgoesOn)
  | starts _ _ hf' _ _ _ _ _ hserved =>
    rw [hf] at hf'
    cases hf'
    exact hserved.board

/-- Every transition leaves the loops that go on their receivers. -/
theorem Transition.isAttended (hw : w.IsSound) (h : Transition chance w actor events w')
    (hattended : w.IsAttended) : w'.IsAttended where
  toIsApart := h.isApart hattended.toIsApart
  dedicated _ _ hf hgoesOn := h.servesDedicated hw hattended hf hgoesOn
  speculative _ _ hf hgoesOn := h.servesSpeculative hw hattended hf hgoesOn

theorem Transitions.isAttended (hw : w.IsSound) (hattended : w.IsAttended)
    (htransitions : Transitions chance actor w events w') : w'.IsAttended := by
  induction htransitions with
  | refl => exact hattended
  | next htransitions htransition ih => exact htransition.isAttended (htransitions.isSound hw) ih

/-! ## Loops at rest -/

/-- The loop `t` waits for something to change, at most after it has disposed of what its last pass had
gathered, and `r` is its receiver of the registry `b`. -/
inductive IsResting (w : World) (b r : Nat) : Task → Prop
  | dedicated {i : Nat} {f : Dedicated} {lookAgainAt : Option Nat} (hf : w.dedicated[i]? = some f)
      (hpoint : f.point = .idle lookAgainAt) (hboard : f.board = b) (hreceiver : f.receiver = r) :
      IsResting w b r (.dedicated i)
  | speculative {i : Nat} {f : Speculative} (hf : w.speculative[i]? = some f)
      (hpoint : f.point.isAfterPass = true) (hboard : f.board = b)
      (hreceiver : f.requestReceiver = r) :
      IsResting w b r (.speculative i)

/-- Between `w` and `w'` the loop `t` rested and its receiver found nothing, and what is available
afterwards was available before, or its reservation was given up by one of the events. -/
structure Undisturbed (w : World) (events : List Event) (w' : World) (b r : Nat) (t : Task) : Prop where
  resting : w.IsResting b r t
  quiet : w.scene.stage.IsQuiet b r
  missed : ∀ q ∈ (w'.scene.stage.board b).1.candidates .all,
    q ∈ (w.scene.stage.board b).1.candidates .all ∨ .changed b (.unreserved q.id) ∈ events

theorem Undisturbed.trans (h₁ : Undisturbed w events w₁ b r t)
    (h₂ : Undisturbed w₁ events' w₂ b r t) : Undisturbed w (events' ++ events) w₂ b r t where
  resting := h₁.resting
  quiet := h₁.quiet
  missed q hq := by
    rcases h₂.missed q hq with hbetween | hlate
    · exact (h₁.missed q hbetween).imp_right (List.mem_append_right _)
    · exact .inr (List.mem_append_left _ hlate)

/-- What a dedicated fulfiller at rest did not do itself left it at rest, and it has missed nothing that
was entered. -/
theorem Transition.undisturbedDedicated (hw : w.IsSound) (hattended : w.IsAttended)
    (h : Transition chance w actor events w') (hactor : actor ≠ some (.dedicated i))
    {f : Dedicated} {lookAgainAt : Option Nat} (hf : w'.dedicated[i]? = some f)
    (hpoint : f.point = .idle lookAgainAt) (hquiet : w'.scene.stage.IsQuiet f.board f.receiver) :
    Undisturbed w events w' f.board f.receiver (.dedicated i) := by
  cases h.dedicatedTransition hw i with
  | acts hthis _ _ _ _ => exact absurd hthis hactor
  | stays _ hsame =>
    obtain ⟨g, hg, hbare⟩ := exists_of_map_eq hsame hf
    rw [Dedicated.eq_of_bare hbare] at hpoint hquiet ⊢
    have hgoesOn : g.isOver = false := by simp [Dedicated.isOver, show g.point = _ from hpoint]
    obtain ⟨may, hacts, hspares⟩ := h.doneBy.sparesDedicatedReceiver hattended.toIsApart hg hactor
    obtain ⟨hbefore, hmissed⟩ := hacts.quiet hw.scene.stage hspares
      (hattended.dedicated i g hg hgoesOn) hquiet
    exact ⟨.dedicated hg hpoint rfl rfl, hbefore, hmissed⟩
  | starts _ _ hf' _ hstart _ =>
    rw [hf] at hf'
    cases hf'
    exact absurd (hstart.symm.trans hpoint) (by simp)

/-- An attempt does not disturb the loop of its fulfiller. -/
theorem attempt_undisturbed (hw : w.IsSound) {a : Attempt} {s : Scene} {f g : Speculative}
    (hg : w.speculative[i]? = some g) (hstep : g.stepAttempt i a w.scene = some (f, s))
    (hpoint : f.point.isAfterPass = true) (hquiet : s.stage.IsQuiet f.board f.requestReceiver) :
    Undisturbed w events { w with scene := s, speculative := w.speculative.set i f } f.board
      f.requestReceiver (.speculative i) := by
  obtain ⟨hattempted, hstage⟩ := Speculative.stepAttempt_attempted
    (hw.speculative g (List.mem_of_getElem? hg)).ids hstep
  have hsubscription : f.board = g.board ∧ f.requestReceiver = g.requestReceiver := by
    cases hattempted <;> exact ⟨rfl, rfl⟩
  rw [hattempted.point_eq] at hpoint
  refine ⟨.speculative hg hpoint hsubscription.1.symm hsubscription.2.symm, hstage ▸ hquiet,
    fun q hq => .inl ?_⟩
  rw [← hstage]
  exact hq

/-- What the loop of a speculative fulfiller at rest did not do itself left it at rest, and it has missed
nothing that was entered. -/
theorem Transition.undisturbedSpeculative (hw : w.IsSound) (hattended : w.IsAttended)
    (h : Transition chance w actor events w') (hactor : actor ≠ some (.speculative i))
    {f : Speculative} (hf : w'.speculative[i]? = some f) (hpoint : f.point.isAfterPass = true)
    (hquiet : w'.scene.stage.IsQuiet f.board f.requestReceiver) :
    Undisturbed w events w' f.board f.requestReceiver (.speculative i) := by
  cases h.speculativeTransition hw i with
  | acts hteam _ _ _ _ =>
    -- The loop took no step itself, so it was one of its attempts.
    cases h with
    | @attempt k g f' a s _ hg _ hstep _ =>
      obtain rfl : k = i := by simpa [Task.isOfTeam] using hteam
      rw [List.getElem?_set_self (List.getElem?_eq_some_iff.mp hg).1, Option.some.injEq] at hf
      subst hf
      exact attempt_undisturbed hw hg hstep hpoint hquiet
    | @speculative k _ _ _ _ _ _ _ =>
      obtain rfl : k = i := by simpa [Task.isOfTeam] using hteam
      exact absurd rfl hactor
    | dedicated _ _ _ => exact absurd hteam (by simp [Task.isOfTeam])
    | client hclient _ =>
      obtain ⟨t, ht, hteam⟩ := (Option.any_eq_true _ _).mp hteam
      obtain ⟨n, rfl⟩ := hclient t ht
      exact absurd hteam Bool.false_ne_true
    | employed _ _ _ _ _ _ => exact absurd hteam (by simp)
    | engaged _ _ _ _ _ _ _ => exact absurd hteam (by simp)
  | stays hother hsame _ =>
    obtain ⟨g, hg, hbare⟩ := exists_of_map_eq hsame hf
    rw [Speculative.eq_of_bare hbare] at hpoint hquiet ⊢
    have hgoesOn : g.isOver = false := Speculative.not_isOver_of_isAfterPass hpoint
    obtain ⟨may, hacts, hspares⟩ :=
      h.doneBy.sparesSpeculativeReceiver hattended.toIsApart hg hother
    obtain ⟨hbefore, hmissed⟩ := hacts.quiet hw.scene.stage hspares
      (hattended.speculative i g hg hgoesOn) hquiet
    exact ⟨.speculative hg hpoint rfl rfl, hbefore, hmissed⟩
  | starts _ _ hf' _ _ _ _ hstart _ =>
    rw [hf] at hf'
    cases hf'
    rw [hstart] at hpoint
    exact absurd hpoint Bool.false_ne_true

/-- What a loop at rest did not do itself left it at rest, and it has missed nothing that was entered. -/
theorem Transition.undisturbed (hw : w.IsSound) (hattended : w.IsAttended)
    (h : Transition chance w actor events w') (hactor : actor ≠ some t) (hresting : w'.IsResting b r t)
    (hquiet : w'.scene.stage.IsQuiet b r) : Undisturbed w events w' b r t := by
  cases hresting with
  | dedicated hf hpoint hboard hreceiver =>
    subst hboard hreceiver
    exact h.undisturbedDedicated hw hattended hactor hf hpoint hquiet
  | speculative hf hpoint hboard hreceiver =>
    subst hboard hreceiver
    exact h.undisturbedSpeculative hw hattended hactor hf hpoint hquiet

theorem Transitions.undisturbed (hw : w.IsSound) (hattended : w.IsAttended)
    (htransitions : Transitions chance actor w events w') (hactor : actor ≠ some t)
    (hresting : w'.IsResting b r t) (hquiet : w'.scene.stage.IsQuiet b r) :
    Undisturbed w events w' b r t := by
  induction htransitions with
  | refl => exact ⟨hresting, hquiet, fun _ hq => .inl hq⟩
  | next htransitions htransition ih =>
    have hlast := htransition.undisturbed (htransitions.isSound hw)
      (htransitions.isAttended hw hattended) hactor hresting hquiet
    exact (ih hlast.resting hlast.quiet).trans hlast

/-! ## Coming to rest -/

/-- The loop `t` came to rest by a step from `w` to `w'`, in which it looked at the requests of the
registry `b`: if it is dedicated, it left none that it may serve, unless it is being shut down, and if it is
speculative, it has just listed whatever is available. -/
inductive ComesToRest (w : World) (b : Nat) (w' : World) : Task → Prop
  | dedicated {i : Nat} {f : Dedicated} (hf : w'.dedicated[i]? = some f) (hboard : f.board = b)
      (hnone : f.HasNoDemand w'.scene) : ComesToRest w b w' (.dedicated i)
  | speculative {i : Nat} {f : Speculative} {ready : List Ready} {discarded : List Core}
      (hf : w.speculative[i]? = some f) (hboard : f.board = b)
      (hpoint : f.point = .matching ready discarded)
      (hlisted : ∀ q ∈ (w'.scene.stage.board b).1.candidates .all,
        q ∈ (w.scene.stage.board b).1.candidates .all) : ComesToRest w b w' (.speculative i)

/-- A loop that rests after its own step has just looked, or it has disposed of something, which disturbs
nobody. -/
theorem rests_of_step (hw : w.IsSound) (hstep : w.step chance t = some w')
    (hresting : w'.IsResting b r t) (hquiet : w'.scene.stage.IsQuiet b r) :
    ComesToRest w b w' t ∨ Undisturbed w events w' b r t := by
  cases hresting with
  | @dedicated i f' lookAgainAt hf' hpoint hboard _ =>
    cases hf : w.dedicated[i]? with
    | none => simp [step, hf] at hstep
    | some f =>
      simp only [step, hf, Option.map_eq_some_iff] at hstep
      obtain ⟨⟨g, s⟩, hloop, rfl⟩ := hstep
      have hthis : (w.dedicated.set i g)[i]? = some g :=
        List.getElem?_set_self (List.getElem?_eq_some_iff.mp hf).1
      obtain rfl : g = f' := Option.some.inj (hthis.symm.trans hf')
      exact .inl (.dedicated hf' hboard (Dedicated.step_hasNoDemand hloop hpoint))
  | @speculative i f' hf' hpoint hboard hreceiver =>
    cases hf : w.speculative[i]? with
    | none => simp [step, hf] at hstep
    | some f =>
      simp only [step, hf, Option.map_eq_some_iff] at hstep
      obtain ⟨⟨g, s⟩, hloop, rfl⟩ := hstep
      have hthis : (w.speculative.set i g)[i]? = some g :=
        List.getElem?_set_self (List.getElem?_eq_some_iff.mp hf).1
      obtain rfl : g = f' := Option.some.inj (hthis.symm.trans hf')
      have hsound := hw.speculative f (List.mem_of_getElem? hf)
      obtain ⟨events, haccounts⟩ := Speculative.step_accounts chance hw.scene.stage hsound hloop
      have hsame : f.Same g := haccounts.same
      have hkept : g.board = f.board ∧ g.requestReceiver = f.requestReceiver := by
        rw [hsame]
        exact ⟨rfl, rfl⟩
      have hthere := hkept.1.symm.trans hboard
      rcases Speculative.matching_or_resting hsound.ids hloop hpoint with
        ⟨ready, discarded, hmatching⟩ | ⟨hrested, hstage⟩
      case inr =>
        refine .inr ⟨.speculative hf hrested hthere (hkept.2.symm.trans hreceiver), hstage ▸ hquiet,
          fun q hq => .inl ?_⟩
        rw [← hstage]
        exact hq
      refine .inl (.speculative hf hthere hmatching fun q hq => ?_)
      -- The pass has entered nothing, nor given up a reservation.
      rcases haccounts.acts.candidate_before hw.scene hq with hold | hentered | hgivenUp
      · exact hold
      · obtain ⟨_, _, heq⟩ := Speculative.assigned_of_acts haccounts.acts hentered
        exact absurd heq (by simp)
      · obtain ⟨_, _, heq⟩ := Speculative.assigned_of_acts haccounts.acts hgivenUp
        exact absurd heq (by simp)

/-- After a move a loop rests because it has just looked, or it rested before and was not disturbed. -/
theorem perform_rests (hw : w.IsSound) (hattended : w.IsAttended) {m : Move}
    (hresting : (w.perform chance m).IsResting b r t)
    (hquiet : (w.perform chance m).scene.stage.IsQuiet b r) :
    (m = .step t ∧ ComesToRest w b (w.perform chance m) t) ∨
      Undisturbed w (w.news (w.perform chance m)) (w.perform chance m) b r t := by
  by_cases hactor : m.actor = some t
  · obtain rfl : m = .step t := by
      cases m with
      | step t' => exact congrArg _ (Option.some.inj hactor)
      | abandon n =>
        cases Option.some.inj hactor
        cases hresting
      | _ => exact absurd hactor (by simp [Move.actor])
    have hperform : w.perform chance (.step t) = (w.step chance t).getD w := rfl
    cases hstep : w.step chance t with
    | none =>
      rw [hperform, hstep, Option.getD_none] at hresting hquiet ⊢
      exact .inr ⟨hresting, hquiet, fun _ hq => .inl hq⟩
    | some w' =>
      rw [hperform, hstep, Option.getD_some] at hresting hquiet ⊢
      exact (rests_of_step hw hstep hresting hquiet).imp_left fun hrests => ⟨rfl, hrests⟩
  · obtain ⟨events, htransitions⟩ : ∃ events, Transitions chance m.actor w events (w.perform chance m) :=
      perform_transitions hw m
    rw [news_of_story htransitions.story_eq]
    exact .inr (htransitions.undisturbed hw hattended hactor hresting hquiet)

end World

theorem run_isAttended (chance : Chance) (moves : List Move) :
    (run chance moves).world.IsAttended := by
  refine run_keeps chance (P := fun c => c.world.IsAttended) ?_ ?_ moves
  · exact ⟨run_isApart chance [], fun i f hf => absurd hf (by simp), fun i f hf => absurd hf (by simp)⟩
  · exact fun c actor events w' hsound htransition hattended => htransition.isAttended hsound hattended

section Run

variable (chance : Chance) {t : Task} {b r : Nat}

/-- What was not disturbed up to some time, nor by the move after it, was not disturbed. -/
theorem undisturbed_append {before : List Move} (later : List Move) {m : Move}
    (hearlier : World.Undisturbed (run chance before).world
      ((run chance before).world.news (run chance (before ++ later)).world)
      (run chance (before ++ later)).world b r t)
    (hlast : World.Undisturbed (run chance (before ++ later)).world
      ((run chance (before ++ later)).world.news (run chance (before ++ later ++ [m])).world)
      (run chance (before ++ later ++ [m])).world b r t) :
    World.Undisturbed (run chance before).world
      ((run chance before).world.news (run chance (before ++ later ++ [m])).world)
      (run chance (before ++ later ++ [m])).world b r t := by
  obtain ⟨events, hstory⟩ := exists_story_eq chance before later
  obtain ⟨events', hstory'⟩ := exists_story_eq chance (before ++ later) [m]
  rw [World.news_of_story hstory] at hearlier
  rw [World.news_of_story hstory'] at hlast
  rw [hstory, ← List.append_assoc] at hstory'
  rw [World.news_of_story hstory']
  exact hearlier.trans hlast

/-- In every run a loop that rests, and whose receiver finds nothing, has come to rest by looking at the
requests, and it was not disturbed since. -/
theorem run_rests (moves : List Move) (hresting : (run chance moves).world.IsResting b r t)
    (hquiet : (run chance moves).world.scene.stage.IsQuiet b r) :
    ∃ before after, moves = before ++ .step t :: after ∧
      (run chance before).world.ComesToRest b (run chance (before ++ [.step t])).world t ∧
      ∀ sooner later, after = sooner ++ later →
        World.Undisturbed (run chance (before ++ .step t :: sooner)).world
          ((run chance (before ++ .step t :: sooner)).world.news (run chance moves).world)
          (run chance moves).world b r t := by
  induction moves using List.reverseRecOn with
  | nil =>
    cases hresting with
    | dedicated hf _ _ _ => exact absurd hf (by simp [run])
    | speculative hf _ _ _ => exact absurd hf (by simp [run])
  | append_singleton moves m ih =>
    have hrun := run_concat chance moves m
    have hrest := hrun ▸ World.perform_rests (run_isSound chance moves) (run_isAttended chance moves)
      (hrun ▸ hresting) (hrun ▸ hquiet)
    have hnow : World.Undisturbed (run chance (moves ++ [m])).world
        ((run chance (moves ++ [m])).world.news (run chance (moves ++ [m])).world)
        (run chance (moves ++ [m])).world b r t := ⟨hresting, hquiet, fun _ hq => .inl hq⟩
    rcases hrest with ⟨rfl, hrests⟩ | hlast
    · refine ⟨moves, [], rfl, hrests, fun sooner later hsplit => ?_⟩
      obtain ⟨rfl, -⟩ := List.append_eq_nil_iff.mp hsplit.symm
      exact hnow
    · obtain ⟨before, after, rfl, hrests, hafter⟩ := ih hlast.resting hlast.quiet
      refine ⟨before, after ++ [m], by simp, hrests, fun sooner later hsplit => ?_⟩
      rcases List.eq_nil_or_concat later with rfl | ⟨later, last, rfl⟩
      · rw [List.append_nil] at hsplit
        subst hsplit
        simpa using hnow
      · rw [List.concat_eq_append, ← List.append_assoc] at hsplit
        obtain ⟨rfl, hm⟩ := List.append_inj' hsplit rfl
        obtain rfl := List.singleton_injective hm
        have hearlier := hafter sooner later rfl
        have hsplit : before ++ .step t :: (sooner ++ later) = (before ++ .step t :: sooner) ++ later := by
          simp
        rw [hsplit] at hearlier hlast ⊢
        exact undisturbed_append chance later hearlier hlast

end Run

end CoreBroker
