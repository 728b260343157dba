import CoreBroker.Proofs.Runs.ClientMoves
import CoreBroker.Proofs.Speculative.LoopSteps
set_option autoImplicit false

/-!
# Transitions

A move is a chain of transitions: a task of a fulfiller takes a step, a fulfiller is set up, or there is a
client step.  Whatever each of these keeps holds of every world that a run comes to.
-/

namespace CoreBroker

/-- What the tasks of fulfillers do: they neither enter, take from or dispose of requests, nor lose
cores on the way. -/
def Event.isOfLoop : Event → Bool
  | .minted _ | .disposed _ | .offered _ _ _ | .refused _ _ _ => true
  | .changed _ (.assigned _ _) | .changed _ (.reserved _) | .changed _ (.unreserved _) => true
  | _ => false

/-- Nothing of the sort happened. -/
theorem countP_eq_zero_of_isOfLoop {events : List Event} {p : Event → Bool}
    (hevents : ∀ e ∈ events, e.isOfLoop = true) (hp : ∀ e, p e = true → e.isOfLoop = false) :
    events.countP p = 0 := by
  refine List.countP_eq_zero.mpr fun e he hpe => ?_
  have hnot := hp e hpe
  rw [hevents e he] at hnot
  exact absurd hnot (by simp)

theorem countP_enters_of_isOfLoop {events : List Event} (hevents : ∀ e ∈ events, e.isOfLoop = true)
    (id : Nat) : events.countP (·.enters id) = 0 :=
  countP_eq_zero_of_isOfLoop hevents fun e he => by
    unfold Event.enters at he
    split at he
    · rfl
    · exact absurd he Bool.false_ne_true

theorem Dedicated.isOfLoop_of_acts {isOver : Bool} {b r : Nat} {s s' : Scene} {events : List Event}
    (hacts : Scene.ActSequence (Dedicated.May isOver b r) s events s') : ∀ e ∈ events, e.isOfLoop = true := by
  intro e he
  obtain ⟨st, act, hmay, hact⟩ := hacts.of_mem_events he
  cases act with
  | remarked e' =>
    rw [Act.events, List.mem_singleton] at hact
    subst hact
    cases e <;> first | rfl | exact absurd hmay (by simp [Dedicated.May])
  | minted core =>
    rw [Act.events, List.mem_singleton] at hact
    exact hact ▸ rfl
  | changed board change =>
    rw [Act.events, List.mem_singleton] at hact
    subst hact
    cases change <;> first | rfl | exact absurd hmay (by simp [Dedicated.May])
  | _ => exact absurd hact List.not_mem_nil

theorem Speculative.isOfLoop_of_acts {subscription : Subscription} {s s' : Scene} {events : List Event}
    (hacts : Scene.ActSequence (Speculative.May subscription) s events s') :
    ∀ e ∈ events, e.isOfLoop = true := by
  intro e he
  obtain ⟨st, act, hmay, hact⟩ := hacts.of_mem_events he
  cases act with
  | remarked e' =>
    rw [Act.events, List.mem_singleton] at hact
    subst hact
    cases e <;> first | rfl | exact absurd hmay (by simp [Speculative.May])
  | minted core =>
    rw [Act.events, List.mem_singleton] at hact
    exact hact ▸ rfl
  | changed board change =>
    rw [Act.events, List.mem_singleton] at hact
    subst hact
    cases change <;> first | rfl | exact absurd hmay (by simp [Speculative.May])
  | _ => exact absurd hact List.not_mem_nil

namespace World

/-- One thing that happens, and whose doing it is. -/
inductive Transition (chance : Chance) (w : World) : Option Task → List Event → World → Prop
  /-- The loop of a dedicated fulfiller takes a step. -/
  | dedicated {i : Nat} {f f' : Dedicated} {s : Scene} {events : List Event}
      (hf : w.dedicated[i]? = some f) (hstep : f.step i w.scene = some (f', s))
      (hsteps : f.Steps w.scene events f' s) :
      Transition chance w (some (.dedicated i)) events
        { w with scene := s, dedicated := w.dedicated.set i f' }
  /-- The loop of a speculative fulfiller takes a step. -/
  | speculative {i : Nat} {f f' : Speculative} {s : Scene} {events : List Event}
      (hf : w.speculative[i]? = some f) (hstep : f.step chance i w.scene = some (f', s))
      (haccounts : f.Accounts w.scene events f' s) :
      Transition chance w (some (.speculative i)) events
        { w with scene := s, speculative := w.speculative.set i f' }
  /-- An attempt of a speculative fulfiller takes a step. -/
  | attempt {i : Nat} {f f' : Speculative} {a : Attempt} {s : Scene} {events : List Event}
      (hf : w.speculative[i]? = some f) (ha : a ∈ f.attempts)
      (hstep : f.stepAttempt i a w.scene = some (f', s))
      (haccounts : f.Accounts w.scene events f' s) :
      Transition chance w (some (.attempt i a.serial)) events
        { w with scene := s, speculative := w.speculative.set i f' }
  /-- The client does something, or one of its errands. -/
  | client {actor : Option Task} {events : List Event} {w' : World}
      (hactor : ∀ t, actor = some t → ∃ n, t = .errand n)
      (hclient : ClientStep w actor none events w' none) : Transition chance w actor events w'
  /-- A dedicated fulfiller is set up. -/
  | employed {f : Dedicated} {s : Scene} {g : Registry Core} {changes : Channel Statistics}
      (hspare : f.spare = none) (hpoint : f.point = .starting)
      (hboard : w.scene.stage.boards[f.board]? = some (g, changes))
      (hreceiver : f.receiver = changes.issued)
      (hstage : s.stage = w.scene.stage.setBoard f.board (g, changes.subscribe.2))
      (hacts : w.scene.ActSequence w.May [] s) :
      Transition chance w none [] { w with scene := s, dedicated := w.dedicated ++ [f] }
  /-- A speculative fulfiller is set up. -/
  | engaged {f : Speculative} {s : Scene} {g : Registry Core} {changes : Channel Statistics}
      {members : List ProviderRef} {rosterChanges : Channel RosterChange}
      (hnew : f = { board := f.board, roster := f.roster, settings := f.settings,
                    shutdown := f.shutdown, requestReceiver := f.requestReceiver,
                    rosterReceiver := f.rosterReceiver })
      (hboard : w.scene.stage.boards[f.board]? = some (g, changes))
      (hreceiver : f.requestReceiver = changes.issued)
      (hroster : w.scene.stage.rosters[f.roster]? = some (members, rosterChanges))
      (hrosterReceiver : f.rosterReceiver = rosterChanges.issued)
      (hstage : s.stage = (w.scene.stage.setBoard f.board (g, changes.subscribe.2)).setRoster
        f.roster (members, rosterChanges.subscribe.2))
      (hacts : w.scene.ActSequence w.May [] s) :
      Transition chance w none [] { w with scene := s, speculative := w.speculative ++ [f] }

/-- A chain of transitions. -/
inductive Transitions (chance : Chance) (actor : Option Task) (w : World) : List Event → World → Prop
  | refl : Transitions chance actor w [] w
  | next {events events' : List Event} {w₁ w₂ : World} (htransitions : Transitions chance actor w events w₁)
      (htransition : Transition chance w₁ actor events' w₂) :
      Transitions chance actor w (events' ++ events) w₂

variable {chance : Chance} {actor : Option Task} {w w₁ w₂ : World} {events events' : List Event}

theorem Transitions.trans (h₁ : Transitions chance actor w events w₁)
    (h₂ : Transitions chance actor w₁ events' w₂) : Transitions chance actor w (events' ++ events) w₂ := by
  induction h₂ with
  | refl => exact h₁
  | next _ htransition ih =>
    rw [List.append_assoc]
    exact ih.next htransition

theorem Transition.transitions (h : Transition chance w actor events w₁) :
    Transitions chance actor w events w₁ := by
  have htransitions := Transitions.next .refl h
  rwa [List.append_nil] at htransitions

/-! ## What every transition keeps -/

theorem Transition.acts (h : Transition chance w actor events w₁) :
    ∃ may, w.scene.ActSequence may events w₁.scene := by
  cases h with
  | dedicated _ _ hsteps => exact ⟨_, hsteps.acts⟩
  | speculative _ _ haccounts => exact ⟨_, haccounts.acts⟩
  | attempt _ _ _ haccounts => exact ⟨_, haccounts.acts⟩
  | client _ hclient => exact ⟨_, hclient.acts⟩
  | employed _ _ _ _ _ hacts => exact ⟨_, hacts⟩
  | engaged _ _ _ _ _ _ hacts => exact ⟨_, hacts⟩

theorem Transition.story_eq (h : Transition chance w actor events w₁) :
    w₁.scene.story = events ++ w.scene.story := by
  obtain ⟨may, hacts⟩ := h.acts
  exact hacts.story_eq

/-- A world in which nothing of the client has changed is as sound as its fulfillers. -/
theorem IsSound.of_loops (hw : w.IsSound) {may : Stage → Act → Prop}
    (hacts : w.scene.ActSequence may events w₁.scene) (herrands : w₁.errands = w.errands)
    (hlocks : w₁.locks = w.locks) (hevents : ∀ e ∈ events, e.isOfLoop = true)
    (hdedicated : ∀ f ∈ w₁.dedicated, f.IsSound)
    (hspeculative : ∀ f ∈ w₁.speculative, f.IsSound w₁.scene.nextSerial) : w₁.IsSound := by
  have hentered := countP_enters_of_isOfLoop hevents
  have hdrafted : ∀ id, w₁.drafted none id = w.drafted none id := fun id => by
    simp only [drafted, herrands]
  refine ⟨hacts.isSound hw.scene, hdedicated, hspeculative,
    ClientStep.orderly_of_eq herrands hlocks hacts.serial_le hacts.length_boards_le hw.orderly,
    fun id => ?_, fun id hid => ?_⟩
  · rw [hacts.story_eq, List.countP_append, hentered, hdrafted, Nat.zero_add]
    exact hw.numbers id
  · rw [hacts.story_eq, List.countP_append, hentered, hdrafted, Nat.zero_add]
    exact hw.numbersBelow id (Nat.le_trans hacts.serial_le hid)

theorem Transition.isSound (h : Transition chance w actor events w₁) (hw : w.IsSound) :
    w₁.IsSound := by
  cases h with
  | dedicated _ _ hsteps =>
    refine hw.of_loops hsteps.acts rfl rfl (Dedicated.isOfLoop_of_acts hsteps.acts) ?_ ?_
    · intro f hf
      rcases List.mem_or_eq_of_mem_set hf with hf | rfl
      · exact hw.dedicated f hf
      · exact hsteps.sound
    · exact fun f hf => (hw.speculative f hf).mono hsteps.acts.serial_le
  | speculative _ _ haccounts =>
    refine hw.of_loops haccounts.acts rfl rfl (Speculative.isOfLoop_of_acts haccounts.acts)
      hw.dedicated ?_
    intro f hf
    rcases List.mem_or_eq_of_mem_set hf with hf | rfl
    · exact (hw.speculative f hf).mono haccounts.acts.serial_le
    · exact haccounts.sound
  | attempt _ _ _ haccounts =>
    refine hw.of_loops haccounts.acts rfl rfl (Speculative.isOfLoop_of_acts haccounts.acts)
      hw.dedicated ?_
    intro f hf
    rcases List.mem_or_eq_of_mem_set hf with hf | rfl
    · exact (hw.speculative f hf).mono haccounts.acts.serial_le
    · exact haccounts.sound
  | client _ hclient => exact hclient.isSound hw
  | @employed f s _ _ hspare hpoint _ _ _ hacts =>
    refine hw.of_loops hacts rfl rfl (fun e he => absurd he List.not_mem_nil) ?_ ?_
    · intro f' hf'
      rcases List.mem_append.mp hf' with hf' | hf'
      · exact hw.dedicated f' hf'
      · rw [List.mem_singleton.mp hf']
        exact fun h => absurd h (by simp [hspare])
    · exact fun f' hf' => (hw.speculative f' hf').mono hacts.serial_le
  | @engaged f s _ _ _ _ hnew _ _ _ _ _ hacts =>
    refine hw.of_loops hacts rfl rfl (fun e he => absurd he List.not_mem_nil) hw.dedicated ?_
    intro f' hf'
    rcases List.mem_append.mp hf' with hf' | hf'
    · exact (hw.speculative f' hf').mono hacts.serial_le
    · rw [List.mem_singleton.mp hf', hnew]
      exact ⟨List.nodup_nil, List.nodup_nil, fun a ha => absurd ha List.not_mem_nil,
        fun _ o ho => absurd ho List.not_mem_nil, fun _ => rfl⟩

theorem Transitions.isSound (h : Transitions chance actor w events w₁) (hw : w.IsSound) : w₁.IsSound := by
  induction h with
  | refl => exact hw
  | next _ htransition ih => exact htransition.isSound ih

theorem Transitions.story_eq (h : Transitions chance actor w events w₁) :
    w₁.scene.story = events ++ w.scene.story := by
  induction h with
  | refl => rfl
  | next _ htransition ih => rw [htransition.story_eq, ih, List.append_assoc]

end World

end CoreBroker
