import CoreBroker.Proofs.Runs.MoveTransitions
set_option autoImplicit false

/-!
# What runs keep

What every transition keeps holds of the chronicle of every run, and of whatever comes after it.
-/

namespace CoreBroker

/-- A chronicle gains what a transition adds. -/
def Chronicle.after (c : Chronicle) (actor : Option Task) (events : List Event) (w : World) :
    Chronicle where
  world := w
  deeds := events.map (⟨actor, ·⟩) ++ c.deeds

/-- What the tasks that `p` tells have done, newest first. -/
def Chronicle.doneBy (c : Chronicle) (p : Task → Bool) : List Event :=
  (c.deeds.filter fun d => d.actor.any p).map (·.event)

/-- The fulfillers, the client and the scene begin with nothing. -/
theorem World.isSound_empty : ({} : World).IsSound where
  scene := by
    refine ⟨⟨?_, ?_, ?_, ?_, ?_, ?_⟩, ?_, ?_, ?_, ?_⟩
    · exact fun e he => absurd he List.not_mem_nil
    · exact fun e he => absurd he List.not_mem_nil
    · exact fun e he => absurd he List.not_mem_nil
    · exact fun e he => absurd he List.not_mem_nil
    · exact fun e he => absurd he List.not_mem_nil
    · exact fun i p hp => absurd hp (by simp [Scene.stage])
    · exact fun b g changes hb => absurd hb (by simp [Scene.stage])
    · exact fun _ _ => rfl
    · exact fun core hcore => absurd hcore List.not_mem_nil
    · exact fun core => Nat.zero_le 1
  dedicated f hf := absurd hf List.not_mem_nil
  speculative f hf := absurd hf List.not_mem_nil
  orderly := ⟨List.nodup_nil, fun e he => absurd he List.not_mem_nil, List.nodup_nil,
    fun lock hlock => absurd hlock List.not_mem_nil,
    fun lock hlock => absurd hlock List.not_mem_nil, fun e he => absurd he List.not_mem_nil⟩
  numbers _ := Nat.zero_le 1
  numbersBelow _ _ := rfl

namespace Chronicle

variable {chance : Chance} {c : Chronicle} {P : Chronicle → Prop}

/-- The deeds of a chain of transitions are its events. -/
theorem next_eq_after (chance : Chance) (hc : c.world.IsSound) (m : Move) : ∃ events w',
    World.Transitions chance m.actor c.world events w' ∧ c.next chance m = c.after m.actor events w' := by
  obtain ⟨events, htransitions⟩ :
      ∃ events, World.Transitions chance m.actor c.world events (c.world.perform chance m) :=
    World.perform_transitions hc m
  refine ⟨events, _, htransitions, ?_⟩
  rw [next, after, World.news_of_story htransitions.story_eq]

theorem after_append (c : Chronicle) (actor : Option Task) (events events' : List Event)
    (w w' : World) : (c.after actor events w).after actor events' w' =
      c.after actor (events' ++ events) w' := by
  simp only [after, List.map_append, List.append_assoc]

/-- What every transition keeps, a chain of transitions keeps. -/
theorem keeps_of_transitions (hkeeps : ∀ (c : Chronicle) (actor : Option Task) (events : List Event)
      (w' : World), c.world.IsSound → World.Transition chance c.world actor events w' → P c →
        P (c.after actor events w'))
    (hc : c.world.IsSound) (hP : P c) {actor : Option Task} {events : List Event} {w' : World}
    (htransitions : World.Transitions chance actor c.world events w') : P (c.after actor events w') := by
  induction htransitions with
  | refl => exact hP
  | next htransitions htransition ih =>
    rw [← after_append]
    exact hkeeps _ _ _ _ (htransitions.isSound hc) htransition ih

/-- What every transition keeps, all moves keep. -/
theorem foldl_keeps (hkeeps : ∀ (c : Chronicle) (actor : Option Task) (events : List Event)
      (w' : World), c.world.IsSound → World.Transition chance c.world actor events w' → P c →
        P (c.after actor events w'))
    (moves : List Move) (hc : c.world.IsSound) (hP : P c) :
    (moves.foldl (next chance) c).world.IsSound ∧ P (moves.foldl (next chance) c) := by
  induction moves generalizing c with
  | nil => exact ⟨hc, hP⟩
  | cons m moves ih =>
    obtain ⟨events, w', htransitions, hnext⟩ := next_eq_after chance hc m
    rw [List.foldl_cons, hnext]
    exact ih (htransitions.isSound hc) (keeps_of_transitions hkeeps hc hP htransitions)

/-- What every move keeps, all moves keep. -/
theorem foldl_keeps_world {Q : World → Prop}
    (hkeeps : ∀ (w : World) (m : Move), w.IsSound → Q w → Q (w.perform chance m))
    (moves : List Move) (hc : c.world.IsSound) (hQ : Q c.world) :
    Q (moves.foldl (next chance) c).world := by
  induction moves generalizing c with
  | nil => exact hQ
  | cons m moves ih =>
    obtain ⟨events, w', htransitions, hnext⟩ := next_eq_after chance hc m
    have hsound : (c.next chance m).world.IsSound := by
      rw [hnext]
      exact htransitions.isSound hc
    exact ih hsound (hkeeps c.world m hc hQ)

end Chronicle

section Run

variable {chance : Chance} {P : Chronicle → Prop}

theorem run_isSound (chance : Chance) (moves : List Move) : (run chance moves).world.IsSound :=
  (Chronicle.foldl_keeps (P := fun _ => True) (fun _ _ _ _ _ _ _ => trivial) moves
    World.isSound_empty trivial).1

/-- What holds at the beginning and is kept by every transition holds of every run. -/
theorem run_keeps (chance : Chance) (hstart : P {}) (hkeeps : ∀ (c : Chronicle) (actor : Option Task)
      (events : List Event) (w' : World), c.world.IsSound →
        World.Transition chance c.world actor events w' → P c → P (c.after actor events w'))
    (moves : List Move) : P (run chance moves) :=
  (Chronicle.foldl_keeps hkeeps moves World.isSound_empty hstart).2

/-- What holds of a run and is kept by every transition holds however the run goes on. -/
theorem run_goes_on {moves : List Move} (hbefore : P (run chance moves))
    (hkeeps : ∀ (c : Chronicle) (actor : Option Task) (events : List Event) (w' : World),
      c.world.IsSound → World.Transition chance c.world actor events w' → P c →
        P (c.after actor events w'))
    (later : List Move) : P (run chance (moves ++ later)) := by
  rw [run_append]
  exact (Chronicle.foldl_keeps hkeeps later (run_isSound chance moves) hbefore).2

/-- The story of a run goes on with that of its beginning. -/
theorem exists_story_eq (chance : Chance) (moves later : List Move) :
    ∃ events, (run chance (moves ++ later)).world.scene.story =
      events ++ (run chance moves).world.scene.story := by
  refine run_goes_on (P := fun c => ∃ events, c.world.scene.story =
    events ++ (run chance moves).world.scene.story) ⟨[], rfl⟩ ?_ later
  rintro c actor events w' _ htransition ⟨before, hbefore⟩
  have hstory : w'.scene.story = events ++ c.world.scene.story := htransition.story_eq
  refine ⟨events ++ before, ?_⟩
  rw [List.append_assoc, ← hbefore]
  exact hstory

/-- What holds at the beginning and is kept by every move holds of the world of every run. -/
theorem run_keeps_world {Q : World → Prop} (hstart : Q {})
    (hkeeps : ∀ (w : World) (m : Move), w.IsSound → Q w → Q (w.perform chance m))
    (moves : List Move) : Q (run chance moves).world :=
  Chronicle.foldl_keeps_world hkeeps moves World.isSound_empty hstart

end Run

/-! ## What was done -/

namespace Chronicle

variable {chance : Chance} {c : Chronicle}

theorem doneBy_after (c : Chronicle) (actor : Option Task) (events : List Event) (w : World)
    (p : Task → Bool) : (c.after actor events w).doneBy p =
      if actor.any p then events ++ c.doneBy p else c.doneBy p := by
  rw [doneBy, after, List.filter_append, List.filter_map, List.map_append, List.map_map]
  split
  · rename_i hactor
    have hall : (events.filter ((fun d : Deed => d.actor.any p) ∘ (⟨actor, ·⟩))) = events :=
      List.filter_eq_self.mpr fun _ _ => hactor
    rw [hall, doneBy]
    simp [Function.comp_def]
  · rename_i hactor
    have hnone : (events.filter ((fun d : Deed => d.actor.any p) ∘ (⟨actor, ·⟩))) = [] :=
      List.filter_eq_nil_iff.mpr fun _ _ => hactor
    rw [hnone]
    rfl

theorem story_eq (moves : List Move) :
    (run chance moves).world.scene.story = (run chance moves).deeds.map (·.event) := by
  refine run_keeps chance (P := fun c => c.world.scene.story = c.deeds.map (·.event)) rfl ?_ moves
  intro c actor events w' _ htransition hc
  have hstory : w'.scene.story = events ++ c.world.scene.story := htransition.story_eq
  simp only [after, hstory, hc, List.map_append, List.map_map, Function.comp_def, List.map_id']

theorem doneBy_sublist (moves : List Move) (p : Task → Bool) :
    ((run chance moves).doneBy p).Sublist (run chance moves).world.scene.story := by
  rw [story_eq]
  exact List.filter_sublist.map _

theorem count_minted_doneBy (moves : List Move) (p : Task → Bool) (core : Core) :
    ((run chance moves).doneBy p).count (.minted core) ≤ 1 :=
  Nat.le_trans ((doneBy_sublist moves p).count_le _) ((run_isSound chance moves).scene.once core)

end Chronicle

/-! ## Loops that are over -/

namespace World

variable {chance : Chance} {w w' : World} {actor : Option Task} {events : List Event}

/-- A loop that is over stays over. -/
theorem Transition.isOver (hw : w.IsSound) (h : Transition chance w actor events w') {t : Task}
    (hover : w.isOver t = true) : w'.isOver t = true := by
  cases h with
  | @dedicated i f f' s _ hf hstep _ =>
    cases t with
    | dedicated k =>
      by_cases hik : i = k
      · subst hik
        simp only [World.isOver, hf, Option.any_some] at hover
        rw [Dedicated.not_isOver_of_step hstep] at hover
        exact absurd hover Bool.false_ne_true
      · simpa only [World.isOver, List.getElem?_set_ne hik] using hover
    | _ => exact hover
  | @speculative i f f' s _ hf hstep _ =>
    cases t with
    | speculative k =>
      by_cases hik : i = k
      · subst hik
        simp only [World.isOver, hf, Option.any_some] at hover
        rw [Speculative.not_isOver_of_step hstep] at hover
        exact absurd hover Bool.false_ne_true
      · simpa only [World.isOver, List.getElem?_set_ne hik] using hover
    | _ => exact hover
  | @attempt i f f' a s _ hf ha _ _ =>
    cases t with
    | speculative k =>
      by_cases hik : i = k
      · subst hik
        simp only [World.isOver, hf, Option.any_some, Speculative.isOver, beq_iff_eq] at hover
        have hnone := (hw.speculative f (List.mem_of_getElem? hf)).ended hover
        rw [hnone] at ha
        exact absurd ha List.not_mem_nil
      · simpa only [World.isOver, List.getElem?_set_ne hik] using hover
    | _ => exact hover
  | client _ hclient => rw [isOver_eq hclient.dedicated hclient.speculative, hover]
  | employed _ _ _ _ _ _ =>
    cases t with
    | dedicated k =>
      obtain ⟨f, hf, hfover⟩ := (Option.any_eq_true _ _).mp hover
      simp only [World.isOver, List.getElem?_append_left (List.getElem?_eq_some_iff.mp hf).1, hf,
        Option.any_some, hfover]
    | _ => exact hover
  | engaged _ _ _ _ _ _ _ =>
    cases t with
    | speculative k =>
      obtain ⟨f, hf, hfover⟩ := (Option.any_eq_true _ _).mp hover
      simp only [World.isOver, List.getElem?_append_left (List.getElem?_eq_some_iff.mp hf).1, hf,
        Option.any_some, hfover]
    | _ => exact hover

/-- A shutdown returns only once the loop is over. -/
theorem Transition.stopped (h : Transition chance w actor events w') {t : Task}
    (hstopped : .stopped t ∈ events) : w.isOver t = true := by
  have hloop : ∀ {events : List Event}, (∀ e ∈ events, e.isOfLoop = true) →
      .stopped t ∉ events := fun hall hmem => absurd (hall _ hmem) (by simp [Event.isOfLoop])
  cases h with
  | dedicated _ _ hsteps => exact absurd hstopped (hloop (Dedicated.isOfLoop_of_acts hsteps.acts))
  | speculative _ _ haccounts =>
    exact absurd hstopped (hloop (Speculative.isOfLoop_of_acts haccounts.acts))
  | attempt _ _ _ haccounts =>
    exact absurd hstopped (hloop (Speculative.isOfLoop_of_acts haccounts.acts))
  | client _ hclient => exact hclient.stopped t hstopped
  | employed _ _ _ _ _ _ => exact absurd hstopped List.not_mem_nil
  | engaged _ _ _ _ _ _ _ => exact absurd hstopped List.not_mem_nil

end World

/-- A loop whose shutdown has returned is over. -/
theorem isOver_of_stopped {chance : Chance} {moves : List Move} {t : Task}
    (hstopped : .stopped t ∈ (run chance moves).world.scene.story) :
    (run chance moves).world.isOver t = true := by
  refine run_keeps chance (P := fun c => .stopped t ∈ c.world.scene.story → c.world.isOver t = true)
    (fun h => absurd h List.not_mem_nil) ?_ moves hstopped
  intro c actor events w' hsound htransition ih hmem
  have hstory : w'.scene.story = events ++ c.world.scene.story := htransition.story_eq
  simp only [Chronicle.after, hstory] at hmem
  rcases List.mem_append.mp hmem with hnew | hold
  · exact htransition.isOver hsound (htransition.stopped hnew)
  · exact htransition.isOver hsound (ih hold)

end CoreBroker
