import CoreBroker.Proofs.Runs.Fulfillers
import Mathlib.Data.List.Induction
set_option autoImplicit false

/-!
# Since when something holds

Nothing holds of the empty world that a run has to bring about, so whatever holds at the end of a run came
about by one of its moves and has held ever since.  What one move is to a fulfiller is stated here once:
its own tasks take a step, it is set up, or it stays as it was.
-/

namespace CoreBroker

/-- After the moves `before` something holds, and goes on to hold after each of the moves `later`. -/
def Throughout (chance : Chance) (P : World → Prop) (before later : List Move) : Prop :=
  ∀ sooner rest, later = sooner ++ rest → P (run chance (before ++ sooner)).world

section Throughout

variable {chance : Chance} {P : World → Prop} {before later : List Move}

theorem Throughout.first (h : Throughout chance P before later) : P (run chance before).world := by
  have hfirst := h [] later rfl
  rwa [List.append_nil] at hfirst

theorem Throughout.last (h : Throughout chance P before later) :
    P (run chance (before ++ later)).world := h later [] (List.append_nil later).symm

theorem throughout_nil (h : P (run chance before).world) : Throughout chance P before [] := by
  intro sooner rest hsplit
  obtain ⟨rfl, rfl⟩ := List.append_eq_nil_iff.mp hsplit.symm
  rwa [List.append_nil]

theorem Throughout.concat {m : Move} (h : Throughout chance P before later)
    (hlast : P (run chance (before ++ (later ++ [m]))).world) :
    Throughout chance P before (later ++ [m]) := by
  intro sooner rest hsplit
  rcases List.eq_nil_or_concat rest with rfl | ⟨rest, last, rfl⟩
  · rw [List.append_nil] at hsplit
    rwa [← hsplit]
  · rw [List.concat_eq_append, ← List.append_assoc] at hsplit
    exact h sooner rest (List.append_inj_left' hsplit rfl)

/-- What holds throughout holds throughout the beginning. -/
theorem Throughout.of_append {more : List Move} (h : Throughout chance P before (later ++ more)) :
    Throughout chance P before later := by
  intro sooner rest hsplit
  exact h sooner (rest ++ more) (by rw [hsplit, List.append_assoc])

end Throughout

/-- Every move of the run leads from one world to another that are so related. -/
def AtEachMove (chance : Chance) (R : World → World → Prop) (moves : List Move) : Prop :=
  ∀ n < moves.length, R (run chance (moves.take n)).world (run chance (moves.take (n + 1))).world

section AtEachMove

variable {chance : Chance} {R : World → World → Prop} {moves : List Move}

theorem AtEachMove.of_append {later : List Move} (h : AtEachMove chance R (moves ++ later)) :
    AtEachMove chance R moves := by
  intro n hn
  have hthis := h n (Nat.lt_of_lt_of_le hn (by simp))
  rwa [List.take_append_of_le_length (Nat.le_of_lt hn), List.take_append_of_le_length hn] at hthis

theorem AtEachMove.last {m : Move} (h : AtEachMove chance R (moves ++ [m])) :
    R (run chance moves).world ((run chance moves).world.perform chance m) := by
  have hthis := h moves.length (by simp)
  rw [List.take_left', List.take_of_length_le (by simp), run_concat] at hthis
  · exact hthis
  · rfl

end AtEachMove

/-- Whatever did not hold at some moment of a run and does later came about by one of the moves in between,
and has held ever since. -/
theorem exists_onset_since (chance : Chance) {P : World → Prop} {earlier : List Move}
    (hearlier : ¬ P (run chance earlier).world) (moves : List Move)
    (hend : P (run chance (earlier ++ moves)).world) :
    ∃ before m later, moves = before ++ m :: later ∧ ¬ P (run chance (earlier ++ before)).world ∧
      Throughout chance P (earlier ++ before ++ [m]) later := by
  induction moves using List.reverseRecOn with
  | nil =>
    rw [List.append_nil] at hend
    exact absurd hend hearlier
  | append_singleton moves m ih =>
    by_cases hbefore : P (run chance (earlier ++ moves)).world
    · obtain ⟨before, first, later, rfl, hnot, hsince⟩ := ih hbefore
      refine ⟨before, first, later ++ [m], by simp, hnot, hsince.concat ?_⟩
      simpa using hend
    · refine ⟨moves, m, [], rfl, hbefore, throughout_nil ?_⟩
      rwa [List.append_assoc]

/-- Whatever holds at the end of a run and not at its beginning came about by one of its moves and has
held ever since. -/
theorem exists_onset (chance : Chance) {P : World → Prop} (hstart : ¬ P {}) (moves : List Move)
    (hend : P (run chance moves).world) :
    ∃ before m later, moves = before ++ m :: later ∧ ¬ P (run chance before).world ∧
      Throughout chance P (before ++ [m]) later :=
  exists_onset_since chance (show ¬ P (run chance []).world from hstart) moves hend

/-- Whatever was done in a run was done by one of its moves. -/
theorem exists_of_mem_deeds {chance : Chance} {moves : List Move} {d : Deed}
    (hdeed : d ∈ (run chance moves).deeds) :
    ∃ before m later, moves = before ++ m :: later ∧ d.actor = m.actor ∧
      d.event ∈ (run chance before).world.news ((run chance before).world.perform chance m) := by
  induction moves using List.reverseRecOn with
  | nil => exact absurd hdeed List.not_mem_nil
  | append_singleton moves m ih =>
    rw [run_append] at hdeed
    rcases List.mem_append.mp hdeed with hnew | hold
    · obtain ⟨event, hevent, rfl⟩ := List.mem_map.mp hnew
      exact ⟨moves, m, [], rfl, rfl, hevent⟩
    · obtain ⟨before, first, later, rfl, hdone⟩ := ih hold
      exact ⟨before, first, later ++ [m], by simp, hdone⟩

theorem deeds_mono {chance : Chance} {moves : List Move} {d : Deed} (hdeed : d ∈ (run chance moves).deeds)
    (later : List Move) : d ∈ (run chance (moves ++ later)).deeds := by
  induction later using List.reverseRecOn with
  | nil => rwa [List.append_nil]
  | append_singleton later m ih =>
    rw [← List.append_assoc, run_append]
    exact List.mem_append_right _ ih

/-- What a move does is done from then on. -/
theorem mem_deeds_concat {chance : Chance} {moves : List Move} {m : Move} {e : Event}
    (he : e ∈ (run chance moves).world.news ((run chance moves).world.perform chance m)) :
    ⟨m.actor, e⟩ ∈ (run chance (moves ++ [m])).deeds := by
  rw [run_append]
  exact List.mem_append_left _ (List.mem_map_of_mem he)

theorem Chronicle.mem_doneBy {c : Chronicle} {p : Task → Bool} {t : Task} {e : Event}
    (hdeed : ⟨some t, e⟩ ∈ c.deeds) (ht : p t = true) : e ∈ c.doneBy p :=
  List.mem_map.mpr ⟨_, List.mem_filter.mpr ⟨hdeed, ht⟩, rfl⟩

/-- However a run goes on, the clock does not go back and what was fired stays fired. -/
theorem run_precedes (chance : Chance) (moves later : List Move) :
    (run chance moves).world.scene.Precedes (run chance (moves ++ later)).world.scene := by
  refine run_goes_on (P := fun c => (run chance moves).world.scene.Precedes c.world.scene)
    (.refl _) ?_ later
  intro c actor events w' _ htransition hbefore
  obtain ⟨may, hacts⟩ := htransition.acts
  exact hbefore.trans hacts.precedes

/-- What the loop of a fulfiller or one of its attempts has done, it did by a step. -/
theorem exists_step_of_deed {chance : Chance} {moves : List Move} {t : Task} {e : Event}
    (ht : t.isErrand = false) (hdeed : ⟨some t, e⟩ ∈ (run chance moves).deeds) :
    ∃ before later, moves = before ++ .step t :: later ∧
      e ∈ (run chance before).world.news ((run chance before).world.perform chance (.step t)) := by
  obtain ⟨before, m, later, rfl, hactor, hdone⟩ := exists_of_mem_deeds hdeed
  cases m with
  | step t' =>
    obtain rfl : t = t' := Option.some.inj hactor
    exact ⟨before, later, rfl, hdone⟩
  | abandon n =>
    obtain rfl : t = .errand n := Option.some.inj hactor
    exact absurd ht (by simp [Task.isErrand])
  | _ => exact absurd hactor (by simp [Move.actor])

namespace World

variable {chance : Chance} {w : World} {m : Move}

/-- What one move is to the dedicated fulfiller `i`. -/
inductive DedicatedMove (chance : Chance) (w : World) (m : Move) (i : Nat) : Prop
  /-- Its loop takes a step. -/
  | acts {f f' : Dedicated} (hmove : m = .step (.dedicated i)) (hf : w.dedicated[i]? = some f)
      (hf' : (w.perform chance m).dedicated[i]? = some f')
      (hstep : f.step i w.scene = some (f', (w.perform chance m).scene))
      (hsteps : f.Steps w.scene (w.news (w.perform chance m)) f' (w.perform chance m).scene)
  /-- It is as it was, but for its sink. -/
  | stays (hidle : m = .step (.dedicated i) → w.perform chance m = w)
      (hsame : (w.perform chance m).dedicated[i]?.map Dedicated.bare =
        w.dedicated[i]?.map Dedicated.bare)
  /-- It is set up. -/
  | starts {f : Dedicated} (hmove : m ≠ .step (.dedicated i)) (hnone : w.dedicated[i]? = none)
      (hf : (w.perform chance m).dedicated[i]? = some f) (hspare : f.spare = none)
      (hpoint : f.point = .starting)

/-- What one move is to the speculative fulfiller `i`. -/
inductive SpeculativeMove (chance : Chance) (w : World) (m : Move) (i : Nat) : Prop
  /-- Its loop takes a step. -/
  | acts {f f' : Speculative} (hmove : m = .step (.speculative i)) (hf : w.speculative[i]? = some f)
      (hf' : (w.perform chance m).speculative[i]? = some f')
      (hstep : f.step chance i w.scene = some (f', (w.perform chance m).scene))
      (haccounts : f.Accounts w.scene (w.news (w.perform chance m)) f' (w.perform chance m).scene)
  /-- One of its attempts takes a step. -/
  | tries {f f' : Speculative} {a : Attempt} (hmove : m = .step (.attempt i a.serial))
      (hf : w.speculative[i]? = some f) (ha : a ∈ f.attempts)
      (hf' : (w.perform chance m).speculative[i]? = some f')
      (hstep : f.stepAttempt i a w.scene = some (f', (w.perform chance m).scene))
      (haccounts : f.Accounts w.scene (w.news (w.perform chance m)) f' (w.perform chance m).scene)
  /-- It is as it was, but for its sink and the guard of its obtainments. -/
  | stays (hidle : ∀ t, m = .step t → t.isOfTeam i = true → w.perform chance m = w)
      (hsame : (w.perform chance m).speculative[i]?.map Speculative.bare =
        w.speculative[i]?.map Speculative.bare)
  /-- It is set up. -/
  | starts {f : Speculative} (hmove : ∀ t, m = .step t → t.isOfTeam i = false)
      (hnone : w.speculative[i]? = none) (hf : (w.perform chance m).speculative[i]? = some f)
      (hstates : f.states = []) (hattempts : f.attempts = []) (howners : f.owners = [])
      (hpoint : f.point = .starting)

/-- To whom none of the transitions is a step, a fulfiller stays as it was or is set up. -/
theorem Transitions.dedicated_of_ne {actor : Option Task} {events : List Event} {w' : World} {i : Nat}
    (hw : w.IsSound) (htransitions : Transitions chance actor w events w')
    (hactor : actor ≠ some (.dedicated i)) :
    w'.dedicated[i]?.map Dedicated.bare = w.dedicated[i]?.map Dedicated.bare ∨
      (w.dedicated[i]? = none ∧ ∃ f, w'.dedicated[i]? = some f ∧ f.spare = none ∧
        f.point = .starting) := by
  induction htransitions with
  | refl => exact .inl rfl
  | @next _ _ w₁ w₂ htransitions htransition ih =>
    cases htransition.dedicatedTransition (htransitions.isSound hw) i with
    | acts hthis _ _ _ _ => exact absurd hthis hactor
    | stays _ hsame =>
      rcases ih with hkept | ⟨hnone, f, hf, hspare, hpoint⟩
      · exact .inl (hsame.trans hkept)
      · obtain ⟨f', hf', hbare⟩ := exists_of_map_eq hsame.symm hf
        have heq := Dedicated.eq_of_bare hbare.symm
        exact .inr ⟨hnone, f', hf', by rw [heq]; exact hspare, by rw [heq]; exact hpoint⟩
    | starts _ hnone hf hspare hpoint _ =>
      refine .inr ⟨?_, _, hf, hspare, hpoint⟩
      rcases ih with hkept | ⟨hnone', -⟩
      · rw [hnone] at hkept
        exact Option.map_eq_none_iff.mp hkept.symm
      · exact hnone'

/-- To whom none of the transitions is a step, a fulfiller stays as it was or is set up. -/
theorem Transitions.speculative_of_not_team {actor : Option Task} {events : List Event} {w' : World} {i : Nat}
    (hw : w.IsSound) (htransitions : Transitions chance actor w events w')
    (hactor : actor.any (Task.isOfTeam i) = false) :
    w'.speculative[i]?.map Speculative.bare = w.speculative[i]?.map Speculative.bare ∨
      (w.speculative[i]? = none ∧ ∃ f, w'.speculative[i]? = some f ∧ f.states = [] ∧
        f.attempts = [] ∧ f.owners = [] ∧ f.point = .starting) := by
  induction htransitions with
  | refl => exact .inl rfl
  | @next _ _ w₁ w₂ htransitions htransition ih =>
    cases htransition.speculativeTransition (htransitions.isSound hw) i with
    | acts hthis _ _ _ _ => exact absurd (hthis.symm.trans hactor) (by simp)
    | stays _ hsame _ =>
      rcases ih with hkept | ⟨hnone, f, hf, hstates, hattempts, howners, hpoint⟩
      · exact .inl (hsame.trans hkept)
      · obtain ⟨f', hf', hbare⟩ := exists_of_map_eq hsame.symm hf
        have heq := Speculative.eq_of_bare hbare.symm
        exact .inr ⟨hnone, f', hf', by rw [heq]; exact hstates, by rw [heq]; exact hattempts,
          by rw [heq]; exact howners, by rw [heq]; exact hpoint⟩
    | starts _ hnone hf hstates hattempts _ howners hpoint _ =>
      refine .inr ⟨?_, _, hf, hstates, hattempts, howners, hpoint⟩
      rcases ih with hkept | ⟨hnone', -⟩
      · rw [hnone] at hkept
        exact Option.map_eq_none_iff.mp hkept.symm
      · exact hnone'

theorem news_self (w : World) : w.news w = [] := by
  rw [news, Nat.sub_self, List.take_zero]

theorem perform_step_of_some {t : Task} {w' : World} (hstep : w.step chance t = some w') :
    w.perform chance (.step t) = w' := by
  rw [perform, hstep, Option.getD_some]

theorem perform_step_of_none {t : Task} (hstep : w.step chance t = none) :
    w.perform chance (.step t) = w := by
  rw [perform, hstep, Option.getD_none]

theorem dedicatedMove (chance : Chance) (hw : w.IsSound) (m : Move) (i : Nat) :
    DedicatedMove chance w m i := by
  by_cases hmove : m = .step (.dedicated i)
  · subst hmove
    cases hstep : w.step chance (.dedicated i) with
    | none =>
      have hperform := perform_step_of_none hstep
      exact .stays (fun _ => hperform) (by rw [hperform])
    | some w' =>
      have hperform := perform_step_of_some hstep
      obtain ⟨events, htransition⟩ := step_transition hw hstep
      have hnews := news_of_story htransition.story_eq
      cases htransition.dedicatedTransition hw i with
      | acts _ hf hf' hloop hsteps =>
        rw [← hperform] at hf' hloop hsteps hnews
        exact .acts rfl hf hf' hloop (hnews ▸ hsteps)
      | stays hactor _ => exact absurd rfl hactor
      | starts hactor _ _ _ _ _ => exact absurd hactor (by simp)
  · obtain ⟨events, htransitions⟩ : ∃ events, Transitions chance m.actor w events (w.perform chance m) :=
      perform_transitions hw m
    have hactor : m.actor ≠ some (.dedicated i) := fun hactor => hmove (by
      cases m with
      | step t => exact congrArg _ (Option.some.inj hactor)
      | _ => exact absurd hactor (by simp [Move.actor]))
    rcases htransitions.dedicated_of_ne hw hactor with hsame | ⟨hnone, f, hf, hspare, hpoint⟩
    · exact .stays (fun h => absurd h hmove) hsame
    · exact .starts hmove hnone hf hspare hpoint

theorem speculativeMove (chance : Chance) (hw : w.IsSound) (m : Move) (i : Nat) :
    SpeculativeMove chance w m i := by
  cases hteam : m.actor.any (Task.isOfTeam i) with
  | false =>
    obtain ⟨events, htransitions⟩ : ∃ events, Transitions chance m.actor w events (w.perform chance m) :=
      perform_transitions hw m
    have hother : ∀ t, m = .step t → t.isOfTeam i = false := fun t hmove => by
      rwa [hmove] at hteam
    rcases htransitions.speculative_of_not_team hw hteam with
      hsame | ⟨hnone, f, hf, hstates, hattempts, howners, hpoint⟩
    · refine .stays (fun t hmove ht => ?_) hsame
      exact absurd ((hother t hmove).symm.trans ht) (by simp)
    · exact .starts hother hnone hf hstates hattempts howners hpoint
  | true =>
    obtain ⟨t, rfl, ht⟩ : ∃ t, m = .step t ∧ t.isOfTeam i = true := by
      cases m with
      | step t => exact ⟨t, rfl, hteam⟩
      | _ => exact absurd hteam (by simp [Move.actor, Task.isOfTeam])
    cases hstep : w.step chance t with
    | none =>
      have hperform := perform_step_of_none hstep
      exact .stays (fun _ _ _ => hperform) (by rw [hperform])
    | some w' =>
      have hperform := perform_step_of_some hstep
      obtain ⟨events, htransition⟩ := step_transition hw hstep
      have hnews := news_of_story htransition.story_eq
      cases htransition with
      | dedicated _ _ _ => exact absurd ht (by simp [Task.isOfTeam])
      | @speculative k f f' s _ hf hloop haccounts =>
        obtain rfl : k = i := by simpa [Task.isOfTeam] using ht
        have hf' : (w.perform chance (.step (.speculative k))).speculative[k]? = some f' := by
          rw [hperform]
          exact List.getElem?_set_self (List.getElem?_eq_some_iff.mp hf).1
        refine .acts rfl hf hf' ?_ ?_
        · rw [hperform]
          exact hloop
        · rw [hperform, hnews]
          exact haccounts
      | @attempt k f f' a s _ hf ha hloop haccounts =>
        obtain rfl : k = i := by simpa [Task.isOfTeam] using ht
        have hf' : (w.perform chance (.step (.attempt k a.serial))).speculative[k]? = some f' := by
          rw [hperform]
          exact List.getElem?_set_self (List.getElem?_eq_some_iff.mp hf).1
        refine .tries rfl hf ha hf' ?_ ?_
        · rw [hperform]
          exact hloop
        · rw [hperform, hnews]
          exact haccounts
      | client hactor _ =>
        obtain ⟨n, rfl⟩ := hactor t rfl
        exact absurd ht (by simp [Task.isOfTeam])

/-- Whatever comes to be true of a dedicated fulfiller, whatever its sink is, comes to be true by a step of
its loop. -/
theorem dedicated_onset {P : Dedicated → Prop} (hsink : ∀ f sink, P { f with sink } → P f)
    (hstart : ∀ f : Dedicated, f.spare = none → f.point = .starting → ¬ P f) (hw : w.IsSound) {i : Nat}
    {f' : Dedicated} (hf' : (w.perform chance m).dedicated[i]? = some f') (hP : P f')
    (hbefore : ∀ f, w.dedicated[i]? = some f → ¬ P f) :
    ∃ f, m = .step (.dedicated i) ∧ w.dedicated[i]? = some f ∧
      f.step i w.scene = some (f', (w.perform chance m).scene) ∧
        f.Steps w.scene (w.news (w.perform chance m)) f' (w.perform chance m).scene := by
  cases dedicatedMove chance hw m i with
  | @acts f g hmove hf hg hstep hsteps =>
    obtain rfl := Option.some.inj (hf'.symm.trans hg)
    exact ⟨f, hmove, hf, hstep, hsteps⟩
  | stays _ hsame =>
    obtain ⟨f, hf, hbare⟩ := exists_of_map_eq hsame hf'
    rw [Dedicated.eq_of_bare hbare] at hP
    exact absurd (hsink f _ hP) (hbefore f hf)
  | starts _ _ hf hspare hpoint =>
    obtain rfl := Option.some.inj (hf'.symm.trans hf)
    exact absurd hP (hstart f' hspare hpoint)

/-- If the loop of a dedicated fulfiller can take a step, the next step of it is that step. -/
theorem dedicated_acts (chance : Chance) (hw : w.IsSound) {i : Nat} {f : Dedicated} {r : Dedicated × Scene}
    (hf : w.dedicated[i]? = some f) (hstep : f.step i w.scene = some r) :
    (w.perform chance (.step (.dedicated i))).dedicated[i]? = some r.1 ∧
      f.Steps w.scene (w.news (w.perform chance (.step (.dedicated i)))) r.1 r.2 := by
  have htaken : w.step chance (.dedicated i) =
      some { w with scene := r.2, dedicated := w.dedicated.set i r.1 } := by
    simp only [step, hf, hstep, Option.map_some]
  rw [perform_step_of_some htaken]
  refine ⟨List.getElem?_set_self (List.getElem?_eq_some_iff.mp hf).1, ?_⟩
  obtain ⟨events, htransition⟩ := step_transition hw htaken
  rw [news_of_story htransition.story_eq]
  cases htransition.dedicatedTransition hw i with
  | acts _ hf' _ hstep' hsteps =>
    obtain rfl := Option.some.inj (hf.symm.trans hf')
    rw [Option.some.inj (hstep.symm.trans hstep')]
    exact hsteps
  | stays hactor _ => exact absurd rfl hactor
  | starts hactor _ _ _ _ _ => exact absurd hactor (by simp)

/-- If the loop of a speculative fulfiller can take a step, the next step of it is that step. -/
theorem speculative_acts {i : Nat} {f : Speculative} {r : Speculative × Scene}
    (hf : w.speculative[i]? = some f) (hstep : f.step chance i w.scene = some r) :
    (w.perform chance (.step (.speculative i))).speculative[i]? = some r.1 := by
  have htaken : w.step chance (.speculative i) =
      some { w with scene := r.2, speculative := w.speculative.set i r.1 } := by
    simp only [step, hf, hstep, Option.map_some]
  rw [perform_step_of_some htaken]
  exact List.getElem?_set_self (List.getElem?_eq_some_iff.mp hf).1

/-- If an attempt of a speculative fulfiller can take a step, the next step of it is that step. -/
theorem attempt_acts (chance : Chance) (hw : w.IsSound) {i : Nat} {f : Speculative} {a : Attempt}
    {r : Speculative × Scene} (hf : w.speculative[i]? = some f) (ha : a ∈ f.attempts)
    (hstep : f.stepAttempt i a w.scene = some r) :
    (w.perform chance (.step (.attempt i a.serial))).speculative[i]? = some r.1 := by
  have hfound : f.attempts.find? (·.serial == a.serial) = some a :=
    find?_key (hw.speculative f (List.mem_of_getElem? hf)).serials ha
  have htaken : w.step chance (.attempt i a.serial) =
      some { w with scene := r.2, speculative := w.speculative.set i r.1 } := by
    simp only [step, hf, hfound, hstep, Option.map_some]
  rw [perform_step_of_some htaken]
  exact List.getElem?_set_self (List.getElem?_eq_some_iff.mp hf).1

/-- If a step of its loop does anything, a dedicated fulfiller has taken a step. -/
theorem dedicated_of_mem_news (hw : w.IsSound) {i : Nat} {e : Event}
    (he : e ∈ w.news (w.perform chance (.step (.dedicated i)))) :
    ∃ f f', w.dedicated[i]? = some f ∧
      f.step i w.scene = some (f', (w.perform chance (.step (.dedicated i))).scene) ∧
      f.Steps w.scene (w.news (w.perform chance (.step (.dedicated i)))) f'
        (w.perform chance (.step (.dedicated i))).scene := by
  cases dedicatedMove chance hw (.step (.dedicated i)) i with
  | acts _ hf _ hstep hsteps => exact ⟨_, _, hf, hstep, hsteps⟩
  | stays hidle _ =>
    rw [hidle rfl, news_self] at he
    exact absurd he List.not_mem_nil
  | starts hmove _ _ _ _ => exact absurd rfl hmove

/-- If a step of its loop does anything, a speculative fulfiller has taken a step. -/
theorem speculative_of_mem_news (hw : w.IsSound) {i : Nat} {e : Event}
    (he : e ∈ w.news (w.perform chance (.step (.speculative i)))) :
    ∃ f f', w.speculative[i]? = some f ∧
      f.step chance i w.scene = some (f', (w.perform chance (.step (.speculative i))).scene) ∧
      f.Accounts w.scene (w.news (w.perform chance (.step (.speculative i)))) f'
        (w.perform chance (.step (.speculative i))).scene := by
  cases speculativeMove chance hw (.step (.speculative i)) i with
  | acts _ hf _ hstep haccounts => exact ⟨_, _, hf, hstep, haccounts⟩
  | tries hmove _ _ _ _ _ => exact absurd hmove (by simp)
  | stays hidle _ =>
    rw [hidle _ rfl (by simp [Task.isOfTeam]), news_self] at he
    exact absurd he List.not_mem_nil
  | starts hmove _ _ _ _ _ _ => exact absurd (hmove _ rfl) (by simp [Task.isOfTeam])

/-- If a step of an attempt does anything, the attempt has taken a step. -/
theorem attempt_of_mem_news (hw : w.IsSound) {i n : Nat} {e : Event}
    (he : e ∈ w.news (w.perform chance (.step (.attempt i n)))) :
    ∃ f f' a, w.speculative[i]? = some f ∧ a ∈ f.attempts ∧
      f.stepAttempt i a w.scene = some (f', (w.perform chance (.step (.attempt i n))).scene) := by
  cases speculativeMove chance hw (.step (.attempt i n)) i with
  | acts hmove _ _ _ _ => exact absurd hmove (by simp)
  | tries _ hf ha _ hstep _ => exact ⟨_, _, _, hf, ha, hstep⟩
  | stays hidle _ =>
    rw [hidle _ rfl (by simp [Task.isOfTeam]), news_self] at he
    exact absurd he List.not_mem_nil
  | starts hmove _ _ _ _ _ _ => exact absurd (hmove _ rfl) (by simp [Task.isOfTeam])

end World

/-! ## What a dedicated fulfiller is for good -/

/-- The fulfiller is what it was, but for its sink, its spare core and where its loop stands. -/
def Dedicated.Lasts (f f' : Dedicated) : Prop :=
  f' = { f with sink := f'.sink, spare := f'.spare, point := f'.point }

namespace Dedicated.Lasts

variable {f f' f'' : Dedicated}

theorem trans (h : f.Lasts f') (h' : f'.Lasts f'') : f.Lasts f'' := by
  unfold Lasts at h h' ⊢
  rw [h', h]

theorem board (h : f.Lasts f') : f'.board = f.board := by rw [h]

theorem settings (h : f.Lasts f') : f'.settings = f.settings := by rw [h]

theorem shutdown (h : f.Lasts f') : f'.shutdown = f.shutdown := by rw [h]

end Dedicated.Lasts

/-- However a run goes on, its dedicated fulfillers are what they were. -/
theorem dedicated_lasts {chance : Chance} {moves : List Move} {i : Nat} {f : Dedicated}
    (hf : (run chance moves).world.dedicated[i]? = some f) (later : List Move) :
    ∃ f', (run chance (moves ++ later)).world.dedicated[i]? = some f' ∧ f.Lasts f' := by
  induction later using List.reverseRecOn with
  | nil => exact ⟨f, by rwa [List.append_nil], rfl⟩
  | append_singleton later m ih =>
    obtain ⟨g, hg, hlasts⟩ := ih
    rw [← List.append_assoc, run_concat]
    cases World.dedicatedMove chance (run_isSound chance (moves ++ later)) m i with
    | acts _ hthere hafter _ hsteps =>
      rw [hg] at hthere
      cases hthere
      refine ⟨_, hafter, hlasts.trans ?_⟩
      have hsame := hsteps.flow.same
      unfold Dedicated.Same at hsame
      unfold Dedicated.Lasts
      rw [hsame]
    | stays _ hsame =>
      obtain ⟨g', hg', hbare⟩ := exists_of_map_eq hsame.symm hg
      have heq := Dedicated.eq_of_bare hbare.symm
      refine ⟨g', hg', hlasts.trans ?_⟩
      unfold Dedicated.Lasts
      rw [heq]
    | starts _ hnone _ _ _ =>
      rw [hnone] at hg
      exact absurd hg (by simp)

/-- However a run goes on, its speculative fulfillers are there. -/
theorem speculative_lasts {chance : Chance} {moves : List Move} {i : Nat} {f : Speculative}
    (hf : (run chance moves).world.speculative[i]? = some f) (later : List Move) :
    ∃ f', (run chance (moves ++ later)).world.speculative[i]? = some f' := by
  induction later using List.reverseRecOn with
  | nil => exact ⟨f, by rwa [List.append_nil]⟩
  | append_singleton later m ih =>
    obtain ⟨g, hg⟩ := ih
    rw [← List.append_assoc, run_concat]
    cases World.speculativeMove chance (run_isSound chance (moves ++ later)) m i with
    | acts _ _ hafter _ _ => exact ⟨_, hafter⟩
    | tries _ _ _ hafter _ _ => exact ⟨_, hafter⟩
    | stays _ hsame =>
      obtain ⟨g', hg', -⟩ := exists_of_map_eq hsame.symm hg
      exact ⟨g', hg'⟩
    | starts _ _ hafter _ _ _ _ => exact ⟨_, hafter⟩

end CoreBroker
