import CoreBroker.Proofs.Runs.Overlaps
set_option autoImplicit false

/-!
# Whose outcome ends an engagement

The outcome of an attempt comes in by a step of the attempt, or of the loop if the attempt has panicked.  It
changes at most the obtainment from the very provider object that the attempt was started on, and only
while an attempt with its number is in flight there.  In every run in which the provider stays tracked, that
is the attempt itself: the engagement that its outcome ends is the one that its start brought about.
-/

namespace CoreBroker

variable {chance : Chance} {i : Nat} {p : ProviderRef} {a : Attempt} {x : Owner} {core : Option Core}

/-- An obtainment that an outcome has changed was the one from its provider object, and an attempt with its
number was in flight there. -/
theorem States.TakesOutcome.of_gone {states states' : States Core} {number : Nat} (hids : states.ids.Nodup)
    (htakes : states.TakesOutcome p number states') {o : Obtainment Core} (ho : o ∈ states)
    (hgone : o ∉ states') : o.provider = p ∧ o.isCurrent number = true := by
  cases htakes with
  | @current q q' hown hcurrent _ _ =>
    obtain ⟨hq, hqid⟩ := get?_eq_some (of_own? hown).1
    have hthis : o.provider.id = p.id := by
      by_contra hother
      exact hgone (List.mem_map.mpr ⟨o, ho, if_neg (by simpa using hother)⟩)
    obtain rfl : o = q := List.inj_on_of_nodup_map hids ho hq (hthis.trans hqid.symm)
    exact ⟨provider_of_own? hown, hcurrent⟩
  | stale _ => exact absurd ho hgone

namespace Speculative

variable {f : Speculative} {s : Scene} {me : Nat}

/-- The next thing that the task has to do for the fulfiller `i` is to report the outcome of an attempt, with
the core that came of it. -/
inductive Reports (f : Speculative) (i : Nat) : Task → Owner → Option Core → Prop
  | attempt {a : Attempt} {core : Option Core} (ha : a ∈ f.attempts) (hpoint : a.point = .settling core) :
      Reports f i (.attempt i a.serial) a.owner core
  /-- The loop does it for an attempt that has panicked. -/
  | panic {owner : Owner} (hpoint : f.point = .recording owner) :
      Reports f i (.speculative i) owner none

/-- Where the core of a report is after the step: still with its attempt, which waits for the guard, or held
for the provider object that it came from, or disposed of. -/
def Receives (f : Speculative) (events : List Event) (x : Owner) (core : Core) : Prop :=
  (∃ a ∈ f.attempts, a.owner = x ∧ a.point = .settling (some core)) ∨
    (∃ o ∈ f.states, o.provider = x.provider ∧ o.phase = .holding core) ∨ .disposed core ∈ events

/-- A step of the loop that reports. -/
theorem step_of_recording (hpoint : f.point = .recording x) {r : Speculative × Scene}
    (hstep : f.step chance me s = some r) :
    r.1.states = f.states ∨ f.states.TakesOutcome x.provider x.number r.1.states := by
  simp only [step, hpoint] at hstep
  cases henter : f.enter (.speculative me) with
  | blocked => simp [henter] at hstep
  | joined g =>
    obtain ⟨guard, rfl, -⟩ := of_enter_joined henter
    simp only [henter, Option.some.injEq] at hstep
    exact .inl (hstep ▸ rfl)
  | entered g =>
    obtain ⟨guard, rfl, -, -⟩ := of_enter_entered henter
    simp only [henter, Option.some.injEq] at hstep
    exact .inr (hstep ▸ recordPanic_takesOutcome { f with guard } x s)

/-- A step of an attempt that reports. -/
theorem stepAttempt_of_settling (ha : a ∈ f.attempts) (hpoint : a.point = .settling core)
    {r : Speculative × Scene} (hstep : f.stepAttempt me a s = some r) :
    (r.1.states = f.states ∨ f.states.TakesOutcome a.provider a.number r.1.states) ∧
      ∀ c, core = some c → ∀ events, r.2.story = events ++ s.story → r.1.Receives events a.owner c := by
  simp only [stepAttempt, hpoint] at hstep
  cases henter : f.enter (.attempt me a.serial) with
  | blocked => simp [henter] at hstep
  | joined g =>
    obtain ⟨guard, rfl, -⟩ := of_enter_joined henter
    simp only [henter, Option.some.injEq] at hstep
    subst hstep
    exact ⟨.inl rfl, fun c hcore _ _ => .inl ⟨a, ha, rfl, hcore ▸ hpoint⟩⟩
  | entered g =>
    obtain ⟨guard, rfl, -, -⟩ := of_enter_entered henter
    simp only [henter, Option.some.injEq] at hstep
    subst hstep
    refine ⟨?_, fun c hcore events hstory => .inr ?_⟩
    · rcases settle_fst { f with guard } a core s with hsettled | hsettled
      · rw [hsettled]
        exact .inl rfl
      · rw [hsettled]
        exact .inr (applyOutcome_takesOutcome f.states a core)
    · subst hcore
      rcases settle_cases { f with guard } a (some c) s with
        ⟨o, hown, -, hstates, -⟩ | ⟨-, -, hdisposed⟩
      · obtain ⟨ho, hid⟩ := States.get?_eq_some (States.of_own? hown).1
        have hprovider : o.provider = a.provider := States.provider_of_own? hown
        refine .inl ⟨{ o with phase := .holding c }, ?_, hprovider, rfl⟩
        rw [hstates]
        exact List.mem_map.mpr ⟨o, ho, if_pos (by simpa using hid)⟩
      · have hevents : events = [.disposed c] := List.append_cancel_right (hstory.symm.trans hdisposed)
        exact .inr (hevents ▸ List.mem_singleton_self _)

end Speculative

namespace World

/-- The report of an outcome changes nothing but where an attempt with this number is in flight. -/
theorem perform_of_reports {w : World} (hw : w.IsSound) {f : Speculative} {t : Task}
    (hf : w.speculative[i]? = some f) (hreports : f.Reports i t x core) :
    ∃ g, (w.perform chance (.step t)).speculative[i]? = some g ∧
      (∀ o ∈ f.states, o ∉ g.states → o.provider = x.provider ∧ o.isCurrent x.number = true) ∧
      ∀ c, core = some c → g.Receives (w.news (w.perform chance (.step t))) x c := by
  obtain ⟨hids, hserials, -, -, -⟩ := hw.speculative f (List.mem_of_getElem? hf)
  have htakes : ∀ {g : Speculative}, g.states = f.states ∨
    f.states.TakesOutcome x.provider x.number g.states →
      ∀ o ∈ f.states, o ∉ g.states → o.provider = x.provider ∧ o.isCurrent x.number = true := by
    intro g hg o ho hgone
    rcases hg with hsame | htakes
    · exact absurd (hsame ▸ ho) hgone
    · exact htakes.of_gone hids ho hgone
  cases speculativeMove chance hw (.step t) i with
  | @acts f' g hmove hf' hg hstep haccounts =>
    obtain rfl := Option.some.inj (hf.symm.trans hf')
    cases hreports with
    | attempt _ _ => exact absurd hmove (by simp)
    | panic hpoint =>
      exact ⟨g, hg, htakes (Speculative.step_of_recording hpoint hstep), fun c hc => absurd hc (by simp)⟩
  | @tries f' g b hmove hf' hb hg hstep haccounts =>
    obtain rfl := Option.some.inj (hf.symm.trans hf')
    cases hreports with
    | @attempt a core ha hpoint =>
      obtain rfl : a = b := List.inj_on_of_nodup_map hserials ha hb (by simpa using hmove)
      obtain ⟨hstates, hreceives⟩ := Speculative.stepAttempt_of_settling ha hpoint hstep
      exact ⟨g, hg, htakes hstates, fun c hcore => hreceives c hcore _ haccounts.acts.story_eq⟩
    | panic hpoint => exact absurd hmove (by simp)
  | stays hidle _ =>
    -- Nothing is done, because somebody else has the guard.
    have hteam : t.isOfTeam i = true := by
      cases hreports <;> simp [Task.isOfTeam]
    rw [hidle t rfl hteam]
    refine ⟨f, hf, htakes (.inl rfl), fun c hcore => .inl ?_⟩
    cases hreports with
    | @attempt a core ha hpoint => exact ⟨a, ha, rfl, hcore ▸ hpoint⟩
    | panic _ => exact absurd hcore (by simp)
  | starts _ hnone _ _ _ _ _ => exact absurd (hnone.symm.trans hf) (by simp)

/-- The outcome of this attempt may still reach the fulfiller `i`. -/
def hearsOf (w : World) (i : Nat) (x : Owner) : Prop :=
  ∃ f, w.speculative[i]? = some f ∧ (x ∈ f.working ∨ x ∈ f.known)

/-- The fulfiller `i` goes on to hear of those it heard of before, and of those it starts by a step of its
loop. -/
theorem startsAttempt_of_hearsOf {w : World} {m : Move} (hw : w.IsSound) (hbefore : ¬ w.hearsOf i x)
    (hafter : (w.perform chance m).hearsOf i x) :
    m = .step (.speculative i) ∧ ∃ f g a, w.speculative[i]? = some f ∧
      (w.perform chance m).speculative[i]? = some g ∧ a.owner = x ∧ f.StartsAttempt a g := by
  obtain ⟨g, hg, hx⟩ := hafter
  have hunheard : ∀ f, w.speculative[i]? = some f → ¬ (x ∈ f.working ∨ x ∈ f.known) :=
    fun f hf hheard => hbefore ⟨f, hf, hheard⟩
  cases speculativeMove chance hw m i with
  | @acts f f' hmove hf hf' hstep _ =>
    obtain rfl := Option.some.inj (hg.symm.trans hf')
    have hworkers := Speculative.step_knownOrStarted (hw.speculative f (List.mem_of_getElem? hf)) hstep
    refine ⟨hmove, f, g, ?_⟩
    rcases hx with hx | hx
    · obtain ⟨a, ha, rfl⟩ := List.mem_map.mp hx
      rcases hworkers.attempts a ha with hold | hbegun
      · exact absurd (.inl (List.mem_map_of_mem hold)) (hunheard f hf)
      · exact ⟨a, hf, hg, rfl, hbegun⟩
    · rcases hworkers.known x hx with hold | ⟨a, howner, hbegun⟩
      · exact absurd (.inr hold) (hunheard f hf)
      · exact ⟨a, hf, hg, howner, hbegun⟩
  | @tries f f' a _ hf ha hf' hstep _ =>
    obtain rfl := Option.some.inj (hg.symm.trans hf')
    obtain ⟨hattempts, hknown⟩ := Speculative.stepAttempt_knownOrStarted hstep
    refine absurd ?_ (hunheard f hf)
    rcases hx with hx | hx
    · obtain ⟨b', hb', rfl⟩ := List.mem_map.mp hx
      obtain ⟨b, hb, howner, -⟩ := hattempts b' hb'
      exact .inl (List.mem_map.mpr ⟨b, hb, howner⟩)
    · exact .inr (hknown ▸ hx)
  | stays _ hsame =>
    obtain ⟨f, hf, hbare⟩ := exists_of_map_eq hsame hg
    rw [Speculative.eq_of_bare hbare] at hx
    exact absurd hx (hunheard f hf)
  | starts _ _ hf _ hattempts howners hpoint =>
    obtain rfl := Option.some.inj (hg.symm.trans hf)
    rcases hx with hx | hx
    · simp [Speculative.working, hattempts] at hx
    · simp [Speculative.known, howners, hpoint, SpeculativePoint.recorded] at hx

/-- Whatever move is made, as long as the provider stays tracked. -/
theorem perform_obtainmentAdvances {w : World} {m : Move} (hw : w.IsSound)
    (hw' : (w.perform chance m).IsSound) (htracks : w.tracks i p = true) {g : Speculative}
    (hg : (w.perform chance m).speculative[i]? = some g) (hstays : p ∈ g.states.providers) :
    ∃ f, w.speculative[i]? = some f ∧ States.ObtainmentAdvances p f.states g.states := by
  have htracked : ∀ f, w.speculative[i]? = some f → p ∈ f.states.providers := by
    intro f hf
    simpa [tracks, hf] using htracks
  have hids' := (hw'.speculative g (List.mem_of_getElem? hg)).ids
  cases speculativeMove chance hw m i with
  | @acts f f' _ hf hf' hstep _ =>
    obtain rfl := Option.some.inj (hg.symm.trans hf')
    have hids := (hw.speculative f (List.mem_of_getElem? hf)).ids
    exact ⟨f, hf, Speculative.step_obtainmentAdvances hids (htracked f hf) hstep hids' hstays⟩
  | @tries f f' a _ hf ha hf' hstep _ =>
    obtain rfl := Option.some.inj (hg.symm.trans hf')
    have hids := (hw.speculative f (List.mem_of_getElem? hf)).ids
    exact ⟨f, hf, Speculative.stepAttempt_obtainmentAdvances hids (htracked f hf) hstep hids'⟩
  | stays _ hsame =>
    obtain ⟨f, hf, hbare⟩ := exists_of_map_eq hsame hg
    rw [Speculative.eq_of_bare hbare]
    exact ⟨f, hf, .refl p f.states⟩
  | starts _ _ hf hstates _ _ _ =>
    obtain rfl := Option.some.inj (hg.symm.trans hf)
    simp [States.providers, hstates] at hstays

/-- The provider is engaged for the fulfiller `i` by the attempt with this number and this token. -/
def engages (w : World) (i : Nat) (p : ProviderRef) (number : Nat) (token : Token) : Prop :=
  ∃ f, w.speculative[i]? = some f ∧
    ∃ o ∈ f.states, o.provider = p ∧ o.phase = .obtaining number token

end World

/-- By this step of its loop the fulfiller `i` starts the attempt. -/
def IsStart (chance : Chance) (before : List Move) (i : Nat) (a : Attempt) : Prop :=
  ∃ f g, (run chance before).world.speculative[i]? = some f ∧
    (run chance (before ++ [.step (.speculative i)])).world.speculative[i]? = some g ∧ f.StartsAttempt a g

/-- Whoever is heard of was started. -/
theorem exists_start {moves : List Move} (hears : (run chance moves).world.hearsOf i x) :
    ∃ before later a, moves = before ++ .step (.speculative i) :: later ∧ a.owner = x ∧
      IsStart chance before i a := by
  have hstart : ¬ ({} : World).hearsOf i x := by
    rintro ⟨f, hf, -⟩
    exact absurd hf (by simp)
  obtain ⟨before, m, later, rfl, hbefore, hsince⟩ :=
    exists_onset chance (P := fun w => w.hearsOf i x) hstart moves hears
  have hafter := hsince.first
  rw [run_concat] at hafter
  obtain ⟨rfl, f, g, a, hf, hg, howner, hbegun⟩ :=
    World.startsAttempt_of_hearsOf (run_isSound chance before) hbefore hafter
  rw [← run_concat] at hg
  exact ⟨before, later, a, rfl, howner, f, g, hf, hg, hbegun⟩

/-! ## While the provider stays tracked -/

section Tracked

variable {before later : List Move}

/-- What the last of some moves, all of which the provider is tracked after, did to its obtainment. -/
theorem obtainmentAdvances_last {m : Move} {g : Speculative} {o' : Obtainment Core}
    (htracks : Throughout chance (·.tracks i p = true) before (later ++ [m]))
    (hg : (run chance (before ++ (later ++ [m]))).world.speculative[i]? = some g) (ho' : o' ∈ g.states)
    (hp' : o'.provider = p) :
    ∃ f, (run chance (before ++ later)).world.speculative[i]? = some f ∧ ∃ o ∈ f.states, o.provider = p ∧
      o.started ≤ o'.started ∧ ∀ number token, o'.phase = .obtaining number token →
        o.phase = .obtaining number token ∨ o.started < number := by
  have hsound' := run_isSound chance (before ++ (later ++ [m]))
  rw [← List.append_assoc, run_concat] at hg hsound'
  obtain ⟨f, hf, hadvances⟩ := World.perform_obtainmentAdvances (run_isSound chance (before ++ later)) hsound'
    htracks.of_append.last hg (hp' ▸ List.mem_map_of_mem ho')
  exact ⟨f, hf, hadvances o' ho' hp'⟩

/-- The last attempt on the provider has no lower number than one that was started before. -/
theorem throughout_started (hstart : IsStart chance before i a)
    (htracks : Throughout chance (·.tracks i a.provider = true) (before ++ [.step (.speculative i)]) later) :
    Throughout chance (fun w => ∀ f, w.speculative[i]? = some f → ∀ o ∈ f.states,
      o.provider = a.provider → a.number ≤ o.started) (before ++ [.step (.speculative i)]) later := by
  induction later using List.reverseRecOn with
  | nil =>
    refine throughout_nil fun f hf o ho hop => ?_
    obtain ⟨f₀, g, -, hg, hbegun⟩ := hstart
    obtain rfl := Option.some.inj (hf.symm.trans hg)
    obtain ⟨q, hq, hqp, -, hstarted⟩ := hbegun.engaged
    have hids := ((run_isSound chance _).speculative f (List.mem_of_getElem? hf)).ids
    obtain rfl : o = q := List.inj_on_of_nodup_map hids ho hq (by rw [hop, hqp])
    exact Nat.le_of_eq hstarted.symm
  | append_singleton later m ih =>
    have hbefore := ih htracks.of_append
    refine hbefore.concat fun g hg o' ho' hop' => ?_
    obtain ⟨f, hf, o, ho, hop, hle, -⟩ := obtainmentAdvances_last htracks hg ho' hop'
    exact Nat.le_trans (hbefore.last f hf o ho hop) hle

/-- If the provider is engaged under the number of an attempt that was started before, it has been so since
then. -/
theorem throughout_engages {token : Token} (hstart : IsStart chance before i a)
    (htracks : Throughout chance (·.tracks i a.provider = true) (before ++ [.step (.speculative i)]) later)
    (hend : (run chance (before ++ [.step (.speculative i)] ++ later)).world.engages i a.provider a.number
      token) :
    Throughout chance (·.engages i a.provider a.number token) (before ++ [.step (.speculative i)]) later := by
  induction later using List.reverseRecOn with
  | nil => exact throughout_nil (by rwa [List.append_nil] at hend)
  | append_singleton later m ih =>
    refine (ih htracks.of_append ?_).concat hend
    obtain ⟨g, hg, o', ho', hop', hphase'⟩ := hend
    obtain ⟨f, hf, o, ho, hop, -, hphase⟩ := obtainmentAdvances_last htracks hg ho' hop'
    rcases hphase a.number token hphase' with hthere | hlower
    · exact ⟨f, hf, o, ho, hop, hthere⟩
    · have hnumber := (throughout_started hstart htracks.of_append).last f hf o ho hop
      exact absurd hnumber (Nat.not_le.mpr hlower)

/-- It is that attempt that engages it. -/
theorem throughout_engages_start (hstart : IsStart chance before i a)
    (htracks : Throughout chance (·.tracks i a.provider = true) (before ++ [.step (.speculative i)]) later)
    {f : Speculative} {o : Obtainment Core}
    (hf : (run chance (before ++ [.step (.speculative i)] ++ later)).world.speculative[i]? = some f)
    (ho : o ∈ f.states) (hop : o.provider = a.provider) (hcurrent : o.isCurrent a.number = true) :
    Throughout chance (·.engages i a.provider a.number a.token) (before ++ [.step (.speculative i)])
      later := by
  obtain ⟨token, hphase⟩ : ∃ token, o.phase = .obtaining a.number token := by
    unfold Obtainment.isCurrent at hcurrent
    split at hcurrent
    · rename_i number token hphase
      exact ⟨token, eq_of_beq hcurrent ▸ hphase⟩
    · exact absurd hcurrent Bool.false_ne_true
  have hsince := throughout_engages hstart htracks ⟨f, hf, o, ho, hop, hphase⟩
  -- Right after the start the token is the one that the attempt was given.
  obtain ⟨f₀, g, -, hg, hbegun⟩ := hstart
  obtain ⟨q, hq, hqp, hqphase, -⟩ := hbegun.engaged
  obtain ⟨g', hg', q', hq', hqp', hqphase'⟩ := hsince.first
  obtain rfl := Option.some.inj (hg.symm.trans hg')
  have hids := ((run_isSound chance _).speculative g (List.mem_of_getElem? hg)).ids
  obtain rfl : q = q' := List.inj_on_of_nodup_map hids hq hq' (by rw [hqp, hqp'])
  obtain ⟨-, rfl⟩ := ObtainmentPhase.obtaining.inj (hqphase.symm.trans hqphase')
  exact hsince

end Tracked

/-- An outcome ends the engagement of its own attempt.  Whenever a task reports the outcome of an attempt,
the attempt was started by an earlier step of the loop.  The report changes at most the obtainment from the
very provider object that the attempt was started on, and only while it is engaged under the number of the
attempt; if the provider has stayed tracked since the start, this engagement is the one that the start brought
about.  A core that is reported is held for that provider object, or is disposed of, or its attempt still
waits for the guard. -/
theorem outcome_ends_own_engagement (chance : Chance) {moves : List Move} {f : Speculative} {t : Task}
    (hf : (run chance moves).world.speculative[i]? = some f) (hreports : f.Reports i t x core) :
    ∃ before later a g, moves = before ++ .step (.speculative i) :: later ∧ a.owner = x ∧
      IsStart chance before i a ∧
      (run chance (moves ++ [.step t])).world.speculative[i]? = some g ∧
      (∀ o ∈ f.states, o ∉ g.states → o.provider = a.provider ∧ o.isCurrent a.number = true ∧
        (Throughout chance (·.tracks i a.provider = true) (before ++ [.step (.speculative i)]) later →
          Throughout chance (·.engages i a.provider a.number a.token)
            (before ++ [.step (.speculative i)]) later)) ∧
      ∀ c, core = some c → g.Receives
        ((run chance moves).world.news (run chance (moves ++ [.step t])).world) x c := by
  have hears : (run chance moves).world.hearsOf i x := by
    refine ⟨f, hf, ?_⟩
    cases hreports with
    | attempt ha _ => exact .inl (List.mem_map_of_mem ha)
    | panic hpoint => exact .inr (List.mem_append_right _ (by simp [hpoint, SpeculativePoint.recorded]))
  obtain ⟨before, later, a, rfl, rfl, hstart⟩ := exists_start hears
  obtain ⟨g, hg, htakes, hreceives⟩ := World.perform_of_reports (run_isSound chance _) hf hreports
  rw [← run_concat] at hg hreceives
  refine ⟨before, later, a, g, rfl, rfl, hstart, hg, fun o ho hgone => ?_, hreceives⟩
  obtain ⟨hprovider, hcurrent⟩ := htakes o ho hgone
  refine ⟨hprovider, hcurrent, fun htracks => ?_⟩
  have hsplit : before ++ .step (.speculative i) :: later = before ++ [.step (.speculative i)] ++ later := by
    simp
  rw [hsplit] at hf
  exact throughout_engages_start hstart htracks hf ho hprovider hcurrent

/-- A provider leaves the roster when its core has arrived and has not been reported yet. -/
def droppedProviderRun : List Move :=
  [Move.found, .enlist "P" "p" (.scripted [{}] { free := 1 }), .add 0 0, .speculative 0 0 {},
    .begin (.create 0 .preferRemote 1 [] none false)] ++ List.replicate 5 (Move.step (.speculative 0)) ++
  [Move.step (.errand 1), .step (.errand 1)] ++ List.replicate 5 (Move.step (.speculative 0)) ++
  [Move.step (.attempt 0 4), .step (.attempt 0 4), .remove 0 "p"] ++
  List.replicate 4 (Move.step (.speculative 0))

/-- The attempt that reports was started in that run, and its core is disposed of. -/
theorem outcome_ends_own_engagement_droppedProviderRun :
    let owner : Owner := ⟨4, ⟨0, "p"⟩, 1⟩
    let core : Core := ⟨6, "P", 1, "p", .immediate⟩
    let w := (run .plain droppedProviderRun).world
    let w' := (run .plain (droppedProviderRun ++ [.step (.attempt 0 4)])).world
    ∃ f before later a g, w.speculative[0]? = some f ∧ f.Reports 0 (.attempt 0 4) owner (some core) ∧
      droppedProviderRun = before ++ .step (.speculative 0) :: later ∧ a.owner = owner ∧
      IsStart .plain before 0 a ∧ w'.speculative[0]? = some g ∧ g.Receives (w.news w') owner core ∧
      .disposed core ∈ w.news w' := by
  intro owner core w w'
  have hthere : w.speculative[0]?.any (fun f => f.attempts.any fun a =>
      a.owner == owner && a.point == .settling (some core)) = true := by decide +kernel
  obtain ⟨f, hf, hattempt⟩ := (Option.any_eq_true _ _).mp hthere
  obtain ⟨b, hb, hthis⟩ := List.any_eq_true.mp hattempt
  simp only [Bool.and_eq_true, beq_iff_eq] at hthis
  obtain ⟨howner, hpoint⟩ := hthis
  have hreports : f.Reports 0 (.attempt 0 4) owner (some core) := by
    have hserial : b.serial = 4 := congrArg Owner.serial howner
    have hthis := Speculative.Reports.attempt (i := 0) hb hpoint
    rwa [hserial, howner] at hthis
  obtain ⟨before, later, a, g, hsplit, hstarted, hstart, hg, -, hreceives⟩ :=
    outcome_ends_own_engagement .plain hf hreports
  exact ⟨f, before, later, a, g, hf, hreports, hsplit, hstarted, hstart, hg, hreceives core rfl,
    by decide +kernel⟩

end CoreBroker
