import CoreBroker.Proofs.Speculative.Matching
set_option autoImplicit false

/-!
# What a speculative fulfiller asks its cores

In a pass cores are taken out of the obtainments one after the other, and each is asked whether it works.
Those that do are ready to be assigned at the end of the pass; those that do not are put aside, and disposed
of one after the other at the end of it.
-/

namespace CoreBroker

namespace SpeculativePoint

/-- The core that is asked at a point whether it works, and what the probe waits with. -/
def asked? : SpeculativePoint → Option (Core × Nat)
  | .probing _ _ held ticket _ _ => some (held.2, ticket)
  | _ => none

/-- The cores that were found to work in the pass under way. -/
def ready : SpeculativePoint → List Core
  | .probing _ ready _ _ _ _ | .matching ready _ => ready.map (·.2)
  | _ => []

/-- The cores that the loop has still to dispose of: at the end of the pass under way, or in turn. -/
def discarded : SpeculativePoint → List Core
  | .counting discarded | .probing _ _ _ _ _ discarded | .matching _ discarded => discarded
  | .discarding others | .dissolving others => others
  | _ => []

/-- Every core of a pass is ready, is asked, or was put aside. -/
theorem count_cores (point : SpeculativePoint) (core : Core) : point.cores.count core =
    point.ready.count core + (point.asked?.map (·.1)).toList.count core +
      point.discarded.count core := by
  cases point with
  | probing =>
    simp only [cores, ready, asked?, discarded, List.count_append, List.count_cons, Option.map_some,
      Option.toList_some, List.count_nil]
    omega
  | matching => simp [cores, ready, asked?, discarded]
  | counting | discarding | dissolving => simp [cores, ready, asked?, discarded]
  | _ => rfl

end SpeculativePoint

namespace Speculative

variable {chance : Chance} {f : Speculative} {s : Scene} {me ticket : Nat} {core : Core}

/-- The loop asks a core whether it works; `ticket` is what the probe waits with. -/
def Asks (f : Speculative) (core : Core) (ticket : Nat) : Prop := f.point.asked? = some (core, ticket)

/-- The loop has heard in the pass under way that a core works. -/
def Trusts (f : Speculative) (core : Core) : Prop := core ∈ f.point.ready

/-- An obtainment of the fulfiller holds a core. -/
def Keeps (f : Speculative) (core : Core) : Prop := ∃ o ∈ f.states, o.holds core = true

/-- The loop is going to dispose of a core, if not at once then at the end of the pass under way. -/
def PutsAside (f : Speculative) (core : Core) : Prop := core ∈ f.point.discarded

/-! ## One place at most -/

theorem held_eq (f : Speculative) (core : Core) : f.held core = f.delivered core + f.tracked core +
    (f.point.ready.count core + (f.point.asked?.map (·.1)).toList.count core +
      f.point.discarded.count core) := by
  rw [held, inLoop, SpeculativePoint.count_cores]

theorem Keeps.tracked_pos (hkeeps : f.Keeps core) : 0 < f.tracked core :=
  List.countP_pos_iff.mpr hkeeps

theorem Trusts.count_pos (htrusts : f.Trusts core) : 0 < f.point.ready.count core :=
  List.count_pos_iff.mpr htrusts

theorem PutsAside.count_pos (haside : f.PutsAside core) : 0 < f.point.discarded.count core :=
  List.count_pos_iff.mpr haside

theorem Asks.count_pos (hasks : f.Asks core ticket) :
    0 < (f.point.asked?.map (·.1)).toList.count core := by
  simp [show f.point.asked? = _ from hasks]

/-! ## What a step does with the cores of a pass -/

/-- The pass goes on: these cores are ready and these are put aside, and one that is asked came out of an
obtainment. -/
structure PassGoesOn (f : Speculative) (ready discarded : List Core) (f' : Speculative) : Prop where
  ready : f'.point.ready = ready
  discarded : f'.point.discarded = discarded
  asks : ∀ core ticket, f'.Asks core ticket → f.Keeps core

theorem keeps_of_takeCore? {states : States Core} {id : String}
    (htake : f.states.takeCore? id = some (core, states)) : f.Keeps core := by
  unfold States.takeCore? at htake
  cases hget : f.states.get? id with
  | none => simp [hget] at htake
  | some o =>
    cases hheld : o.take? with
    | none => simp [hget, hheld] at htake
    | some taken =>
      simp only [hget, hheld, Option.bind_some, Option.some.injEq, Prod.mk.injEq] at htake
      obtain ⟨rfl, -⟩ := htake
      obtain ⟨hphase, -⟩ := Obtainment.of_take? (show o.take? = some (taken.1, taken.2) from hheld)
      refine ⟨o, (States.get?_eq_some hget).1, ?_⟩
      rw [Obtainment.holds_of_holding hphase]
      exact decide_eq_true rfl

theorem nextHolder_passGoesOn (pending : Nat) (ready : List Ready) (discarded : List Core) (s : Scene)
    (holders : List String) :
    f.PassGoesOn (ready.map (·.2)) discarded (f.nextHolder pending ready discarded s holders).1 := by
  have hmatching : f.PassGoesOn (ready.map (·.2)) discarded (f.goTo (.matching ready discarded)) :=
    ⟨rfl, rfl, fun _ _ hasks => absurd hasks (by simp [Asks, goTo, SpeculativePoint.asked?])⟩
  induction holders with
  | nil => exact hmatching
  | cons id rest ih =>
    unfold nextHolder
    split
    · exact hmatching
    · cases htake : f.states.takeCore? id with
      | none => exact ih
      | some taken =>
        refine ⟨rfl, rfl, fun core ticket hasks => ?_⟩
        obtain ⟨rfl, -⟩ := Prod.mk.inj (Option.some.inj hasks)
        exact keeps_of_takeCore? htake

theorem count_passGoesOn (discarded : List Core) (board : Board) (s : Scene) :
    f.PassGoesOn [] discarded (f.count chance discarded board s).1 := by
  unfold count
  simp only
  split
  · exact ⟨rfl, rfl, fun _ _ hasks => absurd hasks (by simp [Asks, goTo, SpeculativePoint.asked?])⟩
  · exact nextHolder_passGoesOn _ [] discarded _ _

/-- What a step of the loop is to the cores of a pass. -/
inductive PassStep (f : Speculative) (s : Scene) : Speculative × Scene → Prop
  /-- The loop stays where it is. -/
  | stays {r : Speculative × Scene} (hpoint : r.1.point = f.point) : PassStep f s r
  /-- No pass is under way. -/
  | apart {r : Speculative × Scene} (hcores : f.point.cores = []) (hcores' : r.1.point.cores = []) :
      PassStep f s r
  /-- A pass begins. -/
  | begins {r : Speculative × Scene} {discarded : List Core} (hcores : f.point.cores = [])
      (hpoint : r.1.point = .counting discarded) : PassStep f s r
  /-- The requests are counted, and a core may be taken. -/
  | counts {r : Speculative × Scene} {discarded : List Core} (hpoint : f.point = .counting discarded)
      (hgoesOn : f.PassGoesOn [] discarded r.1) : PassStep f s r
  /-- The core that was asked works. -/
  | accepts {r : Speculative × Scene} {core : Core} {ticket : Nat} (hasks : f.Asks core ticket)
      (hanswers : s.Answers core ticket f.shutdown true)
      (hgoesOn : f.PassGoesOn (f.point.ready ++ [core]) f.point.discarded r.1) : PassStep f s r
  /-- The core that was asked does not work. -/
  | rejects {r : Speculative × Scene} {core : Core} {ticket : Nat} (hasks : f.Asks core ticket)
      (hgoesOn : f.PassGoesOn f.point.ready (f.point.discarded ++ [core]) r.1) : PassStep f s r
  /-- The pass is over or none is under way, and of the cores that were put aside the first one is
  disposed of. -/
  | disposes {r : Speculative × Scene} {gone : List Core} {wait : List Core → SpeculativePoint}
      {next : SpeculativePoint} (hpoint : r.1.point = .inTurn wait next gone)
      (hwait : ∀ others, (wait others).ready = [] ∧ (wait others).asked? = none ∧
        (wait others).discarded = others)
      (hnext : next.ready = [] ∧ next.asked? = none)
      (hgone : ∀ core, f.PutsAside core → core ∈ gone)
      (hdisposed : ∀ events, r.2.story = events ++ s.story →
        ∀ core ∈ gone.take 1, .disposed core ∈ events) : PassStep f s r

theorem turn_cores (f : Speculative) (s : Scene) : (f.turn s).1.point.cores = [] := by
  unfold turn
  split <;> rfl

theorem noticeExit_cores (f : Speculative) (exit : Exit) (s : Scene) :
    (f.noticeExit exit s).1.point.cores = [] := by
  unfold noticeExit
  simp only
  split
  · split <;> rfl
  · exact turn_cores _ _

/-- Disposing of the first of the cores that were put aside. -/
theorem disposeInTurn_passStep {wait : List Core → SpeculativePoint} {next : SpeculativePoint}
    {cores : List Core} {g : Speculative} {s₁ : Scene} (events : List Event)
    (hwait : ∀ others, (wait others).ready = [] ∧ (wait others).asked? = none ∧
      (wait others).discarded = others)
    (hnext : next.ready = [] ∧ next.asked? = none) (hgone : ∀ core, f.PutsAside core → core ∈ cores)
    (hstory : s₁.story = events ++ s.story) : PassStep f s (g.disposeInTurn s₁ wait next cores) := by
  refine .disposes (by rw [disposeInTurn_eq]; rfl) hwait hnext hgone fun later hlater core hcore => ?_
  rw [disposeInTurn_story, hstory, ← List.append_assoc] at hlater
  rw [← List.append_cancel_right hlater]
  exact List.mem_append_left _ (List.mem_map_of_mem hcore)

/-- Every step is one of those listed. -/
theorem step_passStep (hsound : f.IsSound s.nextSerial) {r : Speculative × Scene}
    (hstep : f.step chance me s = some r) : PassStep f s r := by
  cases step_loopStep hstep with
  | joins _ | waits _ | noticesLate _ _ => exact .stays rfl
  | begins hpoint | wakes hpoint | resumes hpoint =>
    exact .apart (by rw [hpoint]; rfl) (turn_cores _ _)
  | reconciles hpoint _ => exact .begins (by rw [hpoint]; rfl) rfl
  | counts hpoint _ _ => exact .counts hpoint (count_passGoesOn _ _ _)
  | @judges pending ready held ticket holders discarded s₁ hpoint _ isAlive hlook =>
    have hasks : f.Asks held.2 ticket := by
      rw [Asks, hpoint]
      rfl
    cases isAlive with
    | true =>
      refine .accepts hasks ⟨s₁, hlook⟩ ?_
      have hgoesOn := nextHolder_passGoesOn (f := f) pending (ready ++ [held]) discarded s₁ holders
      rw [List.map_append] at hgoesOn
      rw [hpoint]
      exact hgoesOn
    | false =>
      refine .rejects hasks ?_
      rw [hpoint]
      exact nextHolder_passGoesOn pending ready (discarded ++ [held.2]) _ holders
  | @assigns ready discarded board s₁ hpoint haside _ =>
    obtain ⟨matched, placed, gone, -, hgone, hthere, htells⟩ := finishPass_tells chance me ready
      discarded board s₁ hsound.ids
    refine .disposes hthere (fun _ => ⟨rfl, rfl, rfl⟩) ⟨rfl, rfl⟩ (fun core hcore => ?_)
      fun events hstory core hcore => ?_
    · rw [PutsAside, hpoint] at hcore
      exact hgone hcore
    · rw [haside.story, ← List.append_assoc] at htells
      rw [List.append_cancel_right (hstory.symm.trans htells)]
      exact List.mem_append_left _ (List.mem_map_of_mem hcore)
  | discards hpoint =>
    refine disposeInTurn_passStep [] (fun _ => ⟨rfl, rfl, rfl⟩) ⟨rfl, rfl⟩
      (fun core hcore => ?_) rfl
    rwa [PutsAside, hpoint] at hcore
  | dissolves hpoint =>
    refine disposeInTurn_passStep [] (fun _ => ⟨rfl, rfl, rfl⟩) ⟨rfl, rfl⟩
      (fun core hcore => ?_) rfl
    rwa [PutsAside, hpoint] at hcore
  | releases hpoint =>
    refine disposeInTurn_passStep [] (fun _ => ⟨rfl, rfl, rfl⟩) ⟨rfl, rfl⟩
      (fun core hcore => ?_) (Scene.aside_foldl Scene.aside_fire _ s).story
    rw [PutsAside, hpoint] at hcore
    exact absurd hcore List.not_mem_nil
  | stops hpoint _ | records hpoint | finishes hpoint _ =>
    exact .apart (by rw [hpoint]; rfl) rfl
  | notices hpoint _ => exact .apart (by rw [hpoint]; rfl) (noticeExit_cores _ _ _)

theorem stepAttempt_point {a : Attempt} {r : Speculative × Scene}
    (hstep : f.stepAttempt me a s = some r) : r.1.point = f.point := by
  cases stepAttempt_attemptStep hstep with
  | @receives _ result _ _ _ => cases result <;> rfl
  | settles _ _ =>
    unfold settle
    simp only
    split <;> rfl
  | _ => rfl

/-! ## What follows -/

theorem not_trusts (hcores : f.point.cores = []) (core : Core) : ¬ f.Trusts core := by
  intro htrusts
  have hpos := htrusts.count_pos
  have hcount := f.point.count_cores core
  rw [hcores] at hcount
  simp only [List.count_nil] at hcount
  omega

theorem not_asks (hcores : f.point.cores = []) (core : Core) (ticket : Nat) : ¬ f.Asks core ticket := by
  intro hasks
  have hpos := hasks.count_pos
  have hcount := f.point.count_cores core
  rw [hcores] at hcount
  simp only [List.count_nil] at hcount
  omega

/-- A core that the loop comes to ask came out of an obtainment. -/
theorem PassStep.keeps {r : Speculative × Scene} (hpass : f.PassStep s r)
    (hbefore : ¬ f.Asks core ticket) (hasks : r.1.Asks core ticket) : f.Keeps core := by
  cases hpass with
  | stays hpoint =>
    rw [Asks, hpoint] at hasks
    exact absurd hasks hbefore
  | apart _ hcores' => exact absurd hasks (not_asks hcores' core ticket)
  | begins _ hpoint => exact absurd hasks (by simp [Asks, hpoint, SpeculativePoint.asked?])
  | counts _ hgoesOn | accepts _ _ hgoesOn | rejects _ hgoesOn => exact hgoesOn.asks core ticket hasks
  | @disposes gone wait next hpoint hwait hnext _ _ =>
    rw [Asks, hpoint] at hasks
    have hnobody := SpeculativePoint.of_inTurn (P := (·.asked? = none)) (fun others => (hwait others).2.1)
      hnext.2 gone
    exact absurd (hnobody.symm.trans hasks) (by simp)

/-- The loop comes to trust a core by being told that it works. -/
theorem PassStep.answers {r : Speculative × Scene} (hpass : f.PassStep s r)
    (hbefore : ¬ f.Trusts core) (htrusts : r.1.Trusts core) :
    ∃ ticket, f.Asks core ticket ∧ s.Answers core ticket f.shutdown true := by
  cases hpass with
  | stays hpoint =>
    rw [Trusts, hpoint] at htrusts
    exact absurd htrusts hbefore
  | apart _ hcores' => exact absurd htrusts (not_trusts hcores' core)
  | begins _ hpoint => exact absurd htrusts (by simp [Trusts, hpoint, SpeculativePoint.ready])
  | counts _ hgoesOn => exact absurd htrusts (by simp [Trusts, hgoesOn.ready])
  | @accepts accepted ticket hasks hanswers hgoesOn =>
    rw [Trusts, hgoesOn.ready, List.mem_append, List.mem_singleton] at htrusts
    obtain rfl := htrusts.resolve_left hbefore
    exact ⟨ticket, hasks, hanswers⟩
  | rejects _ hgoesOn =>
    rw [Trusts, hgoesOn.ready] at htrusts
    exact absurd htrusts hbefore
  | @disposes gone wait next hpoint hwait hnext _ _ =>
    rw [Trusts, hpoint] at htrusts
    rw [SpeculativePoint.of_inTurn (P := (·.ready = [])) (fun others => (hwait others).1) hnext.1 gone]
      at htrusts
    exact absurd htrusts List.not_mem_nil

/-- What was put aside stays so until it is disposed of. -/
theorem PassStep.putsAside {r : Speculative × Scene} (hpass : f.PassStep s r) {events : List Event}
    (hstory : r.2.story = events ++ s.story) (haside : f.PutsAside core) :
    r.1.PutsAside core ∨ .disposed core ∈ events := by
  have hnone : f.point.cores ≠ [] := fun hcores => by
    have hpos := haside.count_pos
    have hcount := f.point.count_cores core
    rw [hcores] at hcount
    simp only [List.count_nil] at hcount
    omega
  cases hpass with
  | stays hpoint =>
    refine .inl ?_
    rwa [PutsAside, hpoint]
  | apart hcores _ | begins hcores _ => exact absurd hcores hnone
  | counts hpoint hgoesOn =>
    rw [PutsAside, hpoint] at haside
    refine .inl ?_
    rwa [PutsAside, hgoesOn.discarded]
  | accepts _ _ hgoesOn =>
    refine .inl ?_
    rwa [PutsAside, hgoesOn.discarded]
  | rejects _ hgoesOn =>
    refine .inl ?_
    rw [PutsAside, hgoesOn.discarded]
    exact List.mem_append_left _ haside
  | @disposes gone wait next hpoint hwait _ hgone hdisposed =>
    -- The first of them is disposed of, and the others are still put aside.
    have hcore := hgone core haside
    cases gone with
    | nil => exact absurd hcore List.not_mem_nil
    | cons first others =>
      rcases List.mem_cons.mp hcore with rfl | hrest
      · exact .inr (hdisposed events hstory core (by simp))
      · refine .inl ?_
        rw [PutsAside, hpoint, SpeculativePoint.inTurn, (hwait others).2.2]
        exact hrest

/-- A core of which the loop is told that it does not work is put aside. -/
theorem step_putsAside (chance : Chance) (me : Nat) (hasks : f.Asks core ticket) {s₁ : Scene}
    (hlook : s.lookAtProbe core ticket f.shutdown = .answered false s₁) :
    ∃ r, f.step chance me s = some r ∧ r.1.PutsAside core := by
  unfold Asks SpeculativePoint.asked? at hasks
  split at hasks
  · rename_i pending ready held ticket' holders discarded hpoint
    obtain ⟨rfl, rfl⟩ := Prod.mk.inj (Option.some.inj hasks)
    refine ⟨f.judge pending ready held holders discarded false s₁, ?_, ?_⟩
    · simp only [step, hpoint, hlook]
    · have hgoesOn := nextHolder_passGoesOn (f := f) pending ready (discarded ++ [held.2])
        (f.trace (s₁.report .debug "Held core is not alive, disposing" [providerField held.1])
          (("dead core from " ++ held.1 : String))) holders
      show held.2 ∈ _
      rw [judge, if_neg Bool.false_ne_true, hgoesOn.discarded]
      exact List.mem_append_right _ (List.mem_singleton.mpr rfl)
  · exact absurd hasks (by simp)

end Speculative

end CoreBroker
