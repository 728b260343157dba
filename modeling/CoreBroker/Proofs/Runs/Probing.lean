import CoreBroker.Proofs.Dedicated.Probing
import CoreBroker.Proofs.Runs.Locality
import CoreBroker.Proofs.Speculative.Ownership
import CoreBroker.Proofs.Speculative.Probing
set_option autoImplicit false

/-!
# Only cores that work are assigned

Cores are kept, put back and offered again over many passes, and any of them may stop working in between.
So a loop that takes a core asks it anew, and an answer counts only until the core is put back.
-/

namespace CoreBroker

/-- Those who deal with the same cores as a task: the tasks of its fulfiller. -/
def Task.team : Task → Task → Bool
  | .speculative i | .attempt i _ => Task.isOfTeam i
  | t => (· == t)

namespace World

variable (w : World) (t : Task) (core : Core)

/-- The loop `t` asks a core whether it works; `ticket` is what the probe waits with. -/
def Asks (ticket : Nat) : Prop :=
  match t with
  | .dedicated i => ∃ f, w.dedicated[i]? = some f ∧ f.Asks core ticket
  | .speculative i => ∃ f, w.speculative[i]? = some f ∧ f.Asks core ticket
  | _ => False

/-- The probe of the core that the loop `t` asks has this answer. -/
def IsTold (isAlive : Bool) : Prop :=
  match t with
  | .dedicated i => ∃ f ticket, w.dedicated[i]? = some f ∧ f.Asks core ticket ∧
      w.scene.Answers core ticket f.shutdown isAlive
  | .speculative i => ∃ f ticket, w.speculative[i]? = some f ∧ f.Asks core ticket ∧
      w.scene.Answers core ticket f.shutdown isAlive
  | _ => False

/-- The loop `t` has been told that a core works, and has not let go of it since. -/
def Trusts : Prop :=
  match t with
  | .dedicated i => ∃ f, w.dedicated[i]? = some f ∧ f.Trusts core
  | .speculative i => ∃ f, w.speculative[i]? = some f ∧ f.Trusts core
  | _ => False

/-- The fulfiller with the loop `t` keeps a core for later: as the spare one, or in an obtainment. -/
def Keeps : Prop :=
  match t with
  | .dedicated i => ∃ f, w.dedicated[i]? = some f ∧ f.Keeps core
  | .speculative i => ∃ f, w.speculative[i]? = some f ∧ f.Keeps core
  | _ => False

/-- The loop `t` is going to dispose of a core at the end of the pass under way. -/
def PutsAside : Prop :=
  match t with
  | .speculative i => ∃ f, w.speculative[i]? = some f ∧ f.PutsAside core
  | _ => False

/-- The next step of the loop `t` takes a core that was kept, is handed out or is refused. -/
def Takes (chance : Chance) : Prop :=
  w.Keeps t core ∨ .minted core ∈ w.news (w.perform chance (.step t)) ∨
    ∃ b id, .refused b id core ∈ w.news (w.perform chance (.step t))

end World

/-- The loop `t` looks a core over: after the moves `first` it takes the core and begins to ask it, asks it
throughout the moves `second`, is told then that it works, and does not let go of it throughout the moves
`third`. -/
structure LooksOver (chance : Chance) (t : Task) (core : Core) (ticket : Nat)
    (first second third : List Move) : Prop where
  taken : (run chance first).world.Takes t core chance
  new : ¬ (run chance first).world.Asks t core ticket
  asked : Throughout chance (·.Asks t core ticket) (first ++ [.step t]) second
  told : (run chance (first ++ .step t :: second)).world.IsTold t core true
  trusted : Throughout chance (·.Trusts t core) (first ++ .step t :: (second ++ [.step t])) third

/-- The fulfiller with the loop `t` is rid of a core, or is going to be when the pass under way ends. -/
structure Chronicle.IsRidOf (c : Chronicle) (t : Task) (core : Core) : Prop where
  kept : ¬ c.world.Keeps t core
  asked : ∀ ticket, ¬ c.world.Asks t core ticket
  trusted : ¬ c.world.Trusts t core
  unassigned : (c.doneBy t.team).countP (·.assigns core) = 0
  disposed : (c.doneBy t.team).count (.disposed core) = 1 ∧ ¬ c.world.PutsAside t core ∨
    (c.doneBy t.team).count (.disposed core) = 0 ∧ c.world.PutsAside t core

/-! ## One move -/

section Move

variable {chance : Chance} {w : World} {m : Move} {t : Task} {core : Core} {ticket : Nat}

/-- Whatever comes to be true of the point of a speculative fulfiller comes to be true by a step of its
loop. -/
theorem speculative_onset {P : SpeculativePoint → Prop} (hstart : ¬ P .starting) (hw : w.IsSound)
    {i : Nat} {f' : Speculative} (hf' : (w.perform chance m).speculative[i]? = some f') (hP : P f'.point)
    (hbefore : ∀ f, w.speculative[i]? = some f → ¬ P f.point) :
    ∃ f, m = .step (.speculative i) ∧ w.speculative[i]? = some f ∧
      f.PassStep w.scene (f', (w.perform chance m).scene) := by
  cases World.speculativeMove chance hw m i with
  | @acts f g hmove hf hg hstep _ =>
    obtain rfl := Option.some.inj (hf'.symm.trans hg)
    exact ⟨f, hmove, hf, Speculative.step_passStep (hw.speculative f (List.mem_of_getElem? hf)) hstep⟩
  | @tries f g a _ hf _ hg hstep _ =>
    obtain rfl := Option.some.inj (hf'.symm.trans hg)
    rw [Speculative.stepAttempt_point hstep] at hP
    exact absurd hP (hbefore f hf)
  | stays _ hsame =>
    obtain ⟨f, hf, hbare⟩ := exists_of_map_eq hsame hf'
    rw [Speculative.eq_of_bare hbare] at hP
    exact absurd hP (hbefore f hf)
  | starts _ _ hf _ _ _ hpoint =>
    obtain rfl := Option.some.inj (hf'.symm.trans hf)
    rw [hpoint] at hP
    exact absurd hP hstart

/-- The loop comes to ask a core by a step that takes the core. -/
theorem asks_of_perform (hw : w.IsSound) (hbefore : ¬ w.Asks t core ticket)
    (hasks : (w.perform chance m).Asks t core ticket) : m = .step t ∧ w.Takes t core chance := by
  cases t with
  | dedicated i =>
    obtain ⟨f', hf', hasks⟩ := hasks
    obtain ⟨f, rfl, hf, hstep, hsteps⟩ := World.dedicated_onset (P := (·.Asks core ticket))
      (fun _ _ h => h) (fun _ _ hpoint => by simp [Dedicated.Asks, hpoint]) hw hf' hasks
      (fun f hf h => hbefore ⟨f, hf, h⟩)
    rcases Dedicated.step_asks (hw.dedicated f (List.mem_of_getElem? hf)) hstep hsteps.flow
      (fun h => hbefore ⟨f, hf, h⟩) hasks with hkept | hminted | ⟨id, hrefused⟩
    · exact ⟨rfl, .inl ⟨f, hf, hkept⟩⟩
    · exact ⟨rfl, .inr (.inl hminted)⟩
    · exact ⟨rfl, .inr (.inr ⟨f.board, id, hrefused⟩)⟩
  | speculative i =>
    obtain ⟨f', hf', hasks⟩ := hasks
    obtain ⟨f, hmove, hf, hpass⟩ := speculative_onset (P := (·.asked? = some (core, ticket)))
      (by simp [SpeculativePoint.asked?]) hw hf' hasks (fun f hf h => hbefore ⟨f, hf, h⟩)
    exact ⟨hmove, .inl ⟨f, hf, hpass.keeps (fun h => hbefore ⟨f, hf, h⟩) hasks⟩⟩
  | attempt i n => exact hasks.elim
  | errand n => exact hasks.elim

/-- The loop comes to trust a core by a step in which it is told that the core works. -/
theorem trusts_of_perform (hw : w.IsSound) (hbefore : ¬ w.Trusts t core)
    (htrusts : (w.perform chance m).Trusts t core) : m = .step t ∧ w.IsTold t core true := by
  cases t with
  | dedicated i =>
    obtain ⟨f', hf', htrusts⟩ := htrusts
    obtain ⟨f, hmove, hf, hstep, -⟩ := World.dedicated_onset (P := (·.Trusts core)) (fun _ _ h => h)
      (fun _ _ hpoint => by simp [Dedicated.Trusts, hpoint]) hw hf' htrusts
      (fun f hf h => hbefore ⟨f, hf, h⟩)
    obtain ⟨ticket, hasks, hanswers⟩ := Dedicated.step_trusts hstep (fun h => hbefore ⟨f, hf, h⟩) htrusts
    exact ⟨hmove, f, ticket, hf, hasks, hanswers⟩
  | speculative i =>
    obtain ⟨f', hf', htrusts⟩ := htrusts
    obtain ⟨f, hmove, hf, hpass⟩ := speculative_onset (P := (core ∈ ·.ready))
      (by simp [SpeculativePoint.ready]) hw hf' htrusts (fun f hf h => hbefore ⟨f, hf, h⟩)
    obtain ⟨ticket, hasks, hanswers⟩ := hpass.answers (fun h => hbefore ⟨f, hf, h⟩) htrusts
    exact ⟨hmove, f, ticket, hf, hasks, hanswers⟩
  | attempt i n => exact htrusts.elim
  | errand n => exact htrusts.elim

theorem asks_of_isTold {isAlive : Bool} (htold : w.IsTold t core isAlive) :
    ∃ ticket, w.Asks t core ticket := by
  cases t with
  | dedicated i | speculative i =>
    obtain ⟨f, ticket, hf, hasks, -⟩ := htold
    exact ⟨ticket, f, hf, hasks⟩
  | attempt i n => exact htold.elim
  | errand n => exact htold.elim

/-- What a loop has put aside stays so until the loop disposes of it. -/
theorem putsAside_of_perform (hw : w.IsSound) (haside : w.PutsAside t core) :
    (w.perform chance m).PutsAside t core ∨
      m = .step t ∧ .disposed core ∈ w.news (w.perform chance m) := by
  cases t with
  | speculative i =>
    obtain ⟨f, hf, haside⟩ := haside
    cases World.speculativeMove chance hw m i with
    | @acts g f' hmove hg hf' hstep haccounts =>
      obtain rfl := Option.some.inj (hf.symm.trans hg)
      have hpass := Speculative.step_passStep (hw.speculative f (List.mem_of_getElem? hf)) hstep
      rcases hpass.putsAside haccounts.acts.story_eq haside with hstill | hdisposed
      · exact .inl ⟨f', hf', hstill⟩
      · exact .inr ⟨hmove, hdisposed⟩
    | @tries g f' a _ hg _ hf' hstep _ =>
      obtain rfl := Option.some.inj (hf.symm.trans hg)
      refine .inl ⟨f', hf', ?_⟩
      rwa [Speculative.PutsAside, Speculative.stepAttempt_point hstep]
    | stays _ hsame =>
      obtain ⟨f', hf', hbare⟩ := exists_of_map_eq hsame.symm hf
      refine .inl ⟨f', hf', ?_⟩
      rw [Speculative.eq_of_bare hbare.symm]
      exact haside
    | starts _ hnone _ _ _ _ _ => exact absurd (hnone.symm.trans hf) (by simp)
  | dedicated i => exact haside.elim
  | attempt i n => exact haside.elim
  | errand n => exact haside.elim

end Move

/-! ## Runs -/

section Run

variable {chance : Chance} {moves : List Move} {t : Task} {b id : Nat} {core : Core}

/-- A core that a loop trusts was looked over. -/
theorem looksOver_of_trusts (htrusts : (run chance moves).world.Trusts t core) :
    ∃ ticket first second third, moves = first ++ .step t :: (second ++ .step t :: third) ∧
      LooksOver chance t core ticket first second third := by
  obtain ⟨before, m, third, rfl, hnot, htrusted⟩ := exists_onset chance (P := (·.Trusts t core))
    (fun h => by cases t <;> simp [World.Trusts] at h) moves htrusts
  have hthen := htrusted.first
  rw [run_concat] at hthen
  obtain ⟨rfl, htold⟩ := trusts_of_perform (run_isSound chance before) hnot hthen
  obtain ⟨ticket, hasks⟩ := asks_of_isTold htold
  obtain ⟨first, m, second, rfl, hnew, hasked⟩ := exists_onset chance (P := (·.Asks t core ticket))
    (fun h => by cases t <;> simp [World.Asks] at h) before hasks
  have hthen := hasked.first
  rw [run_concat] at hthen
  obtain ⟨rfl, htakes⟩ := asks_of_perform (run_isSound chance first) hnew hthen
  refine ⟨ticket, first, second, third, by simp, htakes, hnew, hasked, htold, ?_⟩
  simpa using htrusted

/-- A loop trusts the core that it assigns, and attempts assign none. -/
theorem trusts_of_assigned (ht : t.isErrand = false)
    (hassigned : (run chance moves).world.Changes chance t b (.assigned id core)) :
    (run chance moves).world.Trusts t core := by
  have hw := run_isSound chance moves
  cases t with
  | dedicated i =>
    obtain ⟨f, f', hf, -, hsteps⟩ := World.dedicated_of_mem_news hw hassigned
    obtain ⟨-, hclaim⟩ := hsteps.flow.claims_of_assigned hassigned
    refine ⟨f, hf, .inr ⟨id, ?_⟩⟩
    rw [Dedicated.claim?] at hclaim
    cases hpoint : f.point with
    | placing core' id' =>
      rw [hpoint] at hclaim
      obtain ⟨rfl, rfl⟩ := Prod.mk.inj (Option.some.inj hclaim)
      rfl
    | _ => simp [hpoint, DedicatedPoint.claim?] at hclaim
  | speculative i =>
    obtain ⟨f, f', hf, hstep, haccounts⟩ := World.speculative_of_mem_news hw hassigned
    obtain ⟨ready, discarded, hpoint, hready⟩ := (Speculative.step_matches hw.scene.stage
      (hw.speculative f (List.mem_of_getElem? hf)) hstep haccounts.acts.story_eq hassigned).point
    refine ⟨f, hf, ?_⟩
    rw [Speculative.Trusts, hpoint]
    exact hready b id core hassigned
  | attempt i n => exact absurd hassigned attempt_changes_nothing
  | errand n => exact absurd ht (by simp [Task.isErrand])

/-- A fulfiller has a core in one place at most: what it keeps is neither trusted nor assigned. -/
theorem not_trusts_of_keeps (hkeeps : (run chance moves).world.Keeps t core) :
    ¬ (run chance moves).world.Trusts t core ∧
      ∀ b id, .changed b (.assigned id core) ∉ (run chance moves).doneBy t.team := by
  have hspent : ∀ {b id}, .changed b (.assigned id core) ∈ (run chance moves).doneBy t.team →
      0 < spent core ((run chance moves).doneBy t.team) := fun hmem =>
    Nat.lt_of_lt_of_le (List.countP_pos_iff.mpr ⟨_, hmem, decide_eq_true rfl⟩) (Nat.le_add_right _ _)
  have honce : ((run chance moves).doneBy t.team).count (.minted core) ≤ 1 :=
    Chronicle.count_minted_doneBy moves t.team core
  cases t with
  | dedicated i =>
    obtain ⟨f, hf, hkeeps⟩ := hkeeps
    have hsound := (run_isSound chance moves).dedicated f (List.mem_of_getElem? hf)
    refine ⟨?_, fun b id hmem => ?_⟩
    · rintro ⟨g, hg, htrusts⟩
      obtain rfl := Option.some.inj (hf.symm.trans hg)
      exact hkeeps.not_trusts hsound htrusts
    · have hpos := List.count_pos_iff.mpr hkeeps.mem_cores
      have hbalance := (dedicated_balanced chance moves hf).cores core
      have hspent := hspent hmem
      simp only [Task.team] at hspent honce
      omega
  | speculative i =>
    obtain ⟨f, hf, hkeeps⟩ := hkeeps
    have hpos := hkeeps.tracked_pos
    have hbalance := speculative_balanced chance moves hf core
    have hheld := f.held_eq core
    simp only [Task.team] at hspent honce ⊢
    refine ⟨?_, fun b id hmem => ?_⟩
    · rintro ⟨g, hg, htrusts⟩
      obtain rfl := Option.some.inj (hf.symm.trans hg)
      have hready := htrusts.count_pos
      omega
    · have hspent := hspent hmem
      omega
  | attempt i n => exact hkeeps.elim
  | errand n => exact hkeeps.elim

/-- A dedicated fulfiller is rid of a core that it has disposed of. -/
theorem dedicated_isRidOf {i : Nat} {f : Dedicated}
    (hf : (run chance moves).world.dedicated[i]? = some f)
    (hdisposed : .disposed core ∈ (run chance moves).doneBy (· == .dedicated i)) :
    (run chance moves).IsRidOf (.dedicated i) core := by
  have honce : ((run chance moves).doneBy (· == .dedicated i)).count (.minted core) ≤ 1 :=
    Chronicle.count_minted_doneBy moves _ core
  have hbalance := (dedicated_balanced chance moves hf).cores core
  have hpos := List.count_pos_iff.mpr hdisposed
  rw [spent] at hbalance
  have hnone : core ∉ f.cores := fun hmem => by
    have hheld := List.count_pos_iff.mpr hmem
    omega
  refine ⟨?_, ?_, ?_, ?_, .inl ⟨?_, id⟩⟩
  · rintro ⟨g, hg, hkeeps⟩
    obtain rfl := Option.some.inj (hf.symm.trans hg)
    exact hnone hkeeps.mem_cores
  · rintro ticket ⟨g, hg, hasks⟩
    obtain rfl := Option.some.inj (hf.symm.trans hg)
    exact hnone hasks.mem_cores
  · rintro ⟨g, hg, htrusts⟩
    obtain rfl := Option.some.inj (hf.symm.trans hg)
    exact hnone htrusts.mem_cores
  · simp only [Task.team]
    omega
  · simp only [Task.team]
    omega

/-- A speculative fulfiller is rid of a core that it has disposed of or put aside. -/
theorem speculative_isRidOf {i : Nat} {f : Speculative}
    (hf : (run chance moves).world.speculative[i]? = some f)
    (hgone : f.PutsAside core ∨ .disposed core ∈ (run chance moves).doneBy (Task.isOfTeam i)) :
    (run chance moves).IsRidOf (.speculative i) core := by
  have honce : ((run chance moves).doneBy (Task.isOfTeam i)).count (.minted core) ≤ 1 :=
    Chronicle.count_minted_doneBy moves _ core
  have hbalance := speculative_balanced chance moves hf core
  rw [f.held_eq, spent] at hbalance
  have hpos : 0 < f.point.discarded.count core +
      ((run chance moves).doneBy (Task.isOfTeam i)).count (.disposed core) := by
    rcases hgone with haside | hdisposed
    · exact Nat.lt_of_lt_of_le haside.count_pos (Nat.le_add_right _ _)
    · exact Nat.lt_of_lt_of_le (List.count_pos_iff.mpr hdisposed) (Nat.le_add_left _ _)
  refine ⟨?_, ?_, ?_, ?_, ?_⟩
  · rintro ⟨g, hg, hkeeps⟩
    obtain rfl := Option.some.inj (hf.symm.trans hg)
    have hheld := hkeeps.tracked_pos
    omega
  · rintro ticket ⟨g, hg, hasks⟩
    obtain rfl := Option.some.inj (hf.symm.trans hg)
    have hheld := hasks.count_pos
    omega
  · rintro ⟨g, hg, htrusts⟩
    obtain rfl := Option.some.inj (hf.symm.trans hg)
    have hheld := htrusts.count_pos
    omega
  · simp only [Task.team]
    omega
  · simp only [Task.team]
    by_cases haside : f.PutsAside core
    · have hheld := haside.count_pos
      exact .inr ⟨by omega, f, hf, haside⟩
    · refine .inl ⟨?_, ?_⟩
      · rw [Speculative.PutsAside, ← List.count_eq_zero] at haside
        omega
      · rintro ⟨g, hg, hthis⟩
        obtain rfl := Option.some.inj (hf.symm.trans hg)
        exact haside hthis

/-- However a run goes on, what a loop has put aside stays so until it is disposed of. -/
theorem putsAside_lasts (haside : (run chance moves).world.PutsAside t core) (later : List Move) :
    (run chance (moves ++ later)).world.PutsAside t core ∨
      ⟨some t, .disposed core⟩ ∈ (run chance (moves ++ later)).deeds := by
  induction later using List.reverseRecOn with
  | nil =>
    rw [List.append_nil]
    exact .inl haside
  | append_singleton later m ih =>
    rw [← List.append_assoc]
    rcases ih with hstill | hdisposed
    · rcases putsAside_of_perform (m := m) (run_isSound chance (moves ++ later)) hstill with
        hstill | ⟨rfl, hdisposed⟩
      · rw [run_concat]
        exact .inl hstill
      · exact .inr (mem_deeds_concat hdisposed)
    · exact .inr (deeds_mono hdisposed [m])

theorem isOfTeam_team (ht : t.isErrand = false) : t.team t = true := by
  cases t <;> simp [Task.team, Task.isOfTeam, Task.isErrand] at ht ⊢

/-- Once a loop has been told that a core does not work, its fulfiller is rid of the core. -/
theorem isRidOf_of_told (htold : (run chance moves).world.IsTold t core false) (later : List Move) :
    (run chance (moves ++ .step t :: later)).IsRidOf t core := by
  have hw := run_isSound chance moves
  rw [List.append_cons]
  cases t with
  | dedicated i =>
    obtain ⟨f, ticket, hf, hasks, s₁, hlook⟩ := htold
    have hstep : f.step i (run chance moves).world.scene = some (f.judge core false s₁) :=
      Dedicated.step_of_answers hasks hlook
    obtain ⟨hf', hsteps⟩ := World.dedicated_acts chance hw hf hstep
    have hdisposed := Dedicated.step_discards (hw.dedicated f (List.mem_of_getElem? hf)) hasks hlook
      hstep hsteps.flow
    rw [← run_concat] at hf'
    obtain ⟨g, hg, -⟩ := dedicated_lasts hf' later
    exact dedicated_isRidOf hg
      (Chronicle.mem_doneBy (deeds_mono (mem_deeds_concat hdisposed) later) (by simp))
  | speculative i =>
    obtain ⟨f, ticket, hf, hasks, s₁, hlook⟩ := htold
    obtain ⟨r, hstep, haside⟩ := Speculative.step_putsAside chance i hasks hlook
    have hf' := World.speculative_acts hf hstep
    rw [← run_concat] at hf'
    obtain ⟨g, hg⟩ := speculative_lasts hf' later
    refine speculative_isRidOf hg ?_
    rcases putsAside_lasts (t := .speculative i) ⟨_, hf', haside⟩ later with ⟨g', hg', hstill⟩ | hdisposed
    · obtain rfl := Option.some.inj (hg.symm.trans hg')
      exact .inl hstill
    · exact .inr (Chronicle.mem_doneBy hdisposed (by simp [Task.isOfTeam]))
  | attempt i n => exact htold.elim
  | errand n => exact htold.elim

/-- Between a moment at which a core is kept and its being assigned the loop is told that the core
works. -/
theorem told_of_keeps {later : List Move} (ht : t.isErrand = false)
    (hkeeps : (run chance moves).world.Keeps t core)
    (hdeed : ⟨some t, .changed b (.assigned id core)⟩ ∈ (run chance (moves ++ later)).deeds) :
    ∃ sooner rest, later = sooner ++ .step t :: rest ∧
      (run chance (moves ++ sooner)).world.IsTold t core true := by
  obtain ⟨before, after, hsplit, hassigned⟩ := exists_step_of_deed ht hdeed
  obtain ⟨hnot, hundone⟩ := not_trusts_of_keeps hkeeps
  rcases List.append_eq_append_iff.mp hsplit with ⟨since, rfl, rfl⟩ | ⟨since, rfl, hlater⟩
  · obtain ⟨sooner, m, rest, rfl, hnot, htrusted⟩ := exists_onset_since chance (P := (·.Trusts t core))
      hnot since (trusts_of_assigned ht hassigned)
    have hthen := htrusted.first
    rw [run_concat] at hthen
    obtain ⟨rfl, htold⟩ := trusts_of_perform (run_isSound chance _) hnot hthen
    exact ⟨sooner, rest ++ .step t :: after, by simp, htold⟩
  · -- The core would have been assigned before it was kept.
    cases since with
    | nil =>
      rw [List.append_nil] at hnot
      exact absurd (trusts_of_assigned ht hassigned) hnot
    | cons m since =>
      obtain ⟨rfl, -⟩ := List.cons.inj hlater
      refine absurd (Chronicle.mem_doneBy ?_ (isOfTeam_team ht)) (hundone b id)
      have hdone := deeds_mono (mem_deeds_concat (m := .step t) hassigned) since
      rwa [List.append_cons]

end Run

/-- Only cores that work are assigned.  In every run, whatever a fulfiller assigns it has looked over since it
took the core last; it is rid of a core for good once it is told that the core does not work; a core that
was kept is asked again before it is assigned; and a core that cannot tell is taken to work. -/
theorem only_working_assigned (chance : Chance) (moves : List Move) :
    (∀ t b id core, t.isErrand = false → ⟨some t, .changed b (.assigned id core)⟩ ∈
        (run chance moves).deeds →
      ∃ ticket first second third fourth,
        moves = first ++ .step t :: (second ++ .step t :: (third ++ .step t :: fourth)) ∧
          LooksOver chance t core ticket first second third ∧
            (run chance (first ++ .step t :: (second ++ .step t :: third))).world.Changes chance t b
              (.assigned id core)) ∧
    (∀ t core earlier later, moves = earlier ++ .step t :: later →
      (run chance earlier).world.IsTold t core false → (run chance moves).IsRidOf t core) ∧
    (∀ t b id core earlier later, t.isErrand = false → moves = earlier ++ later →
      (run chance earlier).world.Keeps t core →
        ⟨some t, .changed b (.assigned id core)⟩ ∈ (run chance moves).deeds →
          ∃ sooner rest, later = sooner ++ .step t :: rest ∧
            (run chance (earlier ++ sooner)).world.IsTold t core true) ∧
    ∀ t core ticket, (run chance moves).world.Asks t core ticket → core.liveness = .unknown →
      (run chance moves).world.IsTold t core true ∧ ¬ (run chance moves).world.IsTold t core false := by
  refine ⟨fun t b id core ht hdeed => ?_, fun t core earlier later hsplit htold => ?_,
    fun t b id core earlier later ht hsplit hkeeps hdeed => ?_, fun t core ticket hasks hunknown => ?_⟩
  · obtain ⟨before, fourth, rfl, hassigned⟩ := exists_step_of_deed ht hdeed
    obtain ⟨ticket, first, second, third, rfl, hover⟩ :=
      looksOver_of_trusts (trusts_of_assigned ht hassigned)
    exact ⟨ticket, first, second, third, fourth, by simp, hover, hassigned⟩
  · rw [hsplit]
    exact isRidOf_of_told htold later
  · rw [hsplit] at hdeed
    exact told_of_keeps ht hkeeps hdeed
  · cases t with
    | dedicated i | speculative i =>
      obtain ⟨f, hf, hasks⟩ := hasks
      refine ⟨⟨f, ticket, hf, hasks, (Scene.answers_of_unknown hunknown).mpr rfl⟩, ?_⟩
      rintro ⟨g, ticket', -, -, hanswers⟩
      exact absurd ((Scene.answers_of_unknown hunknown).mp hanswers) Bool.false_ne_true
    | attempt i n => exact hasks.elim
    | errand n => exact hasks.elim

/-- The first core that a provider hands out does not work, and the second one cannot tell.  The request is
disposed of before the second one is placed, which is kept and goes to the next request. -/
def faultyRun : List Move :=
  [Move.found,
    .enlist "P" "p" (.scripted
      [{ course := .core, isAlive := false }, { course := .core, liveness := .unknown }] { free := 0 }),
    .dedicated 0 0 ⟨0, "p"⟩ {}, .begin (.create 0 .requireLocal 1 [] none false),
    .step (.errand 1), .step (.errand 1)] ++ List.replicate 8 (Move.step (.dedicated 0)) ++
  [Move.begin (.dispose 0 2), .step (.errand 11), .step (.dedicated 0),
    .begin (.create 0 .requireLocal 1 [] none false), .step (.errand 12), .step (.errand 12)] ++
  List.replicate 4 (Move.step (.dedicated 0))

/-- The fulfiller of that run is rid of the first core and has looked over the second one, once more since it
was kept. -/
theorem only_working_assigned_faulty :
    (run .plain faultyRun).IsRidOf (.dedicated 0) ⟨5, "P", 1, "p", .immediate⟩ ∧
    (∃ ticket first second third fourth, faultyRun = first ++ .step (.dedicated 0) ::
        (second ++ .step (.dedicated 0) :: (third ++ .step (.dedicated 0) :: fourth)) ∧
      LooksOver .plain (.dedicated 0) ⟨9, "P", 2, "p", .unknown⟩ ticket first second third ∧
        (run .plain (first ++ .step (.dedicated 0) ::
          (second ++ .step (.dedicated 0) :: third))).world.Changes .plain (.dedicated 0) 0
            (.assigned 13 ⟨9, "P", 2, "p", .unknown⟩)) ∧
    (∃ sooner rest, faultyRun.drop 17 = sooner ++ .step (.dedicated 0) :: rest ∧
      (run .plain (faultyRun.take 17 ++ sooner)).world.IsTold (.dedicated 0)
        ⟨9, "P", 2, "p", .unknown⟩ true) ∧
    (run .plain (faultyRun.take 13)).world.IsTold (.dedicated 0) ⟨9, "P", 2, "p", .unknown⟩ true := by
  have hdeed : ⟨some (.dedicated 0), .changed 0 (.assigned 13 ⟨9, "P", 2, "p", .unknown⟩)⟩ ∈
      (run .plain faultyRun).deeds := by decide +kernel
  have htold : (run .plain (faultyRun.take 9)).world.IsTold (.dedicated 0)
      ⟨5, "P", 1, "p", .immediate⟩ false := by
    have hpoint : (run .plain (faultyRun.take 9)).world.dedicated[0]?.map (·.point) =
        some (.probing ⟨5, "P", 1, "p", .immediate⟩ 6) := by decide +kernel
    have hdead : (run .plain (faultyRun.take 9)).world.scene.isAlive ⟨5, "P", 1, "p", .immediate⟩ =
        false := by decide +kernel
    obtain ⟨f, hf, hasks⟩ := Option.map_eq_some_iff.mp hpoint
    exact ⟨f, 6, hf, hasks, (run .plain (faultyRun.take 9)).world.scene, by
      rw [← hdead]
      rfl⟩
  have hkeeps : (run .plain (faultyRun.take 17)).world.Keeps (.dedicated 0)
      ⟨9, "P", 2, "p", .unknown⟩ := by
    have hspare : (run .plain (faultyRun.take 17)).world.dedicated[0]?.map (·.spare) =
        some (some ⟨9, "P", 2, "p", .unknown⟩) := by decide +kernel
    obtain ⟨f, hf, hkeeps⟩ := Option.map_eq_some_iff.mp hspare
    exact ⟨f, hf, hkeeps⟩
  have hasks : (run .plain (faultyRun.take 13)).world.Asks (.dedicated 0)
      ⟨9, "P", 2, "p", .unknown⟩ 10 := by
    have hpoint : (run .plain (faultyRun.take 13)).world.dedicated[0]?.map (·.point) =
        some (.probing ⟨9, "P", 2, "p", .unknown⟩ 10) := by decide +kernel
    obtain ⟨f, hf, hasks⟩ := Option.map_eq_some_iff.mp hpoint
    exact ⟨f, hf, hasks⟩
  obtain ⟨hassigned, hrid, hkept, -⟩ := only_working_assigned .plain faultyRun
  obtain ⟨-, -, -, htells⟩ := only_working_assigned .plain (faultyRun.take 13)
  exact ⟨hrid _ _ (faultyRun.take 9) (faultyRun.drop 10) rfl htold, hassigned _ _ _ _ rfl hdeed,
    hkept _ _ _ _ _ _ rfl (List.take_append_drop 17 faultyRun).symm hkeeps hdeed,
    (htells _ _ _ hasks rfl).1⟩

end CoreBroker
