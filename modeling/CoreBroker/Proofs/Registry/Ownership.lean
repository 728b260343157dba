import CoreBroker.Proofs.Runs.Ledgers
import Mathlib.Algebra.Order.BigOperators.Group.List
import Mathlib.Algebra.Order.Group.Nat
set_option autoImplicit false

/-!
# The cores that are passed to requests

Every passing of a core to a request comes to one thing, a core that is put into a request comes out of
it in one way, and a request that was disposed of stays empty.
-/

namespace CoreBroker

/-- The request `id` of the registry `b` has been assigned a core. -/
def Stage.IsFulfilled (st : Stage) (b id : Nat) : Prop :=
  ∃ g changes, st.boards[b]? = some (g, changes) ∧
    ∃ r ∈ g.requests, r.id = id ∧ r.isAssigned = true

namespace Scene.IsSound

variable {s : Scene}

/-- Whatever was put into a slot was taken out, was disposed of, or is still there. -/
theorem slot_eq (hs : s.IsSound) (b id : Nat) (core : Core) :
    s.story.count (.changed b (.assigned id core)) = s.stage.slot b id core +
      s.story.count (.changed b (.taken id core)) +
      s.story.count (.changed b (.disposed id (some core))) := by
  rw [← count_changesOf, ← count_changesOf, ← count_changesOf]
  cases hboard : s.stage.boards[b]? with
  | none =>
    rw [hs.untold b (List.getElem?_eq_none_iff.mp hboard), Stage.slot, hboard]
    rfl
  | some board =>
    obtain ⟨g, changes⟩ := board
    have hrecord := (hs.told b g changes hboard).registryHistory
    rw [Stage.slot, hboard]
    by_cases hknown : ∃ r ∈ g.requests, r.id = id
    · obtain ⟨r, hmem, rfl⟩ := hknown
      have hslot := (hrecord.requests r hmem).slot core
      have hcount := countP_key hrecord.ids hmem fun q => q.core == some core
      simp only [hcount]
      by_cases hcore : r.core = some core
      · simp only [hcore, if_true, beq_self_eq_true, Bool.toNat_true] at hslot ⊢
        omega
      · simp only [hcore, if_false, beq_false_of_ne, Bool.toNat_false, ne_eq, not_false_eq_true]
          at hslot ⊢
        omega
    · have hquiet := hrecord.unknown id fun r hr hid => hknown ⟨r, hr, hid⟩
      have hnone : ∀ change : RegistryChange Core, change.concerns id = true →
          (changesOf b s.story).count change = 0 := fun change hchange =>
        List.count_eq_zero.mpr fun hmem => by
          rw [hquiet change hmem] at hchange
          exact Bool.false_ne_true hchange
      have hempty : g.requests.countP (fun r => r.id == id && r.core == some core) = 0 :=
        List.countP_eq_zero.mpr fun r hr h => hknown ⟨r, hr, by simp at h; exact h.1⟩
      simp only [hempty]
      rw [hnone _ (by simp [RegistryChange.concerns]), hnone _ (by simp [RegistryChange.concerns]),
        hnone _ (by simp [RegistryChange.concerns])]

/-- A registry of which a change was told is there. -/
theorem exists_board (hs : s.IsSound) {b : Nat} {change : RegistryChange Core}
    (hchange : change ∈ changesOf b s.story) :
    ∃ g changes, s.stage.boards[b]? = some (g, changes) := by
  have hlt : b < s.stage.boards.length := by
    refine Nat.lt_of_not_le fun hle => ?_
    rw [hs.untold b hle] at hchange
    exact absurd hchange List.not_mem_nil
  exact ⟨_, _, List.getElem?_eq_getElem hlt⟩

/-- A request was fulfilled just when a core was assigned to it. -/
theorem isFulfilled_iff (hs : s.IsSound) (b id : Nat) :
    s.stage.IsFulfilled b id ↔ 0 < (changesOf b s.story).countP (·.assigns id) := by
  constructor
  · rintro ⟨g, changes, hboard, r, hmem, rfl, hassigned⟩
    rw [((hs.told b g changes hboard).registryHistory.requests r hmem).assigned, hassigned]
    exact Nat.one_pos
  · intro hpos
    obtain ⟨change, hchange, hassigns⟩ := List.countP_pos_iff.mp hpos
    obtain ⟨g, changes, hboard⟩ := hs.exists_board hchange
    have hrecord := (hs.told b g changes hboard).registryHistory
    by_cases hknown : ∃ r ∈ g.requests, r.id = id
    · obtain ⟨r, hmem, rfl⟩ := hknown
      rw [(hrecord.requests r hmem).assigned] at hpos
      refine ⟨g, changes, hboard, r, hmem, rfl, ?_⟩
      cases hassigned : r.isAssigned with
      | true => rfl
      | false => simp [hassigned] at hpos
    · have hquiet := hrecord.unknown id (fun r hr hid => hknown ⟨r, hr, hid⟩) change hchange
      rw [RegistryChange.assigns_of_not_concerns hquiet] at hassigns
      exact absurd hassigns Bool.false_ne_true

theorem assigned_once (hs : s.IsSound) (b id : Nat) :
    (changesOf b s.story).countP (·.assigns id) ≤ 1 := by
  cases hboard : s.stage.boards[b]? with
  | none =>
    rw [hs.untold b (List.getElem?_eq_none_iff.mp hboard)]
    exact Nat.zero_le 1
  | some board => exact (hs.told b board.1 board.2 hboard).assigned_once id

end Scene.IsSound

/-! ## Cores on the way -/

/-- The loop has the core that it is placing. -/
theorem Dedicated.placing_le (f : Dedicated) (b id : Nat) (core : Core) :
    f.placing b id core ≤ f.cores.count core := by
  cases hpoint : f.point with
  | placing c n =>
    have hclaim : f.claim? = some (c, n) := by
      rw [claim?, hpoint]
      rfl
    have hcores : f.cores = f.spare.toList ++ [c] := by
      rw [cores, hpoint]
      rfl
    have hplacing : f.placing b id core = (decide (f.board = b ∧ n = id ∧ c = core)).toNat := by
      rw [placing, hclaim]
      rfl
    have hle : (decide (f.board = b ∧ n = id ∧ c = core)).toNat ≤ (decide (c = core)).toNat :=
      Bool.toNat_le_toNat fun h => decide_eq_true (of_decide_eq_true h).2.2
    rw [hcores, List.count_append, count_cons_toNat, hplacing]
    omega
  | _ => simp [placing, claim?, hpoint, DedicatedPoint.claim?]

/-- What is being passed to a request is with a call of the client or with a loop. -/
theorem World.underWay_le (w : World) (b id : Nat) (core : Core) :
    w.underWay b id core + w.hand.count core ≤ w.held core := by
  have hpassing : w.errands.countP (·.2.passes b id core) ≤ w.errands.countP (·.2.carries core) := by
    refine List.countP_mono_left fun e _ htransitions => ?_
    cases hkind : e.2 <;>
      simp_all [Errand.passes, Errand.carries, Errand.passing?, Errand.core?]
  have hplacing : (w.dedicated.map fun f => f.placing b id core).sum ≤
      (w.dedicated.map fun f => f.cores.count core).sum :=
    List.sum_le_sum fun f _ => f.placing_le b id core
  simp only [underWay, passing, held, kept, Option.toList_none, List.countP_nil]
  omega

theorem Stage.slot_le (st : Stage) (b id : Nat) (core : Core) :
    st.slot b id core ≤ st.slots core := by
  unfold slot
  split
  · rename_i g changes hboard
    have hmem := List.mem_map_of_mem (f := fun e => e.1.slots core) (List.mem_of_getElem? hboard)
    refine Nat.le_trans (List.countP_mono_left fun r _ hr => ?_) (List.le_sum_of_mem hmem)
    exact (Bool.and_eq_true_iff.mp hr).2
  · exact Nat.zero_le _

/-! ## Every run -/

/-- What the chronicle of a run says about the cores that were passed to requests. -/
structure Chronicle.Ownership (c : Chronicle) : Prop where
  /-- Every passing is under way, went with a call that was given up, was handed back, or came to an
  assignment. -/
  passed : ∀ b id core, c.world.scene.story.count (.offered b id core) =
    c.world.underWay b id core + c.world.scene.story.count (.lost b id core) +
      c.world.scene.story.count (.refused b id core) +
      c.world.scene.story.count (.changed b (.assigned id core))
  /-- What was assigned is in the slot, was taken by a caller, or was disposed of with the request. -/
  assigned : ∀ b id core, c.world.scene.story.count (.changed b (.assigned id core)) =
    c.world.scene.stage.slot b id core + c.world.scene.story.count (.changed b (.taken id core)) +
      c.world.scene.story.count (.changed b (.disposed id (some core)))
  /-- A request is assigned at most one core ever. -/
  once : ∀ b id, (changesOf b c.world.scene.story).countP (·.assigns id) ≤ 1
  /-- At most one has the core, be it a caller, a call, a fulfiller or a request, and none once it was
  disposed of or went with a call. -/
  place : ∀ core, c.world.held core + c.world.scene.stage.slots core +
    c.world.scene.story.countP (·.loses core) + c.world.scene.story.count (.disposed core) ≤ 1
  /-- What a caller has in its hands, taken or handed back, is neither in a request nor on its way to
  one. -/
  hand : ∀ core ∈ c.world.hand, ∀ b id,
    c.world.underWay b id core = 0 ∧ c.world.scene.stage.slot b id core = 0
  /-- The registry disposes just of the cores in the requests that are disposed of, each once. -/
  disposals : ∀ core, (c.doneBy Task.isErrand).count (.disposed core) =
      c.world.scene.story.countP (·.closes core) ∧ c.world.scene.story.countP (·.closes core) ≤ 1

/-- What stays as it is however a run goes on from the one chronicle to the other. -/
structure Chronicle.Lasts (c c' : Chronicle) : Prop where
  /-- A request that was fulfilled stays so. -/
  fulfilled : ∀ b id, c.world.scene.stage.IsFulfilled b id → c'.world.scene.stage.IsFulfilled b id
  /-- A request that was disposed of has no core and is assigned none. -/
  closed : ∀ b id x, .changed b (.disposed id x) ∈ c.world.scene.story →
    (∀ core, c'.world.scene.stage.slot b id core = 0) ∧
      (changesOf b c'.world.scene.story).countP (·.assigns id) =
        (changesOf b c.world.scene.story).countP (·.assigns id)
  /-- A core that is neither in a request nor on its way to one, because a caller took it or for whatever
  reason, is not disposed of by the registry before it is passed to a request again. -/
  away : ∀ core, (∀ b id, c.world.underWay b id core = 0 ∧ c.world.scene.stage.slot b id core = 0) →
    (∀ b id, c'.world.scene.story.count (.offered b id core) =
      c.world.scene.story.count (.offered b id core)) →
    ∀ b id, c'.world.scene.story.count (.changed b (.disposed id (some core))) =
      c.world.scene.story.count (.changed b (.disposed id (some core)))

section Run

variable (chance : Chance) (moves later : List Move)

/-- Whatever was passed to requests is accounted for after every run. -/
theorem run_ownership : (run chance moves).Ownership := by
  have hscene := (run_isSound chance moves).scene
  have hledgers := run_ledgers chance moves
  have hplace : ∀ core, (run chance moves).world.held core +
      (run chance moves).world.scene.stage.slots core +
      (run chance moves).world.scene.story.countP (·.loses core) +
      (run chance moves).world.scene.story.count (.disposed core) ≤ 1 := by
    intro core
    have hheld := hledgers.held core
    have hslots := hledgers.slots core
    have honce := hscene.once core
    rw [gone_eq, spent, come_eq] at hheld
    omega
  refine ⟨fun b id core => ?_, hscene.slot_eq, hscene.assigned_once, hplace,
    fun core hcore b id => ?_, fun core => ⟨?_, ?_⟩⟩
  · have hpassed := hledgers.passed b id core
    omega
  · have hpos := List.count_pos_iff.mpr hcore
    have hone := hplace core
    have hway := World.underWay_le (run chance moves).world b id core
    have hslot := Stage.slot_le (run chance moves).world.scene.stage b id core
    omega
  · exact hledgers.closed core
  · have hclosed := hledgers.closed core
    have hdone : ((run chance moves).doneBy Task.isErrand).count (.disposed core) ≤
        (run chance moves).world.scene.story.count (.disposed core) :=
      (Chronicle.doneBy_sublist moves Task.isErrand).count_le _
    have hone := hplace core
    omega

/-- What is over for a request or a core stays over however a run goes on. -/
theorem run_lasts : (run chance moves).Lasts (run chance (moves ++ later)) := by
  have hscene := (run_isSound chance moves).scene
  have hscene' := (run_isSound chance (moves ++ later)).scene
  have hownership := run_ownership chance moves
  have hownership' := run_ownership chance (moves ++ later)
  obtain ⟨events, hstory⟩ := exists_story_eq chance moves later
  refine ⟨fun b id hfulfilled => ?_, fun b id x hdisposed => ?_, fun core haway hoffered b id => ?_⟩
  · rw [hscene.isFulfilled_iff] at hfulfilled
    rw [hscene'.isFulfilled_iff, hstory, changesOf_append, List.countP_append]
    omega
  · have hchange := mem_changesOf.mpr hdisposed
    have hchange' : .disposed id x ∈ changesOf b (run chance (moves ++ later)).world.scene.story := by
      rw [hstory, changesOf_append]
      exact List.mem_append_right _ hchange
    obtain ⟨g, changes, hboard⟩ := hscene'.exists_board hchange'
    have hcourse := hscene'.told b g changes hboard
    refine ⟨fun core => ?_, ?_⟩
    · rw [Stage.slot, hboard]
      refine List.countP_eq_zero.mpr fun r hr hhas => ?_
      simp only [Bool.and_eq_true, beq_iff_eq] at hhas
      obtain ⟨rfl, hcore⟩ := hhas
      rw [hcourse.slot_empty_after_disposal hr hchange'] at hcore
      exact absurd hcore (by simp)
    · obtain ⟨after, before, hsplit⟩ := List.append_of_mem hchange
      rw [hstory, changesOf_append, hsplit, ← List.append_assoc] at hcourse
      have hnone := hcourse.not_assigned_after_disposal
      rw [List.countP_append] at hnone
      rw [hstory, changesOf_append, List.countP_append]
      omega
  · have hpassed := hownership.passed b id core
    have hpassed' := hownership'.passed b id core
    have hassigned := hownership.assigned b id core
    have hassigned' := hownership'.assigned b id core
    obtain ⟨hway, hslot⟩ := haway b id
    have hsame := hoffered b id
    have hmono : ∀ e : Event, (run chance moves).world.scene.story.count e ≤
        (run chance (moves ++ later)).world.scene.story.count e := by
      intro e
      rw [hstory, List.count_append]
      exact Nat.le_add_left _ _
    have hlost := hmono (.lost b id core)
    have hrefused := hmono (.refused b id core)
    have htaken := hmono (.changed b (.taken id core))
    have hclosed := hmono (.changed b (.disposed id (some core)))
    omega

/-- In every run, every passing of a core to a request is under way, was given up with its core, was
handed back, or has put the core into the request, which got no other; from there a caller has taken it or
it was disposed of with the request, if it is not there still.  Nobody has a core that another has or that
is gone, and what is over stays over however the run goes on. -/
theorem request_core_ownership : (run chance moves).Ownership ∧
    (run chance moves).Lasts (run chance (moves ++ later)) :=
  ⟨run_ownership chance moves, run_lasts chance moves later⟩

end Run

/-! ## Cores that are in none of the places of a registry, or in two -/

/-- The core of the following runs. -/
def testCore : Core := ⟨2, "test", 1, "test", .immediate⟩

/-- A core is passed to a request while somebody has the guard, and the call is given up. -/
def givenUpRun : List Move :=
  [.found, .begin (.create 0 .requireLocal 1 [] none false), .step (.errand 0), .step (.errand 0),
    .make "test" 1 .immediate, .begin (.ask 0 (.next true none) none), .step (.errand 3),
    .begin (.ask 0 (.snapshot .all) none), .step (.errand 5), .offer ⟨4, 0, 1⟩ testCore,
    .step (.errand 7), .abandon 7]

/-- A caller takes a core and passes it to another request, which is disposed of. -/
def passedAgainRun : List Move :=
  [.found, .begin (.create 0 .requireLocal 1 [] none false), .step (.errand 0), .step (.errand 0),
    .make "test" 1 .immediate, .begin (.ask 0 (.next true none) none), .step (.errand 3),
    .offer ⟨4, 0, 1⟩ testCore, .step (.errand 5), .take 0 1,
    .begin (.create 0 .requireLocal 1 [] none false), .step (.errand 6), .step (.errand 6),
    .begin (.ask 0 (.next true none) none), .step (.errand 8), .offer ⟨9, 0, 7⟩ testCore,
    .step (.errand 10), .begin (.dispose 0 7), .step (.errand 11)]

/-- How often the core was handed back by a request, is in one, was taken out of one, or was disposed of
with one. -/
def Chronicle.places (c : Chronicle) (core : Core) : Nat :=
  c.world.scene.story.countP (fun | .refused _ _ c => c == core | _ => false) +
    c.world.scene.stage.slots core + c.world.scene.story.countP (·.takes core) +
    c.world.scene.story.countP (·.closes core)

/-- A core that was passed to a request once can be in no such place, with no call under way; and the
registry disposes of a core after a caller took it, when it is passed to a request again. -/
theorem not_in_exactly_one_place :
    (.offered 0 1 testCore ∈ (run .plain givenUpRun).world.scene.story ∧
      (run .plain givenUpRun).world.errands = [] ∧ (run .plain givenUpRun).world.hand = [] ∧
      (run .plain givenUpRun).places testCore = 0) ∧
    ((run .plain passedAgainRun).places testCore = 2 ∧
      (run .plain passedAgainRun).world.scene.story.idxOf (.disposed testCore) <
        (run .plain passedAgainRun).world.scene.story.idxOf (.changed 0 (.taken 1 testCore)) ∧
      (run .plain passedAgainRun).world.scene.story.count (.changed 0 (.taken 1 testCore)) = 1 ∧
      ⟨some (.errand 11), .disposed testCore⟩ ∈ (run .plain passedAgainRun).deeds) := by
  decide +kernel

end CoreBroker
