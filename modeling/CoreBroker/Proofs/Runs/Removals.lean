import CoreBroker.Proofs.Runs.HandleMoves
import CoreBroker.Proofs.Scene.Guards
set_option autoImplicit false

/-!
# Requests of which nothing is left

A request that was disposed of, by the only one who had its handle, leaves nothing behind: it is in no list
and counts for nothing, it refuses every core, and a core that it had got is gone.  The same holds of a
request that was drafted and never entered.  It holds however the run goes on.
-/

namespace CoreBroker

namespace Registry

variable {κ : Type} {g : Registry κ} {id : Nat}

/-- The registry as if there had never been a request with the number `id`. -/
def without (g : Registry κ) (id : Nat) : Registry κ := ⟨g.requests.filter (·.id != id)⟩

/-- A request that is not listed makes no difference to the list. -/
theorem listed_without (hgone : ∀ r ∈ g.requests, r.id = id → r.isListed = false) :
    (g.without id).listed = g.listed := by
  rw [listed, listed, without, List.filter_filter]
  refine List.filter_congr fun r hr => ?_
  by_cases hid : r.id = id
  · simp [hgone r hr hid]
  · simp [hid]

end Registry

namespace World

/-- Nothing is left of the request: it is in no list of its registry, whoever asks, and in no count, no
offer of a core to it is accepted, and whatever core was assigned to it was disposed of, and that once. -/
structure IsRidOf (w : World) (b id : Nat) : Prop where
  unlisted : ∀ r ∈ (w.scene.boardAt b).registry.listed, r.id ≠ id
  unavailable : ∀ c, ∀ r ∈ (w.scene.boardAt b).registry.candidates c, r.id ≠ id
  uncounted : (w.scene.boardAt b).registry.statistics =
    ((w.scene.boardAt b).registry.without id).statistics
  refuses : ∀ core, ∃ reason, w.scene.assignCore b id core = .error reason
  spent : ∀ core, .changed b (.assigned id core) ∈ w.scene.story →
    w.scene.story.count (.disposed core) = 1

variable {chance : Chance} {actor : Option Task} {w w' : World} {events : List Event} {b id : Nat}

/-- A request that is not listed refuses every core, and so does one that is not there. -/
theorem assignCore_of_unlisted (hw : w.IsSound)
    (hgone : ∀ r, w.scene.request? b id = some r → r.isListed = false) (core : Core) :
    ∃ reason, w.scene.assignCore b id core = .error reason := by
  cases hrequest : w.scene.request? b id with
  | none =>
    refine ⟨.requestDisposed id, ?_⟩
    unfold Scene.assignCore
    cases hboard : w.scene.boards[b]? with
    | none => rfl
    | some board =>
      have hnone : board.registry.get? id = none := by
        rwa [Scene.request?, hboard, Option.bind_some] at hrequest
      simp only [Registry.assign, hnone]
  | some r =>
    cases hverdict : r.verdict with
    | none =>
      have hwaiting := Request.verdict_eq_none_iff.mp hverdict
      rw [Request.isWaiting, hgone r hrequest, Bool.false_and] at hwaiting
      exact absurd hwaiting Bool.false_ne_true
    | some reason => exact ⟨reason, hw.scene.assignCore_eq_error hrequest hverdict core⟩

/-- What there is to say of a request that is not listed is where its cores are. -/
theorem IsSound.isRidOf (hw : w.IsSound)
    (hgone : ∀ r, w.scene.request? b id = some r → r.isListed = false)
    (hspent : ∀ core, .changed b (.assigned id core) ∈ w.scene.story →
      w.scene.story.count (.disposed core) = 1) : w.IsRidOf b id := by
  have hunlisted : ∀ r ∈ (w.scene.boardAt b).registry.requests, r.id = id → r.isListed = false := by
    rintro r hr rfl
    cases hboard : w.scene.boards[b]? with
    | none =>
      rw [Scene.boardAt, hboard] at hr
      exact absurd hr List.not_mem_nil
    | some board =>
      rw [Scene.boardAt_eq hboard] at hr
      have hstage := Scene.stage_board hboard
      refine hgone r ?_
      rw [Scene.request?_of_board hstage]
      exact Registry.get?_of_mem (hw.scene.stage.requests hstage).1 hr
  refine ⟨fun r hr hid => ?_, fun c r hr hid => ?_, ?_, assignCore_of_unlisted hw hgone, hspent⟩
  · obtain ⟨hmem, hlisted⟩ := List.mem_filter.mp hr
    rw [hunlisted r hmem hid] at hlisted
    exact Bool.false_ne_true hlisted
  · obtain ⟨hmem, hcandidate⟩ := List.mem_filter.mp hr
    rw [Request.isCandidate, hunlisted r hmem hid] at hcandidate
    exact absurd hcandidate Bool.false_ne_true
  · rw [Registry.statistics, Registry.statistics, Registry.listed_without hunlisted]

/-! ## Requests that are never entered -/

/-- The number was given out, and there is no request with it, not even a draft. -/
structure IsVoid (w : World) (id : Nat) : Prop where
  below : id < w.scene.nextSerial
  nowhere : w.drafted none id + w.scene.story.countP (·.enters id) = 0

/-- Nothing is entered that was not drafted, and no number is given out again. -/
theorem IsVoid.of_drafted_le {may : Stage → Act → Prop} (hvoid : w.IsVoid id)
    (hacts : w.scene.ActSequence may events w'.scene)
    (hdrafted : w'.drafted none id + events.countP (·.enters id) ≤ w.drafted none id) :
    w'.IsVoid id := by
  have hnowhere := hvoid.nowhere
  refine ⟨Nat.lt_of_lt_of_le hvoid.below hacts.serial_le, ?_⟩
  rw [hacts.story_eq, List.countP_append]
  omega

theorem IsVoid.clientStep (hvoid : w.IsVoid id) (hclient : ClientStep w actor none events w' none) :
    w'.IsVoid id := by
  have hdrafts := hclient.drafts id
  have hold : ¬ (w.scene.nextSerial ≤ id ∧ id < w'.scene.nextSerial) := fun h =>
    Nat.not_lt.mpr h.1 hvoid.below
  rw [decide_eq_false hold, Bool.toNat_false, Nat.add_zero] at hdrafts
  exact hvoid.of_drafted_le hclient.acts hdrafts

theorem IsVoid.transition (hvoid : w.IsVoid id) (h : Transition chance w actor events w') :
    w'.IsVoid id := by
  have hloop : ∀ {may : Stage → Act → Prop}, w.scene.ActSequence may events w'.scene →
      w'.errands = w.errands → (∀ e ∈ events, e.isOfLoop = true) → w'.IsVoid id :=
    fun hacts herrands hevents => by
      refine hvoid.of_drafted_le hacts (Nat.le_of_eq ?_)
      rw [countP_enters_of_isOfLoop hevents, drafted, drafted, herrands, Nat.add_zero]
  cases h with
  | dedicated _ _ hsteps => exact hloop hsteps.acts rfl (Dedicated.isOfLoop_of_acts hsteps.acts)
  | speculative _ _ haccounts | attempt _ _ _ haccounts =>
    exact hloop haccounts.acts rfl (Speculative.isOfLoop_of_acts haccounts.acts)
  | client _ hclient => exact hvoid.clientStep hclient
  | employed _ _ _ _ _ hacts | engaged _ _ _ _ _ _ hacts =>
    exact hloop hacts rfl fun e he => absurd he List.not_mem_nil

theorem IsVoid.request?_eq (hvoid : w.IsVoid id) (hw : w.IsSound) (b : Nat) :
    w.scene.request? b id = none := by
  by_contra hthere
  obtain ⟨q, hentered, rfl⟩ := hw.scene.isSome_request?_iff.mp (Option.isSome_iff_ne_none.mpr hthere)
  have hpos : 0 < w.scene.story.countP (·.enters q.id) :=
    List.countP_pos_iff.mpr ⟨_, hentered, beq_self_eq_true _⟩
  have hnowhere := hvoid.nowhere
  omega

theorem IsVoid.isRidOf (hvoid : w.IsVoid id) (hw : w.IsSound) (b : Nat) : w.IsRidOf b id := by
  have hnone := hvoid.request?_eq hw b
  refine hw.isRidOf (fun r hrequest => ?_) fun core hassigned => ?_
  · exact absurd (hnone.symm.trans hrequest) (by simp)
  · obtain ⟨r, hrequest, -⟩ := hw.scene.fulfilled_of_assigned hassigned
    exact absurd (hnone.symm.trans hrequest) (by simp)

end World

section Run

variable (chance : Chance) (moves : List Move) (b id : Nat)

/-- Nothing is left of the request after the run, nor will be however the run goes on. -/
def IsRidForGood : Prop :=
  ∀ later, (run chance (moves ++ later)).world.IsRidOf b id

variable {chance moves b id}

/-- The moves that a run goes on with may be taken one by one. -/
theorem IsRidForGood.append (hgone : IsRidForGood chance moves b id) (later : List Move) :
    IsRidForGood chance (moves ++ later) b id := fun further => by
  rw [List.append_assoc]
  exact hgone (later ++ further)

/-- A core that was in a request that was disposed of is gone. -/
theorem count_disposed_of_closed {core : Core}
    (hclosed : .changed b (.disposed id (some core)) ∈ (run chance moves).world.scene.story) :
    (run chance moves).world.scene.story.count (.disposed core) = 1 := by
  have hownership := run_ownership chance moves
  have hcloses : 0 < (run chance moves).world.scene.story.countP (·.closes core) :=
    List.countP_pos_iff.mpr ⟨_, hclosed, by simp [Event.closes]⟩
  have hdone := (hownership.disposals core).1
  have htold : ((run chance moves).doneBy Task.isErrand).count (.disposed core) ≤
      (run chance moves).world.scene.story.count (.disposed core) :=
    (Chronicle.doneBy_sublist moves Task.isErrand).count_le _
  have hplace := hownership.place core
  omega

/-- If a request was disposed of and otherwise its handle was not used, whatever core it had got was in it
then, and it gets none any more. -/
theorem closed_of_assigned {x : Option Core} {core : Core} {later : List Move}
    (hdisposed : .changed b (.disposed id x) ∈ (run chance moves).world.scene.story)
    (hused : (run chance moves).world.scene.uses b id ≤ 1)
    (hassigned : .changed b (.assigned id core) ∈ (run chance (moves ++ later)).world.scene.story) :
    .changed b (.disposed id (some core)) ∈ (run chance moves).world.scene.story := by
  obtain ⟨events, hstory⟩ := exists_story_eq chance moves later
  have hsame := ((run_lasts chance moves later).closed b id x hdisposed).2
  have hbefore : .changed b (.assigned id core) ∈ (run chance moves).world.scene.story := by
    rw [hstory, List.mem_append] at hassigned
    refine hassigned.resolve_left fun hnew => ?_
    have hpos : 0 < (changesOf b events).countP (·.assigns id) :=
      List.countP_pos_iff.mpr ⟨_, mem_changesOf.mpr hnew, by simp⟩
    rw [hstory, changesOf_append, List.countP_append] at hsame
    omega
  have huntaken := Scene.untaken_of_disposed (Scene.hasDisposed_iff.mpr ⟨x, hdisposed⟩) hused core
  have hempty := ((run_lasts chance moves []).closed b id x hdisposed).1 core
  rw [List.append_nil] at hempty
  have hplaces := (run_ownership chance moves).assigned b id core
  rw [hempty, List.count_eq_zero.mpr huntaken] at hplaces
  have hcount := List.count_pos_iff.mpr hbefore
  exact List.count_pos_iff.mp (by omega)

/-- Nothing is left of a request that was disposed of, if its handle was not used for anything else. -/
theorem isRidForGood_of_disposed {x : Option Core}
    (hdisposed : .changed b (.disposed id x) ∈ (run chance moves).world.scene.story)
    (hused : (run chance moves).world.scene.uses b id ≤ 1) : IsRidForGood chance moves b id := by
  intro later
  have hw := run_isSound chance (moves ++ later)
  obtain ⟨events, hstory⟩ := exists_story_eq chance moves later
  refine hw.isRidOf (fun r hrequest => ?_) fun core hassigned => ?_
  · obtain ⟨g, changes, hboard, hmem, rfl⟩ := Scene.exists_board_of_request hrequest
    have hlisted := ((hw.scene.told b g changes hboard).registryHistory.requests r hmem).listed
    have hany : (changesOf b (run chance (moves ++ later)).world.scene.story).any
        (·.disposes r.id) = true :=
      List.any_eq_true.mpr ⟨.disposed r.id x,
        mem_changesOf.mpr (hstory ▸ List.mem_append_right events hdisposed), by simp⟩
    rw [hany] at hlisted
    simpa using hlisted.symm
  · have hclosed := closed_of_assigned hdisposed hused hassigned
    exact count_disposed_of_closed (hstory ▸ List.mem_append_right events hclosed)

/-- Nothing ever comes of a request that was not entered while there was a draft of it. -/
theorem isRidForGood_of_isVoid (hvoid : (run chance moves).world.IsVoid id) (b : Nat) :
    IsRidForGood chance moves b id := fun later =>
  (run_goes_on (P := fun c => c.world.IsVoid id) hvoid
    (fun _ _ _ _ _ htransition h => h.transition htransition) later).isRidOf
      (run_isSound chance (moves ++ later)) b

end Run

end CoreBroker
