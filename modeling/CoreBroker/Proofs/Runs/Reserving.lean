import CoreBroker.Proofs.Runs.Removals
set_option autoImplicit false

/-!
# Reserving a core is all or nothing

A client that reserves a core gets a request that has one, or none at all.  As long as it waits, the handle
of the request is with the call and nowhere else.  If the wait ends without a core, the call disposes of the
request before it returns; if the call is abandoned, an errand of its own does so that cannot be abandoned.

A core that the request got in the meantime is disposed of as soon as the request is off the list, and then
the call waits until that is over.  Should it be abandoned there, nothing is left that could be done twice.
-/

namespace CoreBroker

namespace World

variable {chance : Chance} {actor : Option Task} {w w' : World} {b id n : Nat} {x : Errand}

/-! ## Handles that the client does not have -/

/-- The client has never had the handle of the request: it is with one errand or was used up there, and
that errand finds everything in order. -/
structure IsKept (w : World) (b id : Nat) : Prop where
  once : w.handled none none b id ≤ 1
  below : w.scene.nextSerial ≤ id → w.handled none none b id = 0
  unshared : w.IsUnshared none none b id
  inLine : ∀ x ∈ w.doing none none, x.IsInLine w.scene b id

/-- A handle that goes from hand to hand is still one. -/
theorem IsKept.handleFlow (h : w.IsKept b id) (hflow : HandleFlow actor none b id w none w' none) :
    w'.IsKept b id where
  once := by
    have hhandled := hflow.handled
    have honce := h.once
    -- A number that is given out only now had no handle, so the new one is the only one.
    by_cases hnew : w.scene.nextSerial ≤ id
    · have hle := Bool.toNat_le (decide (w.scene.nextSerial ≤ id ∧ id < w'.scene.nextSerial))
      have hnone := h.below hnew
      omega
    · simp only [hnew, false_and, decide_false, Bool.toNat_false] at hhandled
      omega
  below hid := by
    have hhandled := hflow.handled
    have hnone := h.below (Nat.le_trans hflow.advances.serial hid)
    simp only [Nat.not_lt.mpr hid, and_false, decide_false, Bool.toNat_false] at hhandled
    omega
  unshared := hflow.unshared h.unshared
  inLine := hflow.inLine h.inLine

theorem IsKept.uses_le (h : w.IsKept b id) : w.scene.uses b id ≤ 1 :=
  Nat.le_trans (Nat.le_add_left _ _) h.once

/-- As long as a reservation has the handle of its request, nothing was done with it. -/
theorem IsKept.uses_eq (h : w.IsKept b id) {preference : Preference} {token : Token}
    {service : Option Nat} {stage : ReserveStage}
    (hmem : (n, .reserve b preference token service stage) ∈ w.errands)
    (hunused : stage.unused? = some id) : w.scene.uses b id = 0 := by
  have hholds : (Errand.reserve b preference token service stage).holds w.scene b id = 1 := by
    simp [Errand.holds, Errand.handles, hunused]
  have hle : (Errand.reserve b preference token service stage).holds w.scene b id ≤
      ((w.doing none none).map (Errand.holds w.scene b id)).sum :=
    List.single_le_sum (fun _ _ => Nat.zero_le _) _
      (List.mem_map_of_mem (mem_doing_none.mpr ⟨n, hmem⟩))
  have honce := h.once
  rw [handled] at honce
  omega

/-! ## Calls that return -/

/-- An errand that is over after a step under a guard had the guard then. -/
theorem finish_of_underGuard {board : Nat} {act : Board → World → Progress} {reply : Reply}
    (hstep : w.underGuard x n board act = some (.finish reply w')) : ∃ found s,
      w.scene.enter board (.errand n) = .entered found s ∧
        act found (w.withScene s) = .finish reply w' := by
  unfold underGuard at hstep
  cases hentered : w.scene.enter board (.errand n) with
  | blocked => simp [hentered] at hstep
  | joined s => simp [hentered] at hstep
  | entered found s =>
    simp only [hentered, Option.some.injEq] at hstep
    exact ⟨found, s, rfl, hstep⟩

theorem isAssigned_of_settled? (hw : w.IsSound) {r : Request Core}
    (hrequest : w.scene.request? b id = some r) {token : Token}
    (hsettled : w.settled? b id token = some (.ok ())) : r.isAssigned = true := by
  obtain ⟨g, changes, hboard, hmem, -⟩ := Scene.exists_board_of_request hrequest
  have hphase := ((hw.scene.stage.requests hboard).2 r hmem).phase
  rw [settled?_of_request hrequest] at hsettled
  by_contra hnot
  rw [Request.impliedPhase, if_neg hnot] at hphase
  rw [hphase] at hsettled
  cases hlisted : r.isListed <;> simp [hlisted] at hsettled

variable {preference : Preference} {token : Token} {service : Option Nat} {stage : ReserveStage}

/-- An errand that is over once it has removed a request has told of it. -/
theorem disposed_of_finish {waiting : Errand} {reply r : Reply}
    (hthere : (w.scene.request? b id).isSome)
    (hstep : w.disposeRequest b id waiting (.finish reply) = .finish r w') :
    r = reply ∧ w'.scene.hasDisposed b id = true := by
  unfold disposeRequest at hstep
  split at hstep
  · exact absurd hstep (by simp)
  · obtain ⟨rfl, rfl⟩ := Progress.finish.inj hstep
    exact ⟨rfl, hasDisposed_removeRequest hthere⟩

/-- A reservation that returns has a request with a core, or has disposed of the request. -/
theorem reserve_finishes (hw : w.IsSound) (hkept : w.IsKept b id)
    (hmem : (n, .reserve b preference token service stage) ∈ w.errands) (hid : stage.id? = some id)
    {reply : Reply} (hstep : w.stepErrand n (.reserve b preference token service stage) =
      some (.finish reply w')) :
    (reply = .created b id ∧ ∃ r, w'.scene.request? b id = some r ∧ r.isListed = true ∧
      r.isAssigned = true) ∨
    (reply = .fault .cancelled ∧ w'.scene.hasDisposed b id = true) := by
  have hinLine := hkept.inLine _ (mem_doing_none.mpr ⟨n, hmem⟩)
  cases stage with
  | drafting => exact absurd hid (by simp [ReserveStage.id?])
  | entering draft =>
    simp only [stepErrand] at hstep
    obtain ⟨found, s, -, hact⟩ := finish_of_underGuard hstep
    exact absurd hact (by simp)
  | waiting k =>
    obtain rfl : k = id := Option.some.inj hid
    obtain ⟨r, hrequest⟩ := Option.isSome_iff_exists.mp (hinLine rfl rfl)
    simp only [stepErrand] at hstep
    split at hstep
    · exact absurd hstep (by simp)
    · rename_i hsettled
      obtain ⟨rfl, rfl⟩ := Progress.finish.inj (Option.some.inj hstep)
      -- The errand still has the handle, so nobody has disposed of the request.
      have hunused := hkept.uses_eq hmem rfl
      refine .inl ⟨rfl, r, hrequest, ?_, isAssigned_of_settled? hw hrequest hsettled⟩
      by_contra hnot
      have hused := hw.scene.uses_pos_of_unlisted hrequest (Bool.eq_false_iff.mpr hnot)
      omega
    · exact absurd hstep (by simp)
  | abandoning k reason =>
    obtain rfl : k = id := Option.some.inj hid
    obtain ⟨hthere, hreason⟩ := hinLine rfl rfl
    have hunused := hkept.uses_eq hmem rfl
    obtain rfl : reason = .cancelled := hreason.resolve_right (by omega)
    simp only [stepErrand] at hstep
    obtain ⟨found, s, hentered, hact⟩ := finish_of_underGuard hstep
    obtain ⟨haside, -⟩ := Scene.aside_of_entered hentered
    have hstill : ((w.withScene s).scene.request? b k).isSome := by
      rw [show (w.withScene s).scene = s from rfl, haside.request?]
      exact hthere
    exact .inr (disposed_of_finish hstill hact)
  | disposing k reason =>
    obtain rfl : k = id := Option.some.inj hid
    obtain ⟨hdisposed, rfl⟩ := hinLine rfl rfl
    simp only [stepErrand, Option.some.injEq] at hstep
    obtain ⟨rfl, rfl⟩ := Progress.finish.inj hstep
    exact .inr ⟨rfl, hdisposed⟩

/-! ## Calls that are abandoned -/

/-- An errand that cleans up disposes of the request as soon as it has the guard. -/
theorem cleanUp_disposes (chance : Chance) (hw : w.IsSound) (hcleanUp : (n, .cleanUp b id) ∈ w.errands)
    (hthere : (w.scene.request? b id).isSome) {found : Board} {s : Scene}
    (hentered : w.scene.enter b (.errand n) = .entered found s) :
    (w.perform chance (.step (.errand n))).scene.hasDisposed b id = true := by
  have hstep : w.stepErrand n (.cleanUp b id) = some ((w.withScene s).disposeRequest b id
      (.disposing b id .nothing) (.finish .done)) := by
    simp only [stepErrand, underGuard, hentered]
  obtain ⟨haside, -⟩ := Scene.aside_of_entered hentered
  have hstill : ((w.withScene s).scene.request? b id).isSome := by
    rw [show (w.withScene s).scene = s from rfl, haside.request?]
    exact hthere
  have hremoved : ((w.withScene s).disposeRequest b id (.disposing b id .nothing)
      (.finish .done)).world.scene.hasDisposed b id = true := by
    unfold disposeRequest
    split <;> exact hasDisposed_removeRequest hstill
  obtain ⟨core, htold⟩ := Scene.hasDisposed_iff.mp hremoved
  rw [perform_errand chance hw.orderly hcleanUp hstep]
  exact Scene.hasDisposed_iff.mpr ⟨core, mem_story_conclude hw hcleanUp hstep htold⟩

/-- An errand that cleans up cannot be abandoned, and is there until it has disposed of the request. -/
theorem cleanUp_stays (chance : Chance) (hw : w.IsSound) (hkept : w.IsKept b id)
    (hcleanUp : (n, .cleanUp b id) ∈ w.errands) (hthere : (w.scene.request? b id).isSome) {m : Move}
    (hm : m.handles b id = false) :
    (n, .cleanUp b id) ∈ (w.perform chance m).errands ∨
      (w.perform chance m).scene.hasDisposed b id = true := by
  have hfind : w.errands.find? (·.1 == n) = some (n, .cleanUp b id) :=
    find?_key hw.orderly.errands hcleanUp
  by_cases hactor : m.actor = some (.errand n)
  · cases m with
    | step t =>
      obtain rfl : t = .errand n := Option.some.inj hactor
      cases hentered : w.scene.enter b (.errand n) with
      | blocked =>
        have hblocked : w.step chance (.errand n) = none := by
          simp only [step, hfind, stepErrand, underGuard, hentered, Option.map_none]
        rw [perform_step_of_none hblocked]
        exact .inl hcleanUp
      | joined s =>
        have hstep : w.stepErrand n (.cleanUp b id) = some (.goOn (.cleanUp b id) (w.withScene s)) := by
          simp only [stepErrand, underGuard, hentered]
        rw [perform_errand chance hw.orderly hcleanUp hstep]
        exact .inl (List.mem_map.mpr ⟨_, hcleanUp, by simp⟩)
      | entered found s => exact .inr (cleanUp_disposes chance hw hcleanUp hthere hentered)
    | abandon k =>
      obtain rfl : k = n := by simpa [Move.actor] using hactor
      left
      simp only [perform, abandon, hfind, isWaitedFor, Bool.false_eq_true, if_false]
      exact hcleanUp
    | _ => exact absurd hactor (by simp [Move.actor])
  · exact .inl ((perform_handleFlow chance hw hkept.unshared hkept.inLine hm).stays _ hcleanUp hactor)

/-- What abandoning an errand that the client waits for comes to. -/
theorem abandon_eq (hw : w.IsOrderly) (hmem : (n, x) ∈ w.errands) (hx : isWaitedFor x = true) :
    w.abandon n =
      ({ w with errands := w.errands.filter (·.1 != n) }.wrapUp n x).settleStake x := by
  have hfind : w.errands.find? (·.1 == n) = some (n, x) := find?_key hw.errands hmem
  simp only [abandon, hfind, hx, if_true]

/-- A reservation that is abandoned after it has entered its request leaves an errand behind that cleans
up. -/
theorem abandon_cleansUp (hw : w.IsOrderly)
    (hmem : (n, .reserve b preference token service stage) ∈ w.errands) (hid : stage.id? = some id)
    (hentered : ∀ draft, stage ≠ .entering draft) :
    ∃ k, (k, .cleanUp b id) ∈ (w.abandon n).errands := by
  rw [abandon_eq hw hmem rfl]
  have hstays : ∀ w₁ : World, (∃ k, (k, .cleanUp b id) ∈ w₁.errands) → ∃ k, (k, .cleanUp b id) ∈
      (w₁.settleStake (.reserve b preference token service stage)).errands := by
    rintro w₁ ⟨k, hk⟩
    have hsettled : HandleFlow none none b id w₁ none
        (w₁.settleStake (.reserve b preference token service stage)) none :=
      settleStake_handleFlow (by cases service <;> simp [Errand.stake?])
    exact ⟨k, hsettled.stays _ hk (by simp)⟩
  refine hstays _ ?_
  cases stage with
  | drafting => exact absurd hid (by simp [ReserveStage.id?])
  | entering draft => exact absurd rfl (hentered draft)
  | waiting k | abandoning k reason | disposing k reason =>
    obtain rfl : k = id := Option.some.inj hid
    exact ⟨_, List.mem_append_right _ (List.mem_singleton_self _)⟩

/-- A reservation that is abandoned before it has entered its request never does. -/
theorem abandon_entering (hw : w.IsSound) {draft : Request Core}
    (hmem : (n, .reserve b preference token service (.entering draft)) ∈ w.errands) :
    (w.abandon n).IsVoid draft.id := by
  have hdrafted : World.drafted { w with errands := w.errands.filter (·.1 != n) } none draft.id + 1 =
      w.drafted none draft.id := by
    have hcount := countP_remove hw.orderly.errands hmem rfl (·.2.drafts draft.id)
    simpa [drafted, Errand.drafts, Errand.draft?] using hcount
  have hapart : World.IsVoid { w with errands := w.errands.filter (·.1 != n) } draft.id := by
    have honce := hw.numbers draft.id
    refine ⟨Nat.not_le.mp fun hnew => ?_, ?_⟩
    · have hnone := hw.numbersBelow draft.id hnew
      omega
    · show _ + w.scene.story.countP (·.enters draft.id) = 0
      omega
  have hended : ClientStep w none none [] { w with errands := w.errands.filter (·.1 != n) } none :=
    (ClientStep.ended rfl).finished hw.orderly hmem rfl
  have hwrapped : ClientStep { w with errands := w.errands.filter (·.1 != n) } none none []
      (World.wrapUp { w with errands := w.errands.filter (·.1 != n) } n
        (.reserve b preference token service (.entering draft))) none := wrapUp_clientStep _ n rfl
  obtain ⟨events, hsettled⟩ := settleStake_clientStep (hwrapped.orderly (hended.orderly hw.orderly)) none
    (.reserve b preference token service (.entering draft))
  rw [abandon_eq hw.orderly hmem rfl]
  exact (hapart.clientStep hwrapped).clientStep hsettled

end World

section Run

variable (chance : Chance) {moves later : List Move} {b id n : Nat}

/-- As long as no move of the client names the request, the client does not have its handle. -/
theorem run_isKept (hunnamed : ∀ m ∈ moves, m.handles b id = false) :
    (run chance moves).world.IsKept b id := by
  induction moves using List.reverseRecOn with
  | nil =>
    exact ⟨Nat.zero_le 1, fun _ => rfl, ⟨fun x hx => absurd hx List.not_mem_nil, List.not_mem_nil⟩,
      fun x hx => absurd hx List.not_mem_nil⟩
  | append_singleton moves m ih =>
    have hkept := ih fun m hm => hunnamed m (List.mem_append_left _ hm)
    rw [run_concat]
    exact hkept.handleFlow
      (World.perform_handleFlow chance (run_isSound chance moves) hkept.unshared hkept.inLine
      (hunnamed m (List.mem_append_right _ (List.mem_singleton_self m))))

/-- Nothing is left of a request once it was disposed of, as long as no move of the client names it. -/
theorem isRidForGood_of_unnamed (hunnamed : ∀ m ∈ moves, m.handles b id = false)
    (hdisposed : (run chance moves).world.scene.hasDisposed b id = true) :
    IsRidForGood chance moves b id := by
  obtain ⟨core, htold⟩ := Scene.hasDisposed_iff.mp hdisposed
  exact isRidForGood_of_disposed htold (run_isKept chance hunnamed).uses_le

/-- An errand that cleans up is there until nothing is left of the request. -/
theorem run_cleansUp (hunnamed : ∀ m ∈ moves ++ later, m.handles b id = false)
    (hthere : ((run chance moves).world.scene.request? b id).isSome)
    (hcleanUp : (n, Errand.cleanUp b id) ∈ (run chance moves).world.errands) :
    (n, Errand.cleanUp b id) ∈ (run chance (moves ++ later)).world.errands ∨
      IsRidForGood chance (moves ++ later) b id := by
  induction later using List.reverseRecOn with
  | nil =>
    rw [List.append_nil]
    exact .inl hcleanUp
  | append_singleton later m ih =>
    rw [← List.append_assoc] at hunnamed ⊢
    have hbefore : ∀ m ∈ moves ++ later, m.handles b id = false := fun m hm =>
      hunnamed m (List.mem_append_left _ hm)
    rcases ih hbefore with hstill | hgone
    · obtain ⟨r, hrequest⟩ := Option.isSome_iff_exists.mp hthere
      obtain ⟨r', hrequest', -⟩ := request_lasts hrequest later
      have hstays := World.cleanUp_stays chance (run_isSound chance (moves ++ later))
        (run_isKept chance hbefore) hstill (Option.isSome_iff_exists.mpr ⟨r', hrequest'⟩)
        (hunnamed m (List.mem_append_right _ (List.mem_singleton_self m)))
      rw [← run_concat] at hstays
      exact hstays.imp_right (isRidForGood_of_unnamed chance hunnamed)
    · exact .inr (hgone.append [m])

variable {preference : Preference} {token : Token} {service : Option Nat} {stage : ReserveStage}

/-- When a reservation is abandoned, its request was entered and an errand cleans up after it, or nothing
ever comes of it. -/
theorem run_abandon
    (hreserve : (n, Errand.reserve b preference token service stage) ∈ (run chance moves).world.errands)
    (hid : stage.id? = some id) (hunnamed : ∀ m ∈ moves, m.handles b id = false) :
    IsRidForGood chance (moves ++ [Move.abandon n]) b id ∨
      (((run chance (moves ++ [Move.abandon n])).world.scene.request? b id).isSome ∧
        ∃ k, (k, Errand.cleanUp b id) ∈ (run chance (moves ++ [Move.abandon n])).world.errands) := by
  have hw := run_isSound chance moves
  have hinLine := (run_isKept chance hunnamed).inLine _ (World.mem_doing_none.mpr ⟨n, hreserve⟩)
  have hentered : (∀ draft, stage ≠ .entering draft) →
      ((run chance moves).world.scene.request? b id).isSome →
      ((run chance (moves ++ [Move.abandon n])).world.scene.request? b id).isSome ∧
        ∃ k, (k, Errand.cleanUp b id) ∈ (run chance (moves ++ [Move.abandon n])).world.errands := by
    intro hstage hthere
    obtain ⟨r, hrequest⟩ := Option.isSome_iff_exists.mp hthere
    obtain ⟨r', hrequest', -⟩ := request_lasts hrequest [Move.abandon n]
    refine ⟨Option.isSome_iff_exists.mpr ⟨r', hrequest'⟩, ?_⟩
    rw [run_concat]
    exact World.abandon_cleansUp hw.orderly hreserve hid hstage
  cases stage with
  | drafting => exact absurd hid (by simp [ReserveStage.id?])
  | entering draft =>
    obtain rfl : draft.id = id := Option.some.inj hid
    refine .inl (isRidForGood_of_isVoid ?_ b)
    rw [run_concat]
    exact World.abandon_entering hw hreserve
  | waiting k =>
    obtain rfl : k = id := Option.some.inj hid
    exact .inr (hentered (by simp) (hinLine rfl rfl))
  | abandoning k reason =>
    obtain rfl : k = id := Option.some.inj hid
    exact .inr (hentered (by simp) (hinLine rfl rfl).1)
  | disposing k reason =>
    obtain rfl : k = id := Option.some.inj hid
    exact .inl ((isRidForGood_of_unnamed chance hunnamed (hinLine rfl rfl).1).append _)

end Run

/-- The token of a reservation fires while it waits, and before the request is removed it gets a core, the
disposal of which the reservation then waits for. -/
def lateCoreRun : List Move :=
  [.found, .begin (.reserve 0 .requireLocal ⟨9, []⟩ none .drafting), .step (.errand 0),
    .step (.errand 0), .fire ⟨9, []⟩, .step (.errand 0), .make "test" 1 .immediate,
    .begin (.ask 0 (.snapshot .all) none), .step (.errand 3), .assignUnder ⟨4, 0, [1]⟩ 1 testCore,
    .dropSnapshot ⟨4, 0, [1]⟩, .step (.errand 0)]

end CoreBroker
