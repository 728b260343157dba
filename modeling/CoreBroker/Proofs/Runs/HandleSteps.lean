import CoreBroker.Proofs.Runs.Handles
import CoreBroker.Proofs.Runs.Verdicts
set_option autoImplicit false

/-!
# What steps of errands do with handles

A step of an errand uses a handle only if the errand has it, and a handle is made with the number of the
request.  So a step of an errand hands the handle on at most, or uses it up, unless the errand waits for the
request on a handle that the client has.
-/

namespace CoreBroker

namespace Scene.IsSound

variable {s : Scene} {b id : Nat}

/-- A request is there just if it was entered. -/
theorem isSome_request?_iff (hs : s.IsSound) : (s.request? b id).isSome ↔
    ∃ q, .changed b (.entered q) ∈ s.story ∧ q.id = id := by
  cases hboard : s.stage.boards[b]? with
  | none =>
    have hnone : s.request? b id = none := by
      rw [request?_eq_stage, hboard]
      rfl
    have huntold := hs.untold b (List.getElem?_eq_none_iff.mp hboard)
    refine ⟨fun h => absurd h (by simp [hnone]), fun ⟨q, hentered, _⟩ => ?_⟩
    rw [← mem_changesOf, huntold] at hentered
    exact absurd hentered List.not_mem_nil
  | some board =>
    have hids := (hs.told b board.1 board.2 hboard).ids_eq
    have hmem : (∃ r ∈ board.1.requests, r.id = id) ↔
        ∃ change ∈ changesOf b s.story, change.enteredId? = some id := by
      rw [← List.mem_map, hids, List.mem_reverse, List.mem_filterMap]
    rw [request?_of_board hboard, Registry.get?, List.find?_isSome]
    simp only [beq_iff_eq, hmem]
    constructor
    · rintro ⟨change, hchange, hid⟩
      cases change with
      | entered q => exact ⟨q, mem_changesOf.mp hchange, Option.some.inj hid⟩
      | _ => exact absurd hid (by simp [RegistryChange.enteredId?])
    · rintro ⟨q, hentered, rfl⟩
      exact ⟨_, mem_changesOf.mpr hentered, rfl⟩

/-- A request that is gone was disposed of. -/
theorem uses_pos_of_unlisted (hs : s.IsSound) {r : Request Core} (hrequest : s.request? b id = some r)
    (hlisted : r.isListed = false) : 0 < s.uses b id := by
  obtain ⟨board, hboard, hget⟩ := Option.bind_eq_some_iff.mp hrequest
  obtain ⟨hmem, rfl⟩ := Registry.get?_eq_some hget
  have hany := ((hs.told b _ _ (stage_board hboard)).registryHistory.requests r hmem).listed
  rw [hlisted, Bool.not_false, List.any_eq_true] at hany
  obtain ⟨change, hchange, hdisposes⟩ := hany
  have hdisposed : s.hasDisposed b r.id = true := by
    cases change with
    | disposed n core =>
      obtain rfl : n = r.id := eq_of_beq hdisposes
      exact hasDisposed_iff.mpr ⟨core, mem_changesOf.mp hchange⟩
    | _ => exact absurd hdisposes Bool.false_ne_true
  rw [uses, hdisposed]
  exact Nat.succ_pos _

/-- As long as a request has its core, no handle of it was used. -/
theorem uses_of_hasCore (hs : s.IsSound) (hcore : s.hasCore b id = true) : s.uses b id = 0 := by
  obtain ⟨r, hrequest, hsome⟩ := (Option.any_eq_true _ _).mp hcore
  obtain ⟨core, hheld⟩ := Option.isSome_iff_exists.mp hsome
  obtain ⟨board, hboard, hget⟩ := Option.bind_eq_some_iff.mp hrequest
  obtain ⟨hmem, rfl⟩ := Registry.get?_eq_some hget
  have hfollows := (hs.told b _ _ (stage_board hboard)).registryHistory.requests r hmem
  have htaken : s.story.countP (·.takesFrom b r.id) = 0 := by
    refine List.countP_eq_zero.mpr fun event hevent htakes => ?_
    unfold Event.takesFrom at htakes
    split at htakes
    · rename_i k n taken
      obtain ⟨rfl, rfl⟩ : k = b ∧ n = r.id := by simpa using htakes
      exact hfollows.not_taken hheld taken (mem_changesOf.mpr hevent)
    · exact absurd htakes Bool.false_ne_true
  have hlisted : s.hasDisposed b r.id = false := by
    refine Bool.eq_false_iff.mpr fun hdisposed => ?_
    obtain ⟨spent, htold⟩ := hasDisposed_iff.mp hdisposed
    have hany := hfollows.listed
    rw [hfollows.coherent.listed_of_core hsome, Bool.not_true, List.any_eq_false] at hany
    exact hany _ (mem_changesOf.mpr htold) (by simp)
  rw [uses, htaken, hlisted]
  rfl

end Scene.IsSound

namespace World

variable {actor : Option Task} {away : Option Nat} {b id : Nat} {w : World} {x : Errand} {serial : Nat}
  {p : Progress}

/-- What became of the handle in a step of an errand. -/
def Progress.PassesHandle (actor : Option Task) (away : Option Nat) (b id : Nat) (w : World) (x : Errand)
    (p : Progress) : Prop :=
  HandleFlow actor away b id w (some x) p.world p.errand?

open Progress (PassesHandle)

/-- Waiting for a request ends without a core because the token has fired, unless the request is gone. -/
theorem settled?_error (hw : w.IsSound) {r : Request Core}
    (hrequest : w.scene.request? b id = some r) {token : Token} {reason : Fault Nat}
    (hsettled : w.settled? b id token = some (.error reason)) :
    reason = .cancelled ∨ r.isListed = false := by
  obtain ⟨g, changes, hboard, hmem, -⟩ := Scene.exists_board_of_request hrequest
  have hphase := ((hw.scene.stage.requests hboard).2 r hmem).phase
  rw [settled?_of_request hrequest] at hsettled
  cases hcase : r.phase with
  | fulfilled => simp [hcase] at hsettled
  | pending =>
    simp only [hcase] at hsettled
    split at hsettled
    · exact .inl (Except.error.inj (Option.some.inj hsettled)).symm
    · exact absurd hsettled (by simp)
  | disposed =>
    rw [hcase, Request.impliedPhase] at hphase
    right
    split at hphase
    · exact absurd hphase (by simp)
    · split at hphase
      · exact absurd hphase (by simp)
      · exact Bool.eq_false_iff.mpr ‹_›

theorem finish_handleFlow {w₁ : World} {r : Reply}
    (hflow : HandleFlow actor away b id w (some x) w₁ (some x)) :
    PassesHandle actor away b id w x (.finish r w₁) := hflow.trans .ended

/-- The errand goes on with the handles that it had, if any. -/
theorem goOn_handleFlow {w₁ : World} {x' : Errand} (hholds : ∀ s, x'.holds s b id = x.holds s b id)
    (hstake : x'.stake? = x.stake?) (hinLine : ∀ s, x.IsInLine s b id → x'.IsInLine s b id)
    (hflow : HandleFlow actor away b id w (some x) w₁ (some x)) :
    PassesHandle actor away b id w x (.goOn x' w₁) :=
  hflow.trans (.goesOn (Nat.le_of_eq (hholds _)) (fun h => hstake ▸ h) (hinLine _))

/-! ## Parts of steps -/

theorem underGuard_handleFlow {board : Nat} {act : Board → World → Progress} (hw : w.IsSound)
    (hstep : w.underGuard x serial board act = some p)
    (hact : ∀ found s, (w.withScene s).IsSound →
      s.stage.boards[board]? = some (found.registry, found.changes) →
        PassesHandle actor away b id (w.withScene s) x (act found (w.withScene s))) :
    PassesHandle actor away b id w x p := by
  unfold underGuard at hstep
  cases henter : w.scene.enter board (.errand serial) with
  | blocked => simp [henter] at hstep
  | joined s =>
    simp only [henter, Option.some.injEq] at hstep
    rw [← hstep]
    exact .of_aside (Scene.aside_of_joined henter) rfl rfl
  | entered found s =>
    simp only [henter, Option.some.injEq] at hstep
    rw [← hstep]
    obtain ⟨haside, hboard, -⟩ := Scene.aside_of_entered henter
    have hclient : ClientStep w none none [] (w.withScene s) none := .aside haside
    have hentered : HandleFlow actor away b id w (some x) (w.withScene s) (some x) := .of_aside haside rfl rfl
    refine hentered.trans (hact found s (hclient.isSound hw) ?_)
    rw [haside.stage]
    exact Scene.stage_board hboard

/-- A request gets its number, and the errand its handle. -/
theorem draft_handleFlow {x' : Errand} (board : Nat) (preference : Preference)
    (hhandles : x'.handles = x.handles ++ [(board, w.scene.nextSerial)])
    (hholds : x.holds w.scene b id = x.handles.count (b, id))
    (hstake : x'.stake? = some (.request b id) → x.stake? = some (.request b id))
    (hinLine : ∀ s, x'.IsInLine s b id) :
    HandleFlow actor away b id w (some x) (w.withScene (w.scene.draft preference).2) (some x') := by
  have hadvances : w.scene.SceneAdvances b id (w.scene.draft preference).2 :=
    ⟨Nat.le_succ _, fun h => h, List.suffix_refl _⟩
  refine ⟨hadvances, ?_, fun h => ?_, fun h y hy => ?_, fun _ hy _ => hy⟩
  · have hcount : [(board, w.scene.nextSerial)].count (b, id) ≤
        (decide (w.scene.nextSerial ≤ id ∧ id < w.scene.nextSerial + 1)).toNat := by
      by_cases hid : w.scene.nextSerial = id
      · have hnew : w.scene.nextSerial ≤ id ∧ id < w.scene.nextSerial + 1 := by omega
        rw [decide_eq_true hnew]
        exact List.count_le_length
      · simp [hid]
    have hsame : World.handled (w.withScene (w.scene.draft preference).2) away none b id =
        w.handled away none b id := rfl
    have hafter := Errand.holds_le (w.scene.draft preference).2 b id x'
    rw [hhandles, List.count_append] at hafter
    rw [handled_some, handled_some, hsame, hholds]
    have hnext : (w.withScene (w.scene.draft preference).2).scene.nextSerial =
        w.scene.nextSerial + 1 := rfl
    rw [hnext]
    show _ + x'.holds (w.scene.draft preference).2 b id ≤ _
    omega
  · rw [isUnshared_some] at h ⊢
    exact ⟨h.1, fun hafter => h.2 (hstake hafter)⟩
  · rcases mem_doing_some.mp hy with hy | rfl
    · exact (h y (mem_doing_some.mpr (.inl hy))).mono hadvances
    · exact hinLine _

/-- What is told when a request is removed that is there. -/
theorem acts_removeRequest {board n : Nat} {q : Request Core}
    (hrequest : w.scene.request? board n = some q) :
    w.scene.ActSequence (fun _ _ => True) ((q.core.toList.map Event.disposed).reverse ++
      [Event.changed board (.disposed n q.core)]) (w.removeRequest board n).scene := by
  obtain ⟨hcore, hperforms⟩ := Scene.performs_disposeRequest hrequest
  rw [← hcore]
  rw [← hcore] at hperforms
  exact ((hperforms.andAside (Scene.aside_leave _ board)).acts trivial).trans
    (Scene.acts_disposeCores (fun _ _ => trivial) _ _)

/-- Removing a request takes no core from any, and the handle of this one at most. -/
theorem removeRequest_spends (w : World) (b id board n : Nat) : ∃ events,
    w.scene.ActSequence (fun _ _ => True) events (w.removeRequest board n).scene ∧
      events.countP (·.takesFrom b id) = 0 ∧
        events.countP (·.disposesOf b id) ≤ [(board, n)].count (b, id) := by
  cases hrequest : w.scene.request? board n with
  | none =>
    unfold removeRequest
    rw [Scene.disposeRequest_of_none hrequest]
    exact ⟨[], .aside .refl (w.scene.aside_leave board), rfl, Nat.zero_le _⟩
  | some q =>
    have hcores : ∀ event ∈ (q.core.toList.map Event.disposed).reverse,
        event.takesFrom b id = false ∧ event.disposesOf b id = false := fun event hevent => by
      obtain ⟨core, -, rfl⟩ := List.mem_map.mp (List.mem_reverse.mp hevent)
      exact ⟨rfl, rfl⟩
    refine ⟨_, acts_removeRequest hrequest, ?_, ?_⟩
    · rw [List.countP_append, List.countP_eq_zero.mpr fun event hevent => by
        simp [(hcores event hevent).1]]
      rfl
    · rw [List.countP_append, List.countP_eq_zero.mpr fun event hevent => by
        simp [(hcores event hevent).2], Nat.zero_add, List.countP_singleton, List.count_singleton]
      simp [Event.disposesOf]

/-- Whoever removes a request has used the handle up, unless the request was disposed of before. -/
theorem removeRequest_handleFlow (w : World) {board n : Nat} {x' : Errand}
    (hleft : x'.handles.count (b, id) ≤ x.holds w.scene b id)
    (hspent : w.scene.hasDisposed b id = false →
      x'.handles.count (b, id) + [(board, n)].count (b, id) ≤ x.holds w.scene b id)
    (hstake : x'.stake? ≠ some (.request b id))
    (hinLine : x.IsInLine w.scene b id → x'.IsInLine (w.removeRequest board n).scene b id) :
    HandleFlow actor away b id w (some x) (w.removeRequest board n) (some x') := by
  obtain ⟨events, hacts, htaken, hdisposed⟩ := w.removeRequest_spends b id board n
  have hadvances : w.scene.SceneAdvances b id (w.removeRequest board n).scene := hacts.advances
  refine ⟨hadvances, ?_, fun h => ?_, fun h y hy => ?_, fun _ hy _ => hy⟩
  · have hheld := Errand.holds_le (w.removeRequest board n).scene b id x'
    rw [handled_some, handled_some]
    cases hcase : w.scene.hasDisposed b id with
    | true =>
      have huses : (w.removeRequest board n).scene.uses b id ≤ w.scene.uses b id + 0 := by
        have hbefore : (w.removeRequest board n).scene.hasDisposed b id = true :=
          hadvances.hasDisposed hcase
        rw [Scene.uses, Scene.uses, hbefore, hcase, hacts.story_eq, List.countP_append, htaken]
        omega
      have hothers : (w.removeRequest board n).handled away none b id ≤
          w.handled away none b id + 0 := handled_le rfl hadvances huses
      omega
    | false =>
      have huses := hacts.uses_le b id
      rw [Event.countP_needsHandle, htaken, Nat.zero_add] at huses
      have hothers : (w.removeRequest board n).handled away none b id ≤
          w.handled away none b id + events.countP (·.disposesOf b id) := handled_le rfl hadvances huses
      have hgone := hspent hcase
      omega
  · rw [isUnshared_some] at h ⊢
    exact ⟨h.1, hstake⟩
  · rcases mem_doing_some.mp hy with hy | rfl
    · exact (h y (mem_doing_some.mpr (.inl hy))).mono hadvances
    · exact hinLine (h x (mem_doing_some.mpr (.inr rfl)))

/-- A request that is there is told to be disposed of as it is removed. -/
theorem hasDisposed_removeRequest (hthere : (w.scene.request? b id).isSome) :
    (w.removeRequest b id).scene.hasDisposed b id = true := by
  obtain ⟨q, hrequest⟩ := Option.isSome_iff_exists.mp hthere
  refine Scene.hasDisposed_iff.mpr ⟨q.core, ?_⟩
  rw [(acts_removeRequest hrequest).story_eq]
  exact List.mem_append_left _ (List.mem_append_right _ (List.mem_singleton_self _))

theorem isSome_of_hasCore {s : Scene} {board n : Nat} (hcore : s.hasCore board n = true) :
    (s.request? board n).isSome := by
  obtain ⟨r, hrequest, -⟩ := (Option.any_eq_true _ _).mp hcore
  exact Option.isSome_iff_exists.mpr ⟨r, hrequest⟩

/-- While its core is being disposed of, so was the request. -/
theorem disposing_inLine {board n : Nat} {left : Remainder} (hcore : w.scene.hasCore board n = true) :
    (Errand.disposing board n left).IsInLine (w.removeRequest board n).scene b id :=
  fun hb hid => hb ▸ hid ▸ hasDisposed_removeRequest (isSome_of_hasCore hcore)

/-- An errand that disposes of requests, with `rest` of them to follow. -/
theorem disposeRequest_handleFlow (w : World) (rest : List (Nat × Nat)) {board n : Nat} {waiting : Errand}
    {next : World → Progress} (hhandles : waiting.handles = rest)
    (hleft : rest.count (b, id) ≤ x.holds w.scene b id)
    (hspent : w.scene.hasDisposed b id = false →
      rest.count (b, id) + [(board, n)].count (b, id) ≤ x.holds w.scene b id)
    (hstake : waiting.stake? ≠ some (.request b id))
    (hinLine : w.scene.hasCore board n = true → x.IsInLine w.scene b id →
      waiting.IsInLine (w.removeRequest board n).scene b id)
    (hnext : ∀ w₁ : World, PassesHandle actor away b id w₁ (.disposeAll rest 0) (next w₁)) :
    PassesHandle actor away b id w x (w.disposeRequest board n waiting next) := by
  unfold disposeRequest
  split
  · rename_i hcore
    have hremoved : HandleFlow actor away b id w (some x) (w.removeRequest board n) (some waiting) :=
      removeRequest_handleFlow w (hhandles ▸ hleft) (hhandles ▸ hspent) hstake (hinLine hcore)
    exact hremoved
  · have hremoved : HandleFlow actor away b id w (some x) (w.removeRequest board n)
        (some (.disposeAll rest 0)) :=
      removeRequest_handleFlow w hleft hspent (by simp [Errand.stake?]) fun _ => trivial
    exact hremoved.trans (hnext _)

theorem takeCore_handleFlow (w : World) {board n : Nat} (e : Option Errand)
    (hother : ¬ (board = b ∧ n = id)) : HandleFlow actor away b id w e (w.takeCore board n).2 e := by
  unfold takeCore
  split
  · rename_i core s htake
    have htaken := (Scene.performs_takeCore htake).andAside
      (ClientStep.aside_receiveCore (w.withScene s) core)
    refine .of_act htaken (fun event hevent => ?_) rfl rfl
    rw [List.mem_singleton.mp hevent]
    simpa [Event.needsHandle, Event.takesFrom, Event.disposesOf] using hother
  · exact .refl w

theorem answer_handleFlow {board : Nat} {found : Board}
    (hboard : w.scene.stage.boards[board]? = some (found.registry, found.changes)) (query : Query) :
    PassesHandle actor away b id w x (w.answer board found query) := by
  have hplain : ∀ r, PassesHandle actor away b id w x (.finish r (w.leave board)) := fun r =>
    finish_handleFlow (.of_aside (w.scene.aside_leave board) rfl rfl)
  cases query with
  | statistics => exact hplain _
  | counts => exact hplain _
  | summaries => exact hplain _
  | count c => exact hplain _
  | hasNext includeLocal remoteDelay => exact hplain _
  | next includeLocal remoteDelay =>
    simp only [answer]
    split
    · exact hplain _
    · rename_i r hnext
      obtain ⟨hmem, hcandidate⟩ := Registry.next?_candidate hnext
      have hreserved := (((Scene.performs_reserveRequest hboard hmem hcandidate).andAside
        (Scene.aside_leave _ board)).andAside (Scene.aside_reportReserved _ board r.id)).andAside
        (Scene.aside_fresh _)
      exact finish_handleFlow (.of_act hreserved (fun _ hevent => List.mem_singleton.mp hevent ▸ rfl) rfl rfl)
  | snapshot c =>
    simp only [answer]
    exact finish_handleFlow (.of_aside (w.scene.aside_fresh.trans
      (Scene.aside_modifyBoard _ board (fun _ => rfl) fun _ => rfl)) rfl rfl)

/-! ## Errands -/

/-- The request that is drafted is entered, and the errand keeps its handle. -/
theorem enterRequest_handleFlow (hw : w.IsSound) (hmem : (serial, x) ∈ w.errands) {q : Request Core}
    {board : Nat} {g : Registry Core} {changes : Channel Statistics}
    (hboard : w.scene.stage.boards[board]? = some (g, changes)) (hdraft : x.draft? = some q) :
    HandleFlow actor away b id w (some x) (w.enterRequest board q) (some x) ∧
      ((w.enterRequest board q).scene.request? board q.id).isSome := by
  have hentered := (Scene.performs_enterRequest hboard (hw.draft_new hmem hdraft hboard)
    (hw.orderly.fresh _ hmem q hdraft)).andAside (Scene.aside_leave _ board)
  refine ⟨.of_act hentered (fun _ hevent => List.mem_singleton.mp hevent ▸ rfl) rfl rfl, ?_⟩
  refine (hw.scene.performs hentered).isSome_request?_iff.mpr ⟨q, ?_, rfl⟩
  rw [hentered.story]
  exact List.mem_cons_self

theorem create_handleFlow (hw : w.IsSound) {board left : Nat} {preference : Preference} {made : List Nat}
    {draft : Option (Request Core)} {isMany : Bool}
    (hmem : (serial, .create board preference left made draft isMany) ∈ w.errands)
    (hstep : w.stepErrand serial (.create board preference left made draft isMany) = some p) :
    PassesHandle actor away b id w (.create board preference left made draft isMany) p := by
  cases draft with
  | none =>
    simp only [stepErrand, Option.some.injEq] at hstep
    rw [← hstep]
    refine draft_handleFlow board preference ?_ rfl (fun h => h) fun _ => trivial
    simp [Errand.handles, Scene.draft, Scene.fresh]
  | some draft =>
    simp only [stepErrand] at hstep
    refine underGuard_handleFlow hw hstep fun found s hs hboard => ?_
    have hentered : HandleFlow actor away b id (w.withScene s) _
      ((w.withScene s).enterRequest board draft) _ :=
      (enterRequest_handleFlow hs hmem hboard rfl).1
    split
    · exact goOn_handleFlow (fun _ => by simp [Errand.holds, Errand.handles]) rfl (fun _ _ => trivial)
        hentered
    · split
      · exact finish_handleFlow hentered
      · exact finish_handleFlow hentered

theorem reserve_handleFlow (hw : w.IsSound) {board : Nat} {preference : Preference} {token : Token}
    {service : Option Nat} {stage : ReserveStage}
    (hmem : (serial, .reserve board preference token service stage) ∈ w.errands)
    (hstep : w.stepErrand serial (.reserve board preference token service stage) = some p) :
    PassesHandle actor away b id w (.reserve board preference token service stage) p := by
  cases stage with
  | drafting =>
    simp only [stepErrand, Option.some.injEq] at hstep
    rw [← hstep]
    exact draft_handleFlow board preference rfl rfl (fun h => h) fun _ => trivial
  | entering draft =>
    simp only [stepErrand] at hstep
    refine underGuard_handleFlow hw hstep fun found s hs hboard => ?_
    obtain ⟨hentered, hthere⟩ : HandleFlow actor away b id (w.withScene s) _
        ((w.withScene s).enterRequest board draft) _ ∧ _ := enterRequest_handleFlow hs hmem hboard rfl
    refine hentered.trans (.goesOn (Nat.le_refl _) (fun h => h) fun _ hb hid => ?_)
    exact hb ▸ hid ▸ hthere
  | waiting n =>
    simp only [stepErrand] at hstep
    split at hstep
    · exact absurd hstep (by simp)
    · rw [← Option.some.inj hstep]
      exact finish_handleFlow (.refl w)
    · rename_i reason hsettled
      rw [← Option.some.inj hstep]
      have hreported := w.scene.aside_report .debug "core request abandoned"
        [("request_id", .naming n), ("error", reason.message)]
      have hgoesOn : HandleFlow actor away b id w
        (some (.reserve board preference token service (.waiting n))) w
          (some (.reserve board preference token service (.abandoning n reason))) := by
        refine .goesOn (Nat.le_refl _) (fun h => h) fun hthere hb hid => ⟨hthere hb hid, ?_⟩
        subst hb hid
        obtain ⟨r, hrequest⟩ := Option.isSome_iff_exists.mp (hthere rfl rfl)
        exact (settled?_error hw hrequest hsettled).imp_right fun hlisted =>
          hw.scene.uses_pos_of_unlisted hrequest hlisted
      exact hgoesOn.trans (.of_aside hreported rfl rfl)
  | abandoning n reason =>
    simp only [stepErrand] at hstep
    refine underGuard_handleFlow hw hstep fun found s hs _ => ?_
    refine disposeRequest_handleFlow _ [] rfl (Nat.zero_le _) (fun _ => ?_)
      (by cases service <;> simp [Errand.stake?]) (fun hcore hinLine hb hid => ?_) fun _ => .ended
    · exact Nat.le_of_eq (Nat.zero_add _)
    · -- A request that still has its core was neither taken from nor disposed of.
      obtain ⟨hthere, hreason⟩ := hinLine hb hid
      subst hb hid
      have hunused := hs.scene.uses_of_hasCore hcore
      exact ⟨hasDisposed_removeRequest hthere, hreason.resolve_right (by omega)⟩
  | disposing n reason =>
    simp only [stepErrand, Option.some.injEq] at hstep
    rw [← hstep]
    exact finish_handleFlow (.refl w)

theorem wait_handleFlow {board n : Nat} {token : Token} {takes : Bool} (hother : ¬ (board = b ∧ n = id))
    (hstep : w.stepErrand serial (.wait board n token takes) = some p) :
    PassesHandle actor away b id w (.wait board n token takes) p := by
  simp only [stepErrand] at hstep
  split at hstep
  · exact absurd hstep (by simp)
  · rw [← Option.some.inj hstep]
    exact finish_handleFlow (.refl w)
  · split at hstep
    · have htaken : HandleFlow actor away b id w (some (.wait board n token takes)) (w.takeCore board n).2
          (some (.wait board n token takes)) := takeCore_handleFlow w _ hother
      split at hstep
      · rename_i core w' htake
        rw [← Option.some.inj hstep]
        rw [htake] at htaken
        exact finish_handleFlow htaken
      · rename_i w' htake
        rw [← Option.some.inj hstep]
        rw [htake] at htaken
        exact finish_handleFlow htaken
    · rw [← Option.some.inj hstep]
      exact finish_handleFlow (.refl w)

theorem assign_handleFlow (hw : w.IsSound) {lock : Lock} {core : Core}
    (hstep : w.stepErrand serial (.assign lock core) = some p) :
    PassesHandle actor away b id w (.assign lock core) p := by
  simp only [stepErrand] at hstep
  refine underGuard_handleFlow hw hstep fun found s _ _ => ?_
  split
  · rename_i s' hassign
    have hassigned := (Scene.performs_assignCore hassign).andAside (s'.aside_leave lock.board)
    exact finish_handleFlow (.of_act hassigned (fun _ hevent => List.mem_singleton.mp hevent ▸ rfl) rfl rfl)
  · rename_i reason _
    have hrefused := ((s.performs_note (show (Event.refused lock.board lock.request
      core).isRemark = true from rfl)).andAside (Scene.aside_leave _ lock.board)).andAside
      (ClientStep.aside_receiveCore (World.leave (World.withScene (w.withScene s)
        (s.note (.refused lock.board lock.request core))) lock.board) core)
    exact finish_handleFlow (.of_act hrefused (fun _ hevent => List.mem_singleton.mp hevent ▸ rfl) rfl rfl)

theorem probe_handleFlow {core : Core} {ticket : Nat} {token : Token}
    (hstep : w.stepErrand serial (.probe core ticket token) = some p) :
    PassesHandle actor away b id w (.probe core ticket token) p := by
  simp only [stepErrand] at hstep
  split at hstep
  · exact absurd hstep (by simp)
  · rename_i s hlook
    rw [← Option.some.inj hstep]
    exact goOn_handleFlow (fun _ => rfl) rfl (fun _ h => h)
      (.of_aside (Scene.aside_of_probe_moved hlook) rfl rfl)
  · rename_i isAlive s hlook
    rw [← Option.some.inj hstep]
    exact finish_handleFlow (.of_aside ((Scene.aside_of_probe_answered hlook).trans
      (ClientStep.aside_receiveCore (w.withScene s) core)) rfl rfl)

theorem call_handleFlow {call : Call} (hstep : w.stepErrand serial (.call call) = some p) :
    PassesHandle actor away b id w (.call call) p := by
  have htells := w.scene.lookAtCall_tells call
  simp only [stepErrand] at hstep
  split at hstep
  · exact absurd hstep (by simp)
  · rename_i call' s hlook
    rw [hlook] at htells
    rw [← Option.some.inj hstep]
    exact goOn_handleFlow (fun _ => rfl) rfl (fun _ _ => trivial) (.of_aside htells rfl rfl)
  · rename_i core s hlook
    rw [hlook] at htells
    rw [← Option.some.inj hstep]
    exact finish_handleFlow (.of_act (htells.andAside (ClientStep.aside_receiveCore (w.withScene s) core))
      (fun _ hevent => List.mem_singleton.mp hevent ▸ rfl) rfl rfl)
  · rename_i chain s hlook
    rw [hlook] at htells
    rw [← Option.some.inj hstep]
    exact finish_handleFlow (.of_aside htells rfl rfl)
  · rename_i s hlook
    rw [hlook] at htells
    rw [← Option.some.inj hstep]
    exact finish_handleFlow (.of_aside htells rfl rfl)

theorem sight_handleFlow {i service : Nat} (hstep : w.stepErrand serial (.sight i service) = some p) :
    PassesHandle actor away b id w (.sight i service) p := by
  simp only [stepErrand] at hstep
  split at hstep
  · rw [← Option.some.inj hstep]
    exact finish_handleFlow (.refl w)
  · split at hstep
    · exact absurd hstep (by simp)
    · rw [← Option.some.inj hstep]
      exact goOn_handleFlow (fun _ => rfl) rfl (fun _ h => h) (.of_aside (.refl _) rfl rfl)
    · rw [← Option.some.inj hstep]
      exact finish_handleFlow (.of_aside (.refl _) rfl rfl)

theorem stepStopping_handleFlow {isBroker isBegun : Bool} {parts : List Stopping}
    (hstep : w.stepStopping isBroker parts = some p) :
    PassesHandle actor away b id w (.shutDown isBroker isBegun parts) p := by
  have hgoesOn : ∀ {rest : List Stopping} {w₁ : World},
      HandleFlow actor away b id w (some (.shutDown isBroker isBegun parts)) w₁
        (some (.shutDown isBroker isBegun parts)) →
      PassesHandle actor away b id w (.shutDown isBroker isBegun parts)
        (.goOn (.shutDown isBroker true rest) w₁) :=
    fun hflow => goOn_handleFlow (fun _ => rfl) rfl (fun _ _ => trivial) hflow
  have hstopped : ∀ {t : Task} {s : Scene}, w.scene.Aside s →
      HandleFlow actor away b id w (some (.shutDown isBroker isBegun parts)) ((w.withScene s).noteStopped t)
        (some (.shutDown isBroker isBegun parts)) := fun {t s} haside =>
    .of_act (Scene.Performs.afterAside haside (s.performs_note
      (show (Event.stopped t).isRemark = true from rfl)))
      (fun _ hevent => List.mem_singleton.mp hevent ▸ rfl) rfl rfl
  unfold stepStopping at hstep
  split at hstep
  · rw [← Option.some.inj hstep]
    refine finish_handleFlow (.of_aside ?_ rfl rfl)
    dsimp only [withScene]
    split
    · exact w.scene.aside_report _ _ _
    · exact .refl _
  · rw [← Option.some.inj hstep]
    unfold stopDedicated
    split
    · exact hgoesOn (.of_aside (w.scene.aside_fire _) rfl rfl)
    · exact hgoesOn (.refl w)
  · rw [← Option.some.inj hstep]
    unfold stopSpeculative
    split
    · exact hgoesOn (.of_aside (w.scene.aside_fire _) rfl rfl)
    · exact hgoesOn (.refl w)
  · split at hstep
    · rw [← Option.some.inj hstep]
      exact hgoesOn (.refl w)
    · split at hstep
      · rw [← Option.some.inj hstep]
        refine hgoesOn (hstopped (Scene.Aside.trans ?_ (Scene.aside_report _ _ _ _)))
        split
        · exact w.scene.aside_report _ _ _
        · exact .refl _
      · exact absurd hstep (by simp)
  · split at hstep
    · rw [← Option.some.inj hstep]
      exact hgoesOn (.refl w)
    · split at hstep
      · rw [← Option.some.inj hstep]
        exact hgoesOn (hstopped (w.scene.aside_report _ _ _))
      · exact absurd hstep (by simp)

theorem shutDown_handleFlow {isBroker isBegun : Bool} {parts : List Stopping}
    (hstep : w.stepErrand serial (.shutDown isBroker isBegun parts) = some p) :
    PassesHandle actor away b id w (.shutDown isBroker isBegun parts) p := by
  unfold stepErrand at hstep
  split at hstep
  all_goals first | contradiction | skip
  · rename_i heq
    cases heq
    rw [← Option.some.inj hstep]
    exact goOn_handleFlow (fun _ => rfl) rfl (fun _ _ => trivial)
      (.of_aside (w.scene.aside_report _ _ _) rfl rfl)
  · rename_i heq
    cases heq
    exact stepStopping_handleFlow hstep

/-- A step of an errand hands the handle on, or uses it up. -/
theorem stepErrand_handleFlow (hw : w.IsSound) (hmem : (serial, x) ∈ w.errands)
    (hstake : x.stake? ≠ some (.request b id)) (hstep : w.stepErrand serial x = some p) :
    PassesHandle actor away b id w x p := by
  cases x with
  | create board preference left made draft isMany => exact create_handleFlow hw hmem hstep
  | reserve board preference token service stage => exact reserve_handleFlow hw hmem hstep
  | wait board n token takes =>
    exact wait_handleFlow (fun hsame => hstake (by rw [Errand.stake?, hsame.1, hsame.2])) hstep
  | dispose board n =>
    simp only [stepErrand] at hstep
    refine underGuard_handleFlow hw hstep fun found s _ _ => ?_
    refine disposeRequest_handleFlow _ [] rfl (Nat.zero_le _) (fun _ => ?_)
      (by simp [Errand.stake?]) (fun hcore _ => disposing_inLine hcore) fun _ => .ended
    exact Nat.le_of_eq (Nat.zero_add _)
  | disposeAll requests count =>
    cases requests with
    | nil =>
      simp only [stepErrand, Option.some.injEq] at hstep
      rw [← hstep]
      exact finish_handleFlow (.refl w)
    | cons request rest =>
      obtain ⟨board, n⟩ := request
      simp only [stepErrand] at hstep
      refine underGuard_handleFlow hw hstep fun found s _ _ => ?_
      have hsplit : ((board, n) :: rest).count (b, id) =
          [(board, n)].count (b, id) + rest.count (b, id) := by
        show ([(board, n)] ++ rest).count (b, id) = _
        exact List.count_append
      refine disposeRequest_handleFlow _ rest rfl ?_ (fun _ => ?_) (by simp [Errand.stake?])
        (fun hcore _ => disposing_inLine hcore) fun w₁ => ?_
      · exact (Nat.le_add_left _ _).trans (Nat.le_of_eq hsplit.symm)
      · exact Nat.le_of_eq ((Nat.add_comm _ _).trans hsplit.symm)
      · exact .goesOn (Nat.le_refl _) (fun h => h) fun _ => trivial
  | cleanUp board n =>
    simp only [stepErrand] at hstep
    refine underGuard_handleFlow hw hstep fun found s _ _ => ?_
    refine disposeRequest_handleFlow _ [] rfl (Nat.zero_le _) (fun hopen => ?_)
      (by simp [Errand.stake?]) (fun hcore _ => disposing_inLine hcore) fun _ => .ended
    rw [Errand.holds, hopen]
    exact Nat.le_of_eq (Nat.zero_add _)
  | disposing board n left =>
    cases left with
    | reply | nothing =>
      simp only [stepErrand, Option.some.injEq] at hstep
      rw [← hstep]
      exact finish_handleFlow (.refl w)
    | others requests count =>
      simp only [stepErrand, Option.some.injEq] at hstep
      rw [← hstep]
      exact goOn_handleFlow (fun _ => rfl) rfl (fun _ _ => trivial) (.refl w)
  | ask board query service =>
    simp only [stepErrand] at hstep
    exact underGuard_handleFlow hw hstep fun found s _ hboard => answer_handleFlow hboard query
  | assign lock core => exact assign_handleFlow hw hstep
  | probe core ticket token => exact probe_handleFlow hstep
  | call call => exact call_handleFlow hstep
  | sight i service => exact sight_handleFlow hstep
  | shutDown isBroker isBegun parts => exact shutDown_handleFlow hstep

theorem conclude_handleFlow (hw : w.IsOrderly) (hmem : (serial, x) ∈ w.errands)
    (hstake : x.stake? ≠ some (.request b id)) (hclientStep : p.IsClientStep w serial x)
    (hflow : PassesHandle (some (.errand serial)) (some serial) b id w x p) :
    HandleFlow (some (.errand serial)) none b id w none (conclude serial x p) none := by
  obtain ⟨-, -, herrands⟩ := hclientStep
  cases p with
  | goOn x' w₁ => exact hflow.goingOn hw hmem herrands
  | finish r w₁ =>
    have hover : HandleFlow (some (.errand serial)) none b id w none
        { w₁ with errands := w₁.errands.filter (·.1 != serial) } none :=
      hflow.finished hw hmem herrands
    simp only [conclude]
    split
    · have hreplied : HandleFlow (some (.errand serial)) none b id
          { w₁ with errands := w₁.errands.filter (·.1 != serial) } none
          { w₁ with errands := w₁.errands.filter (·.1 != serial)
                    replies := w₁.replies ++ [(serial, r)] } none :=
        .of_aside (.refl _) rfl rfl
      exact (hover.trans hreplied).trans (settleStake_handleFlow hstake)
    · exact hover.trans (settleStake_handleFlow hstake)

end World

end CoreBroker
