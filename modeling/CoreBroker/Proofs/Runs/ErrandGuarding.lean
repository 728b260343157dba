import CoreBroker.Proofs.Runs.Errands
import CoreBroker.Proofs.Runs.Guarding
set_option autoImplicit false

/-!
# What errands leave alone

An errand takes no guard from a snapshot, and assigns a core at most to the request whose reservation it
was given.  A snapshot comes only of a question, and it lists requests that nobody has reserved.
-/

namespace CoreBroker

/-- The errand passes a core to the request `id` of the registry `b`. -/
def Errand.MayAssign (e : Errand) (b id : Nat) : Prop :=
  ∃ lock core, e = .assign lock core ∧ lock.board = b ∧ lock.request = id

namespace World

/-- What becomes of the snapshots of the client while none is given up. -/
inductive SnapshotsKept (w w' : World) : Prop
  | same (hsame : w'.snapshots = w.snapshots)
  /-- A snapshot gets a guard that no snapshot had, and lists nothing that is reserved. -/
  | taken {snapshot : Snapshot} (hlist : w'.snapshots = w.snapshots ++ [snapshot])
      (hfree : ∀ n, ¬ w.scene.IsHeld snapshot.board n)
      (hheld : w'.scene.IsHeld snapshot.board snapshot.serial)
      (hunmarked : ∀ id ∈ snapshot.requests, w'.scene.stage.marked snapshot.board id = 0)

theorem marked_le_of_keeps {s s' : Scene} {who : Nat → Nat → Prop} (hkeeps : Scene.Keeps none who s s')
    {b n : Nat} (hheld : s.IsHeld b n) (id : Nat) : s'.stage.marked b id ≤ s.stage.marked b id := by
  rw [Stage.marked, Stage.marked, Scene.board_stage, Scene.board_stage]
  exact (hkeeps b).marks n (by simp) hheld id

namespace SnapshotsKept

variable {w w₁ w₂ : World} {who : Nat → Nat → Prop}

theorem before (hsnapshotsKept : SnapshotsKept w w₁) (hscene : Scene.Keeps none who w₁.scene w₂.scene)
    (hsnapshots : w₂.snapshots = w₁.snapshots) : SnapshotsKept w w₂ := by
  cases hsnapshotsKept with
  | same hsame => exact .same (hsnapshots.trans hsame)
  | taken hlist hfree hheld hunmarked =>
    refine .taken (hsnapshots.trans hlist) hfree ?_ fun id hid => ?_
    · exact (hscene _).held _ (by simp) hheld
    · have hle := marked_le_of_keeps hscene hheld id
      rw [hunmarked id hid] at hle
      exact Nat.le_zero.mp hle

theorem after (hspares : Spares none who w w₁) (hsnapshotsKept : SnapshotsKept w₁ w₂) :
    SnapshotsKept w w₂ := by
  cases hsnapshotsKept with
  | same hsame => exact .same (hsame.trans hspares.snapshots)
  | taken hlist hfree hheld hunmarked =>
    refine .taken (hspares.snapshots ▸ hlist) (fun n hbefore => ?_) hheld hunmarked
    exact hfree n ((hspares.scene _).held n (by simp) hbefore)

end SnapshotsKept

/-- A step of the errand `x` had at most the guard of the registry `own`, and assigned cores at most to
the request that the errand passes one to. -/
structure Progress.Respects (own : Option Nat) (w : World) (x : Errand) (p : Progress) : Prop where
  scene : Scene.Keeps own x.MayAssign w.scene p.world.scene
  snapshotsKept : SnapshotsKept w p.world
  locks : w.locks ⊆ p.world.locks
  /-- A request has no core when it is reserved. -/
  fresh : ∀ lock ∈ p.world.locks, lock ∈ w.locks ∨
    ¬ (p.world.scene.boardAt lock.board).registry.Fulfils lock.request
  passes : ∀ lock core, p.errand? = some (.assign lock core) → x = .assign lock core

namespace Progress

variable {own : Option Nat} {w w₁ : World} {x x' : Errand}

/-- The errand is over, and the client has the snapshots and reservations that it had. -/
theorem finish_respects {r : Reply} (hspares : Spares own x.MayAssign w w₁)
    (hlocks : w₁.locks = w.locks) : Respects own w x (.finish r w₁) :=
  ⟨hspares.scene, .same hspares.snapshots, hlocks ▸ List.Subset.refl _,
    fun _ h => .inl (hspares.locks h), fun _ _ h => absurd h (by simp [errand?])⟩

/-- The errand goes on, and the client has the snapshots and reservations that it had. -/
theorem goOn_respects (hspares : Spares own x.MayAssign w w₁) (hlocks : w₁.locks = w.locks)
    (hpassing : x'.passing? = none) : Respects own w x (.goOn x' w₁) :=
  ⟨hspares.scene, .same hspares.snapshots, hlocks ▸ List.Subset.refl _,
    fun _ h => .inl (hspares.locks h), fun lock core h => by
    cases h
    exact absurd hpassing (by simp [Errand.passing?])⟩

end Progress

section Steps

open Progress (Respects finish_respects goOn_respects)

variable {w : World} {x : Errand} {serial : Nat} {p : Progress}

theorem underGuard_respects {board : Nat} {act : Board → World → Progress} (hw : w.IsSound)
    (hstep : w.underGuard x serial board act = some p)
    (hact : ∀ b s, (w.withScene s).IsSound → (∀ n, ¬ s.IsHeld board n) →
      s.stage.boards[board]? = some (b.registry, b.changes) →
        (act b (w.withScene s)).Respects (some board) (w.withScene s) x) : p.Respects none w x := by
  unfold underGuard at hstep
  cases henter : w.scene.enter board (.errand serial) with
  | blocked => simp [henter] at hstep
  | joined s =>
    simp only [henter, Option.some.injEq] at hstep
    rw [← hstep]
    exact ⟨Scene.keeps_of_joined henter, .same rfl, List.Subset.refl _, fun _ h => .inl h,
      fun _ _ h => Option.some.inj h⟩
  | entered b s =>
    simp only [henter, Option.some.injEq] at hstep
    rw [← hstep]
    obtain ⟨haside, hboard, -⟩ := Scene.aside_of_entered henter
    have hclient : ClientStep w none none [] (w.withScene s) none := .aside haside
    have hentered : Spares none x.MayAssign w (w.withScene s) :=
      .of_scene (.of_entered henter (.refl s)) rfl rfl rfl
    have hrespects := hact b s (hclient.isSound hw) (Scene.not_isHeld_after_entered henter)
      (haside.stage ▸ Scene.stage_board hboard)
    exact ⟨.of_entered henter hrespects.scene,
      .after hentered hrespects.snapshotsKept, hrespects.locks, hrespects.fresh, hrespects.passes⟩

theorem leave_spares {who : Nat → Nat → Prop} (w : World) (board : Nat) :
    Spares (some board) who w (w.leave board) :=
  .of_scene (w.scene.keeps_leave board) rfl rfl rfl

theorem removeRequest_spares {who : Nat → Nat → Prop} (w : World) (board id : Nat) :
    Spares (some board) who w (w.removeRequest board id) := by
  have hdisposed : Scene.Keeps (some board) who w.scene (w.scene.disposeRequest board id).2 :=
    w.scene.keeps_disposeRequest board id
  exact .of_scene ((hdisposed.trans (Scene.keeps_leave _ board)).trans
    (.of_boards (Scene.boards_disposeCores _ _))) rfl rfl rfl

theorem disposeRequest_respects {x waiting : Errand} (w : World) {board id : Nat}
    {next : World → Progress} (hpassing : waiting.passing? = none)
    (hnext : Spares (some board) x.MayAssign w (w.removeRequest board id) →
      (next (w.removeRequest board id)).Respects (some board) w x) :
    (w.disposeRequest board id waiting next).Respects (some board) w x := by
  have hspares : Spares (some board) x.MayAssign w (w.removeRequest board id) :=
    w.removeRequest_spares board id
  unfold disposeRequest
  split
  · exact goOn_respects hspares rfl hpassing
  · exact hnext hspares

theorem enterRequest_spares {who : Nat → Nat → Prop} (w : World) (board : Nat) {q : Request Core}
    (hfresh : q.IsFresh) : Spares (some board) who w (w.enterRequest board q) :=
  .of_scene ((w.scene.keeps_enterRequest board hfresh).trans (Scene.keeps_leave _ board)) rfl rfl rfl

/-- A question is answered under the guard: it may reserve a request, or keep the guard for a snapshot
of requests that nobody has reserved. -/
theorem answer_respects {board : Nat} {b : Board} {service : Option Nat} (hw : w.IsSound)
    (hfree : ∀ n, ¬ w.scene.IsHeld board n)
    (hboard : w.scene.stage.boards[board]? = some (b.registry, b.changes)) (query : Query) :
    (w.answer board b query).Respects (some board) w (.ask board query service) := by
  have hplain : ∀ r, (Progress.finish r (w.leave board)).Respects (some board) w
      (.ask board query service) := fun r => finish_respects (leave_spares w board) rfl
  cases query with
  | statistics => exact hplain _
  | counts => exact hplain _
  | summaries => exact hplain _
  | count c => exact hplain _
  | hasNext includeLocal remoteDelay => exact hplain _
  | next includeLocal remoteDelay =>
    simp only [answer]
    split
    · exact hplain _
    · rename_i r hnext
      have hleft : ∀ {who : Nat → Nat → Prop}, Scene.Keeps (some board) who w.scene
          (((w.scene.reserveRequest board r.id).leave board).reportReserved board r.id) :=
        ((w.scene.keeps_reserveRequest board r.id).trans (Scene.keeps_leave _ board)).trans
          (.of_boards (Scene.boards_reportReserved _ _ _))
      refine ⟨hleft, .same rfl, List.subset_append_left _ _, fun lock hlock => ?_,
        fun _ _ h => absurd h (by simp [Progress.errand?])⟩
      refine (List.mem_append.mp hlock).imp_right fun hnew hfulfils => ?_
      rw [List.mem_singleton.mp hnew] at hfulfils
      have hnobody : Scene.Keeps (some board) (fun _ _ => False) w.scene
          (((w.scene.reserveRequest board r.id).leave board).reportReserved board r.id) := hleft
      have hbefore := (hnobody board).assigned r.id id hfulfils
      obtain ⟨found, hfound, hregistry, -⟩ := Scene.board_of_stage hboard
      obtain ⟨hmem, hcandidate⟩ := Registry.next?_candidate hnext
      rw [Scene.boardAt_eq hfound, hregistry] at hbefore
      exact Registry.not_fulfils_of_candidate (hw.scene.stage.requests hboard).1 hmem hcandidate hbefore
  | snapshot c =>
    have hkept : Scene.Keeps (some board) (Errand.ask board (.snapshot c) service).MayAssign w.scene
        (w.scene.fresh.2.modifyBoard board fun b =>
          { b with guard := b.guard.passTo (.snapshot w.scene.fresh.1) }) :=
      Scene.Keeps.trans (.of_boards w.scene.boards_fresh)
        (.modifyBoard _ board (.of_own rfl fun _ _ h => h))
    obtain ⟨found, hfound, hregistry, -⟩ := Scene.board_of_stage hboard
    have haside := w.scene.aside_fresh.trans (Scene.aside_modifyBoard _ board (f := fun b =>
      { b with guard := b.guard.passTo (.snapshot w.scene.fresh.1) }) (fun _ => rfl) fun _ => rfl)
    refine ⟨hkept, .taken rfl hfree ?_ fun id hid => ?_, List.Subset.refl _, fun _ h => .inl h,
      fun _ _ h => absurd h (by simp [answer, Progress.errand?])⟩
    · exact congrArg (·.guard.holder) (Scene.boardAt_modifyBoard (s := w.scene.fresh.2) hfound _)
    · rw [show (w.answer board b (.snapshot c)).world.scene.stage = w.scene.stage from haside.stage]
      exact hw.scene.stage.marked_of_candidate hboard hid

theorem stepStopping_respects {isBroker isBegun : Bool} {parts : List Stopping}
    (hstep : w.stepStopping isBroker parts = some p) :
    p.Respects none w (.shutDown isBroker isBegun parts) := by
  unfold stepStopping at hstep
  split at hstep
  · rw [← Option.some.inj hstep]
    refine finish_respects (.of_boards ?_ rfl rfl rfl) rfl
    dsimp only [withScene]
    split
    · exact Scene.boards_report _ _ _ _
    · rfl
  · rw [← Option.some.inj hstep]
    unfold stopDedicated
    split
    · exact goOn_respects (.of_boards rfl rfl rfl rfl) rfl rfl
    · exact goOn_respects (.refl w) rfl rfl
  · rw [← Option.some.inj hstep]
    unfold stopSpeculative
    split
    · exact goOn_respects (.of_boards rfl rfl rfl rfl) rfl rfl
    · exact goOn_respects (.refl w) rfl rfl
  · split at hstep
    · rw [← Option.some.inj hstep]
      exact goOn_respects (.refl w) rfl rfl
    · split at hstep
      · rw [← Option.some.inj hstep]
        refine goOn_respects (.of_boards ?_ rfl rfl rfl) rfl rfl
        refine (Scene.boards_report _ _ _ _).trans ?_
        split
        · exact Scene.boards_report _ _ _ _
        · rfl
      · exact absurd hstep (by simp)
  · split at hstep
    · rw [← Option.some.inj hstep]
      exact goOn_respects (.refl w) rfl rfl
    · split at hstep
      · rw [← Option.some.inj hstep]
        exact goOn_respects (.of_boards (Scene.boards_report _ _ _ _) rfl rfl rfl) rfl rfl
      · exact absurd hstep (by simp)

theorem create_respects (hw : w.IsSound) {board left : Nat} {preference : Preference}
    {made : List Nat} {draft : Option (Request Core)} {isMany : Bool}
    (hmem : (serial, .create board preference left made draft isMany) ∈ w.errands)
    (hstep : w.stepErrand serial (.create board preference left made draft isMany) = some p) :
    p.Respects none w (.create board preference left made draft isMany) := by
  cases draft with
  | none =>
    simp only [stepErrand, Option.some.injEq] at hstep
    rw [← hstep]
    exact goOn_respects (.of_boards rfl rfl rfl rfl) rfl rfl
  | some draft =>
    have hfresh := hw.orderly.fresh _ hmem draft rfl
    simp only [stepErrand] at hstep
    refine underGuard_respects hw hstep fun b s _ _ _ => ?_
    split
    · exact goOn_respects (enterRequest_spares _ board hfresh) rfl rfl
    · split
      · exact finish_respects (enterRequest_spares _ board hfresh) rfl
      · exact finish_respects (enterRequest_spares _ board hfresh) rfl

theorem reserve_respects (hw : w.IsSound) {board : Nat} {preference : Preference} {token : Token}
    {service : Option Nat} {stage : ReserveStage}
    (hmem : (serial, .reserve board preference token service stage) ∈ w.errands)
    (hstep : w.stepErrand serial (.reserve board preference token service stage) = some p) :
    p.Respects none w (.reserve board preference token service stage) := by
  cases stage with
  | drafting =>
    simp only [stepErrand, Option.some.injEq] at hstep
    rw [← hstep]
    exact goOn_respects (.of_boards rfl rfl rfl rfl) rfl rfl
  | entering draft =>
    simp only [stepErrand] at hstep
    refine underGuard_respects hw hstep fun b s _ _ _ => ?_
    exact goOn_respects (enterRequest_spares _ board (hw.orderly.fresh _ hmem draft rfl)) rfl rfl
  | waiting id =>
    simp only [stepErrand] at hstep
    split at hstep
    · exact absurd hstep (by simp)
    · rw [← Option.some.inj hstep]
      exact finish_respects (.refl w) rfl
    · rw [← Option.some.inj hstep]
      exact goOn_respects (.of_boards (Scene.boards_report _ _ _ _) rfl rfl rfl) rfl rfl
  | abandoning id reason =>
    simp only [stepErrand] at hstep
    exact underGuard_respects hw hstep fun b s _ _ _ =>
      disposeRequest_respects _ rfl fun hspares => finish_respects hspares rfl
  | disposing id reason =>
    rw [← Option.some.inj hstep]
    exact finish_respects (.refl w) rfl

theorem wait_respects {board id : Nat} {token : Token} {takes : Bool}
    (hstep : w.stepErrand serial (.wait board id token takes) = some p) :
    p.Respects none w (.wait board id token takes) := by
  simp only [stepErrand] at hstep
  split at hstep
  · exact absurd hstep (by simp)
  · rw [← Option.some.inj hstep]
    exact finish_respects (.refl w) rfl
  · split at hstep
    · have htaken : Spares none (Errand.wait board id token takes).MayAssign w
          (w.takeCore board id).2 := w.takeCore_spares board id
      have hlocks : (w.takeCore board id).2.locks = w.locks := by
        unfold takeCore
        split <;> rfl
      split at hstep
      · rename_i core w' htake
        rw [htake] at htaken hlocks
        rw [← Option.some.inj hstep]
        exact finish_respects htaken hlocks
      · rename_i w' htake
        rw [htake] at htaken hlocks
        rw [← Option.some.inj hstep]
        exact finish_respects htaken hlocks
    · rw [← Option.some.inj hstep]
      exact finish_respects (.refl w) rfl

/-- The core goes to the request whose reservation the errand was given, or back to the client. -/
theorem assign_respects (hw : w.IsSound) {lock : Lock} {core : Core}
    (hstep : w.stepErrand serial (.assign lock core) = some p) :
    p.Respects none w (.assign lock core) := by
  simp only [stepErrand] at hstep
  refine underGuard_respects hw hstep fun b s hs _ _ => ?_
  split
  · rename_i s' hassign
    have hassigned : Scene.Keeps (some lock.board) (Errand.assign lock core).MayAssign s s' :=
      Scene.keeps_assignCore hs.scene.stage hassign ⟨lock, core, rfl, rfl, rfl⟩
    have hleft := hassigned.trans (s'.keeps_leave lock.board)
    exact finish_respects (.of_scene hleft rfl rfl rfl) rfl
  · have hrefused : Spares (some lock.board) (Errand.assign lock core).MayAssign (w.withScene s)
        ((w.withScene s).withScene (s.note (.refused lock.board lock.request core))) :=
      .of_boards rfl rfl rfl rfl
    exact finish_respects ((hrefused.trans (leave_spares _ lock.board)).trans
      (receiveCore_spares _ core)) rfl

theorem probe_respects {core : Core} {ticket : Nat} {token : Token}
    (hstep : w.stepErrand serial (.probe core ticket token) = some p) :
    p.Respects none w (.probe core ticket token) := by
  simp only [stepErrand] at hstep
  split at hstep
  · exact absurd hstep (by simp)
  · rename_i s hlook
    rw [← Option.some.inj hstep]
    exact goOn_respects (.of_boards (Scene.lookAtProbe_boards.1 s hlook) rfl rfl rfl) rfl rfl
  · rename_i isAlive s hlook
    have hanswered : Spares none (Errand.probe core ticket token).MayAssign w (w.withScene s) :=
      .of_boards (Scene.lookAtProbe_boards.2 isAlive s hlook) rfl rfl rfl
    rw [← Option.some.inj hstep]
    exact finish_respects (hanswered.trans (receiveCore_spares _ core)) rfl

theorem call_respects {call : Call} (hstep : w.stepErrand serial (.call call) = some p) :
    p.Respects none w (.call call) := by
  have hlooked := w.scene.lookAtCall_boards call
  simp only [stepErrand] at hstep
  split at hstep
  · exact absurd hstep (by simp)
  · rename_i call' s hlook
    rw [hlook] at hlooked
    rw [← Option.some.inj hstep]
    exact goOn_respects (.of_boards hlooked rfl rfl rfl) rfl rfl
  · rename_i core s hlook
    rw [hlook] at hlooked
    have hreceived : Spares none (Errand.call call).MayAssign w (w.withScene s) :=
      .of_boards hlooked rfl rfl rfl
    rw [← Option.some.inj hstep]
    exact finish_respects (hreceived.trans (receiveCore_spares _ core)) rfl
  · rename_i chain s hlook
    rw [hlook] at hlooked
    rw [← Option.some.inj hstep]
    exact finish_respects (.of_boards hlooked rfl rfl rfl) rfl
  · rename_i s hlook
    rw [hlook] at hlooked
    rw [← Option.some.inj hstep]
    exact finish_respects (.of_boards hlooked rfl rfl rfl) rfl

theorem sight_respects {i service : Nat}
    (hstep : w.stepErrand serial (.sight i service) = some p) :
    p.Respects none w (.sight i service) := by
  simp only [stepErrand] at hstep
  split at hstep
  · rw [← Option.some.inj hstep]
    exact finish_respects (.refl w) rfl
  · split at hstep
    · exact absurd hstep (by simp)
    · rw [← Option.some.inj hstep]
      exact goOn_respects (.of_boards rfl rfl rfl rfl) rfl rfl
    · rw [← Option.some.inj hstep]
      exact finish_respects (.of_boards rfl rfl rfl rfl) rfl

theorem shutDown_respects {isBroker isBegun : Bool} {parts : List Stopping}
    (hstep : w.stepErrand serial (.shutDown isBroker isBegun parts) = some p) :
    p.Respects none w (.shutDown isBroker isBegun parts) := by
  unfold stepErrand at hstep
  split at hstep
  all_goals first | contradiction | skip
  · rename_i heq
    cases heq
    rw [← Option.some.inj hstep]
    exact goOn_respects (.of_boards (Scene.boards_report _ _ _ _) rfl rfl rfl) rfl rfl
  · rename_i heq
    cases heq
    exact stepStopping_respects hstep

theorem stepErrand_respects (hw : w.IsSound) (hmem : (serial, x) ∈ w.errands)
    (hstep : w.stepErrand serial x = some p) : p.Respects none w x := by
  cases x with
  | create board preference left made draft isMany => exact create_respects hw hmem hstep
  | reserve board preference token service stage => exact reserve_respects hw hmem hstep
  | wait board id token takes => exact wait_respects hstep
  | dispose board id =>
    simp only [stepErrand] at hstep
    exact underGuard_respects hw hstep fun b s _ _ _ =>
      disposeRequest_respects _ rfl fun hspares => finish_respects hspares rfl
  | disposeAll requests count =>
    cases requests with
    | nil =>
      simp only [stepErrand, Option.some.injEq] at hstep
      rw [← hstep]
      exact finish_respects (.refl w) rfl
    | cons request rest =>
      obtain ⟨board, id⟩ := request
      simp only [stepErrand] at hstep
      exact underGuard_respects hw hstep fun b s _ _ _ =>
        disposeRequest_respects _ rfl fun hspares => goOn_respects hspares rfl rfl
  | cleanUp board id =>
    simp only [stepErrand] at hstep
    exact underGuard_respects hw hstep fun b s _ _ _ =>
      disposeRequest_respects _ rfl fun hspares => finish_respects hspares rfl
  | disposing board id left =>
    cases left with
    | reply | nothing =>
      rw [← Option.some.inj hstep]
      exact finish_respects (.refl w) rfl
    | others requests count =>
      rw [← Option.some.inj hstep]
      exact goOn_respects (.refl w) rfl rfl
  | ask board query service =>
    simp only [stepErrand] at hstep
    exact underGuard_respects hw hstep fun b s hs hfree hboard => answer_respects hs hfree hboard query
  | assign lock core => exact assign_respects hw hstep
  | probe core ticket token => exact probe_respects hstep
  | call call => exact call_respects hstep
  | sight i service => exact sight_respects hstep
  | shutDown isBroker isBegun parts => exact shutDown_respects hstep

/-- What a step of an errand does, with what follows when the errand is over. -/
structure RespectsGuards (who : Nat → Nat → Prop) (w w' : World) : Prop where
  scene : Scene.Keeps none who w.scene w'.scene
  snapshotsKept : SnapshotsKept w w'
  fresh : ∀ lock ∈ w'.locks, lock ∈ w.locks ∨
    ¬ (w'.scene.boardAt lock.board).registry.Fulfils lock.request
  engaged : w.IsEngaged → w'.IsEngaged

/-- What a step of an errand comes to is taken over: an errand that goes on passes a core only if it did
before, and one that is over leaves what only it was using. -/
theorem conclude_respectsGuards (hmem : (serial, x) ∈ w.errands) (hclientStep : p.IsClientStep w serial x)
    (hrespects : p.Respects none w x) : RespectsGuards x.MayAssign w (conclude serial x p) := by
  obtain ⟨-, -, herrands⟩ := hclientStep
  cases p with
  | goOn x' w₁ =>
    have hsame : Scene.Keeps none x.MayAssign w₁.scene w₁.scene := .refl _
    refine ⟨hrespects.scene, hrespects.snapshotsKept.before hsame rfl, hrespects.fresh,
      fun hengaged n lock core hlock => hrespects.locks ?_⟩
    obtain ⟨⟨m, old⟩, hold, heq⟩ := List.mem_map.mp hlock
    by_cases hm : m = serial
    · have hafter : x' = .assign lock core := by simpa [hm] using (congrArg Prod.snd heq :)
      have hbefore := hrespects.passes lock core (congrArg some hafter)
      exact hengaged serial lock core (hbefore ▸ hmem)
    · have hsame : (m, old) = (n, Errand.assign lock core) := by simpa [hm] using heq
      exact hengaged n lock core (hsame ▸ herrands ▸ hold)
  | finish r w₁ =>
    have hgone : ∀ {who : Nat → Nat → Prop}, Spares none who w₁ (if isWaitedFor x then
        { w₁ with errands := w₁.errands.filter (·.1 != serial), replies := w₁.replies ++ [(serial, r)] }
        else { w₁ with errands := w₁.errands.filter (·.1 != serial) }) := by
      split <;> exact .of_errands (.of_boards rfl) rfl (fun _ _ _ h => (List.mem_filter.mp h).1) rfl
    have hended : ∀ {who : Nat → Nat → Prop}, Spares none who w₁ (conclude serial x (.finish r w₁)) :=
      hgone.trans (settleStake_spares _ x)
    have hnobody : Spares none (fun _ _ => False) w₁ (conclude serial x (.finish r w₁)) := hended
    refine ⟨hrespects.scene.trans hended.scene,
      hrespects.snapshotsKept.before hnobody.scene hnobody.snapshots,
      fun lock hlock => ?_, fun hengaged => hnobody.engaged fun n lock core hlock => hrespects.locks ?_⟩
    · refine (hrespects.fresh lock (hnobody.locks hlock)).imp_right fun hfresh hfulfils => ?_
      exact hfresh ((hnobody.scene lock.board).assigned lock.request id hfulfils)
    · exact hengaged n lock core (herrands ▸ hlock)

end Steps

end World

end CoreBroker
