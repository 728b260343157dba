import CoreBroker.Proofs.Speculative.StepInversion
set_option autoImplicit false

/-!
# What a speculative fulfiller leaves alone

A step of the loop takes no guard from a snapshot and assigns cores only to requests that nobody has
reserved; an attempt does not touch the registries at all.
-/

namespace CoreBroker.Speculative

variable {own : Option Nat} {who : Nat → Nat → Prop}

section Quiet

variable (f : Speculative) (s : Scene)

@[simp] theorem boards_traceLine (message : Phrase Nat) : (f.trace s message).boards = s.boards :=
  s.boards_trace _ _ _

@[simp] theorem turn_boards : (f.turn s).2.boards = s.boards := by
  unfold turn
  split <;> rfl

theorem reconcile_boards : (f.reconcile s).2.boards = s.boards := by
  have hdropped : ∀ (s : Scene) (o : Obtainment Core), (f.dropProvider s o).boards = s.boards :=
    fun s o => by
      rw [dropProvider, boards_traceLine, Scene.boards_report, Scene.boards_foldl _ Scene.boards_fire]
  have htracked : ∀ (s : Scene) (p : ProviderRef), (f.trackProvider s p).boards = s.boards :=
    fun s p => by simp [trackProvider]
  simp only [reconcile, Scene.boards_foldl _ htracked, Scene.boards_foldl _ hdropped]

theorem nextHolder_boards (f : Speculative) (pending : Nat) (ready : List Ready)
    (discarded : List Core) (s : Scene) (holders : List String) :
    (f.nextHolder pending ready discarded s holders).2.boards = s.boards := by
  induction holders with
  | nil => rfl
  | cons id rest ih =>
    unfold nextHolder
    split
    · rfl
    · split
      · rfl
      · exact ih

theorem judge_boards (pending : Nat) (ready : List Ready) (held : Ready) (holders : List String)
    (discarded : List Core) (isAlive : Bool) :
    (f.judge pending ready held holders discarded isAlive s).2.boards = s.boards := by
  unfold judge
  split
  · exact nextHolder_boards _ _ _ _ _ _
  · exact (nextHolder_boards _ _ _ _ _ _).trans (by simp)

theorem startAttempt_boards (me : Nat) (id : String) :
    (f.startAttempt me s id).2.boards = s.boards := by
  unfold startAttempt
  split
  · rfl
  · dsimp only
    split
    · rfl
    · simp

theorem startAttempts_boards (me : Nat) (ids : List String) :
    (f.startAttempts me s ids).2.boards = s.boards := by
  induction ids generalizing f s with
  | nil => rfl
  | cons id rest ih => exact (ih _ _).trans (f.startAttempt_boards s me id)

theorem giveUp_boards (discarded : List Core) (id : String) :
    (f.giveUp s discarded id).2.1.boards = s.boards := by
  unfold giveUp
  split
  · rfl
  · dsimp only
    rw [Scene.boards_foldl _ Scene.boards_fire, boards_traceLine, Scene.boards_report]

theorem giveUpAll_boards (discarded : List Core) (ids : List String) :
    (f.giveUpAll s discarded ids).2.1.boards = s.boards := by
  induction ids generalizing f s discarded with
  | nil => rfl
  | cons id rest ih => exact (ih _ _ _).trans (f.giveUp_boards s discarded id)

theorem rebalance_boards (chance : Chance) (me pending : Nat) (discarded : List Core) :
    (f.rebalance chance me s pending discarded).2.1.boards = s.boards := by
  unfold rebalance
  dsimp only
  split
  · exact (startAttempts_boards _ _ me _).trans (by simp)
  · split
    · exact (giveUpAll_boards _ _ _ _).trans (by simp)
    · simp

theorem noticeExit_boards (exit : Exit) : (f.noticeExit exit s).2.boards = s.boards := by
  unfold noticeExit
  dsimp only
  split
  · split <;> simp
  · exact turn_boards _ s

theorem disposeInTurn_boards (wait : List Core → SpeculativePoint) (next : SpeculativePoint)
    (cores : List Core) : (f.disposeInTurn s wait next cores).2.boards = s.boards := by
  cases cores with
  | nil => rfl
  | cons core others => exact s.boards_disposeCore core

theorem releaseAll_boards : (f.releaseAll s).2.boards = s.boards := by
  rw [releaseAll, disposeInTurn_boards, Scene.boards_foldl _ Scene.boards_fire]

theorem attemptReceive_boards (a : Attempt) (result : CallResult) :
    (f.attemptReceive a result s).2.boards = s.boards := by
  cases result with
  | core core => rfl
  | failed chain => simp [attemptReceive]
  | panicked => rfl

theorem settle_boards (a : Attempt) (core : Option Core) :
    (f.settle a core s).2.boards = s.boards := by
  unfold settle
  dsimp only
  split <;> simp

end Quiet

/-- An attempt leaves the registries alone. -/
theorem stepAttempt_boards {me : Nat} {f : Speculative} {a : Attempt} {s : Scene}
    {r : Speculative × Scene} (hstep : f.stepAttempt me a s = some r) : r.2.boards = s.boards := by
  cases stepAttempt_attemptStep hstep with
  | withdraws _ _ => exact s.boards_dropCall _
  | @calls call _ _ _ _ hlook =>
    have hlooked := s.lookAtCall_boards call
    rwa [hlook] at hlooked
  | @receives call result s₁ _ _ hlook =>
    have hlooked := s.lookAtCall_boards call
    rw [hlook] at hlooked
    exact (f.attemptReceive_boards s₁ a result).trans hlooked
  | resumes _ | joins _ _ | exits _ => rfl
  | settles _ _ => exact settle_boards _ s a _

/-! ## Passes -/

/-- Cores are assigned to listed requests only. -/
theorem assign_keeps (f : Speculative) {requests : List Nat} {ready : List Ready} {s : Scene}
    (hs : s.stage.IsSound) (hwho : ∀ id ∈ requests, who f.board id) :
    Scene.Keeps own who s (f.assign s requests ready).scene := by
  induction requests generalizing ready s with
  | nil => exact .refl s
  | cons request requests ih =>
    cases ready with
    | nil => exact .refl s
    | cons entry ready =>
      obtain ⟨id, core⟩ := entry
      have hallowed := hwho request List.mem_cons_self
      have hrest : ∀ id ∈ requests, who f.board id := fun id hid =>
        hwho id (List.mem_cons_of_mem _ hid)
      have hnoted : (s.note (.offered f.board request core)).stage.IsSound := hs
      unfold assign
      dsimp only
      split
      · rename_i s₁ hassign
        have hoffered : Scene.Keeps own who s (s.note (.offered f.board request core)) :=
          .of_boards (s.boards_note _)
        have hassigned := hoffered.trans (Scene.keeps_assignCore hnoted hassign hallowed)
        have hsound : s₁.stage.IsSound := hnoted.becomes (Scene.performs_assignCore hassign).stage
        refine (hassigned.trans (.of_boards ?_)).trans (ih ?_ hrest)
        · simp
        · rw [trace, ((s₁.aside_report _ _ _).trans (Scene.aside_trace _ _ _ _)).stage]
          exact hsound
      · refine Scene.Keeps.trans (.of_boards ?_) (ih ?_ hrest)
        · simp
        · rw [(Scene.aside_report _ _ _ _).stage]
          exact hs

/-- The loop counts the requests under the guard, and gives it back. -/
theorem count_keeps (chance : Chance) (f : Speculative) (discarded : List Core) (board : Board)
    (s : Scene) : Scene.Keeps (some f.board) who s (f.count chance discarded board s).2 := by
  unfold count
  dsimp only
  split
  · exact s.keeps_leave f.board
  · exact (s.keeps_leave f.board).trans (.of_boards (nextHolder_boards _ _ _ _ _ _))

theorem finish_keeps (f : Speculative) (s : Scene) : Scene.Keeps own who s (f.finish s).2 := by
  have hreported : Scene.Keeps own who s
      (s.report .debug "multi-source control loop stopped" []) := .of_boards (by simp)
  exact (hreported.trans (Scene.keeps_unsubscribeBoard _ f.board f.requestReceiver)).trans (.of_boards rfl)

/-- A pass assigns cores only to requests that nobody has reserved. -/
theorem finishPass_keeps (chance : Chance) (f : Speculative) (me : Nat) (ready : List Ready)
    (discarded : List Core) {board : Board} {s : Scene} (hs : s.stage.IsSound)
    (hboard : s.stage.boards[f.board]? = some (board.registry, board.changes)) :
    Scene.Keeps (some f.board) (fun b id => s.stage.marked b id = 0) s
      (f.finishPass chance me ready discarded board s).2 := by
  have hassigned : Scene.Keeps (some f.board) (fun b id => s.stage.marked b id = 0) s
      (f.assign s ((board.registry.candidates f.constraint).map (·.id)) ready).scene :=
    f.assign_keeps hs fun id hid => hs.marked_of_candidate hboard hid
  have hleft := hassigned.trans (Scene.keeps_leave _ f.board)
  refine hleft.trans (.of_boards ?_)
  unfold finishPass
  dsimp only
  rw [disposeInTurn_boards, rebalance_boards]

variable {chance : Chance} {f : Speculative} {s : Scene}

/-- A step of the loop has at most the guard of its registry, which no snapshot has, and assigns cores
only to requests that nobody has reserved. -/
theorem step_keeps {me : Nat} {r : Speculative × Scene} (hs : s.stage.IsSound)
    (hstep : f.step chance me s = some r) :
    Scene.Keeps none (fun b id => s.stage.marked b id = 0) s r.2 := by
  have hdrained : ∀ {own : Option Nat} {who : Nat → Nat → Prop},
      Scene.Keeps own who s (f.drain s) :=
    (s.keeps_drainBoard f.board f.requestReceiver).trans (.of_boards rfl)
  cases step_loopStep hstep with
  | joins _ => exact .refl s
  | waits _ hkeeps => exact hkeeps
  | begins _ => exact .of_boards (by simp)
  | reconciles _ _ => exact .of_boards (reconcile_boards _ s)
  | counts _ _ _ henter => exact .of_entered henter (f.count_keeps chance _ _ _)
  | judges _ _ isAlive hlook =>
    exact .of_boards ((f.judge_boards _ _ _ _ _ _ isAlive).trans
      (Scene.lookAtProbe_boards.2 isAlive _ hlook))
  | assigns _ haside hboard henter =>
    refine .of_entered henter ?_
    rw [← haside.stage]
    exact f.finishPass_keeps chance me _ _ (haside.stage ▸ hs) hboard
  | discards _ | dissolves _ => exact .of_boards (f.disposeInTurn_boards s _ _ _)
  | stops _ _ => exact .refl s
  | notices _ _ => exact hdrained.trans (.of_boards (noticeExit_boards _ _ _))
  | wakes _ => exact hdrained.trans (.of_boards (turn_boards _ _))
  | records _ => exact .of_boards rfl
  | resumes _ => exact .of_boards (f.turn_boards s)
  | releases _ => exact .of_boards (releaseAll_boards _ s)
  | noticesLate _ _ =>
    unfold noticeLateExit
    split
    · exact .of_boards (s.boards_report _ _ _)
    · exact .refl s
  | finishes _ _ => exact f.finish_keeps s

end CoreBroker.Speculative
