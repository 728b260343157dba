import CoreBroker.Proofs.Dedicated.Steps
import CoreBroker.Proofs.Runs.Reservations
import CoreBroker.Proofs.Scene.Guards
set_option autoImplicit false

/-!
# What a dedicated fulfiller leaves alone

A step of the loop takes no guard from a snapshot, reserves nothing while a snapshot has the guard, and
assigns its core to no request but the one that it has reserved.
-/

namespace CoreBroker.Dedicated

variable {own : Option Nat} {who : Nat → Nat → Prop} (f : Dedicated) (s : Scene)

theorem rest_keeps : Scene.Keeps own who s (f.rest s).2 := .refl s

theorem probe_keeps (core : Core) : Scene.Keeps own who s (f.probe core s).2 := .of_boards rfl

theorem pass_keeps : Scene.Keeps own who s (f.pass s).2 := by
  unfold pass
  split
  · exact f.rest_keeps s
  · split
    · exact probe_keeps _ s _
    · exact .refl s

theorem finish_keeps : Scene.Keeps own who s (f.finish s).2 := by
  have hreported : Scene.Keeps own who s (s.report .debug "single-source control loop stopped"
      [f.providerField]) := .of_boards (by simp)
  exact hreported.trans (Scene.keeps_unsubscribeBoard _ f.board f.receiver)

theorem close_keeps : Scene.Keeps own who s (f.close s).2 := by
  unfold close
  split
  · exact .of_boards (s.boards_disposeCore _)
  · exact f.finish_keeps s

theorem turn_keeps : Scene.Keeps own who s (f.turn s).2 := by
  unfold turn
  split
  · exact f.close_keeps s
  · exact f.pass_keeps s

theorem call_keeps : Scene.Keeps own who s (f.call s).2 := .of_boards rfl

theorem receive_keeps (result : CallResult) : Scene.Keeps own who s (f.receive result s).2 := by
  cases result with
  | core core => exact f.probe_keeps s core
  | failed chain => exact .of_boards (by simp [receive])
  | panicked => exact s.keeps_unsubscribeBoard f.board f.receiver

theorem judge_keeps (core : Core) (isAlive : Bool) :
    Scene.Keeps own who s (f.judge core isAlive s).2 := by
  unfold judge
  split
  · exact .refl s
  · exact .of_boards (by simp)

/-- The loop reserves a request under the guard. -/
theorem choose_keeps (core : Core) (board : Board) :
    Scene.Keeps (some f.board) who s (f.choose core board s).2 := by
  unfold choose
  split
  · have hleft : Scene.Keeps (some f.board) who s ((s.leave f.board).report .trace
        "no request left, keeping core" [f.providerField]) :=
      (s.keeps_leave f.board).trans (.of_boards (by simp))
    exact hleft.trans (rest_keeps _ _)
  · rename_i r _
    have hreserved : Scene.Keeps (some f.board) who s
        ((s.reserveRequest f.board r.id).leave f.board) :=
      (s.keeps_reserveRequest f.board r.id).trans (Scene.keeps_leave _ f.board)
    exact hreserved.trans (.of_boards (by simp))

/-- The loop assigns its core to the request that it has reserved. -/
theorem place_keeps {core : Core} {request : Nat} (hs : s.stage.IsSound)
    (hclaim : f.claim? = some (core, request)) :
    Scene.Keeps (some f.board) f.Claims s (f.place core request s).2 := by
  unfold place
  split
  · rename_i s₁ hassign
    have hassigned : Scene.Keeps (some f.board) f.Claims s s₁ :=
      Scene.keeps_assignCore hs hassign ⟨rfl, core, hclaim⟩
    have hleft := hassigned.trans (s₁.keeps_leave f.board)
    exact ((hleft.trans (.of_boards (by simp))).trans
      (Scene.keeps_unreserveRequest _ f.board request)).trans (f.pass_keeps _)
  · rename_i reason _
    have hleft : Scene.Keeps (some f.board) f.Claims s
        (((s.note (.refused f.board request core)).leave f.board).report .debug
          "core rejected, keeping it" [("request_id", .naming request), ("reason", reason.message)]) :=
      (Scene.keeps_leave (s.note (.refused f.board request core)) f.board).trans
        (.of_boards (by simp))
    exact (hleft.trans (Scene.keeps_unreserveRequest _ f.board request)).trans (pass_keeps _ _)

variable {f s}

/-- A step of the loop has at most the guard of its registry, which no snapshot has, and assigns a core
at most to the request that the loop has reserved. -/
theorem step_keeps {me : Nat} {r : Dedicated × Scene} (hs : s.stage.IsSound)
    (hstep : f.step me s = some r) : Scene.Keeps none f.Claims s r.2 := by
  cases step_loopStep hstep with
  | waits _ hkeeps => exact hkeeps
  | begins _ => exact Scene.Keeps.trans (.of_boards (by simp)) (f.turn_keeps _)
  | calls _ _ _ _ henter =>
    exact .of_entered henter ((Scene.keeps_leave _ f.board).trans (f.call_keeps _))
  | rests _ _ _ _ henter =>
    exact .of_entered henter ((Scene.keeps_leave _ f.board).trans (f.rest_keeps _))
  | withdraws _ _ => exact .of_boards (s.boards_dropCall _)
  | @receives call result s₁ _ _ hlook =>
    have hlooked := s.lookAtCall_boards call
    rw [hlook] at hlooked
    exact Scene.Keeps.trans (.of_boards hlooked) (f.receive_keeps s₁ result)
  | @goesOn call _ _ _ _ hlook =>
    have hlooked := s.lookAtCall_boards call
    rw [hlook] at hlooked
    exact .of_boards hlooked
  | looks _ => exact s.keeps_drainBoard f.board f.receiver
  | keeps _ _ _ _ henter => exact .of_entered henter (Scene.keeps_leave _ f.board)
  | abandons _ _ _ _ henter =>
    exact .of_entered henter ((Scene.keeps_leave _ f.board).trans (.of_boards (by simp [rest])))
  | resumes _ => exact f.pass_keeps s
  | judges _ _ isAlive hlook =>
    exact Scene.Keeps.trans (.of_boards (Scene.lookAtProbe_boards.2 isAlive _ hlook))
      (f.judge_keeps _ _ isAlive)
  | chooses _ _ _ _ henter => exact .of_entered henter (f.choose_keeps _ _ _)
  | places hpoint haside _ henter =>
    exact .of_entered henter (f.place_keeps _ (haside.stage ▸ hs) (by rw [claim?, hpoint]; rfl))
  | disposed _ => exact f.pass_keeps s
  | closes _ _ => exact f.close_keeps s
  | finishes _ => exact f.finish_keeps s
  | wakes _ => exact (s.keeps_drainBoard f.board f.receiver).trans (f.turn_keeps _)

/-! ## Reservations of the loop -/

variable {b id : Nat}

/-- A loop that has nothing reserved claims nothing. -/
theorem not_claims (hfree : f.claim? = none) : ¬ f.Claims b id := by
  rintro ⟨-, core, hclaim⟩
  rw [hfree] at hclaim
  exact absurd hclaim (by simp)

theorem close_claim (f : Dedicated) (s : Scene) : (f.close s).1.claim? = none := by
  unfold close
  split <;> rfl

theorem turn_claim (f : Dedicated) (s : Scene) : (f.turn s).1.claim? = none := by
  unfold turn
  split
  · exact f.close_claim s
  · exact (f.pass_goesOn s).claim

theorem receive_claim (f : Dedicated) (result : CallResult) (s : Scene) :
    (f.receive result s).1.claim? = none := by
  cases result <;> rfl

theorem judge_claim (f : Dedicated) (core : Core) (isAlive : Bool) (s : Scene) :
    (f.judge core isAlive s).1.claim? = none := by
  unfold judge
  split <;> rfl

theorem place_claim (f : Dedicated) (core : Core) (request : Nat) (s : Scene) :
    (f.place core request s).1.claim? = none := by
  unfold place
  split
  · exact (f.pass_goesOn _).claim
  · exact (pass_goesOn _ _).claim

/-- The request that the loop reserves has no core. -/
theorem choose_claims {core : Core} {board : Board} (hs : s.stage.IsSound)
    (hboard : s.stage.boards[f.board]? = some (board.registry, board.changes))
    (hclaims : (f.choose core board s).1.Claims b id) :
    ¬ ((f.choose core board s).2.boardAt b).registry.Fulfils id := by
  intro hfulfils
  have hnobody : Scene.Keeps (some f.board) (fun _ _ => False) s (f.choose core board s).2 :=
    f.choose_keeps s core board
  have hbefore := (hnobody b).assigned id (fun h => h) hfulfils
  obtain ⟨found, hfound, hregistry, -⟩ := Scene.board_of_stage hboard
  unfold choose at hclaims
  split at hclaims
  · exact not_claims rfl hclaims
  · rename_i r hnext
    obtain ⟨rfl, core', hclaim⟩ := hclaims
    obtain ⟨-, rfl⟩ : core = core' ∧ r.id = id := by
      simpa [claim?, goTo, DedicatedPoint.claim?] using hclaim
    obtain ⟨hmem, hcandidate⟩ := Registry.next?_candidate hnext
    have hat : (s.boardAt f.board).registry = board.registry := by
      rw [Scene.boardAt_eq hfound, hregistry]
    exact Registry.not_fulfils_of_candidate (hs.requests hboard).1 hmem hcandidate (hat ▸ hbefore)

/-- What the loop has reserved after a step it had before, or it has no core yet. -/
theorem step_claims {me : Nat} {r : Dedicated × Scene} (hs : s.stage.IsSound)
    (hstep : f.step me s = some r) (hclaims : r.1.Claims b id) :
    f.Claims b id ∨ ¬ (r.2.boardAt b).registry.Fulfils id := by
  cases step_loopStep hstep with
  | waits _ => exact .inl hclaims
  | chooses _ haside hboard => exact .inr (choose_claims (haside.stage ▸ hs) hboard hclaims)
  | begins _ => exact absurd hclaims (not_claims (turn_claim _ _))
  | receives _ _ => exact absurd hclaims (not_claims (receive_claim _ _ _))
  | resumes _ | disposed _ => exact absurd hclaims (not_claims (f.pass_goesOn s).claim)
  | closes _ _ => exact absurd hclaims (not_claims (f.close_claim s))
  | judges _ _ isAlive => exact absurd hclaims (not_claims (judge_claim _ _ isAlive _))
  | places _ _ _ => exact absurd hclaims (not_claims (place_claim _ _ _ _))
  | wakes _ => exact absurd hclaims (not_claims (turn_claim _ _))
  | _ => exact absurd hclaims (not_claims rfl)

/-- A loop that has reserved a request is about to place its core. -/
theorem point_of_claim {core : Core} (hclaim : f.claim? = some (core, id)) :
    f.point = .placing core id := by
  unfold claim? at hclaim
  cases hpoint : f.point with
  | placing core' request =>
    rw [hpoint, DedicatedPoint.claim?, Option.some.injEq, Prod.mk.injEq] at hclaim
    rw [hclaim.1, hclaim.2]
  | _ => exact absurd hclaim (by simp [hpoint, DedicatedPoint.claim?])

/-- The loop has its core no longer once it got it into a request. -/
theorem place_refused {core : Core} (hspare : f.spare = none)
    (hkept : (f.place core id s).1.cores = [core]) :
    ∃ reason, s.assignCore f.board id core = .error reason := by
  cases hassign : s.assignCore f.board id core with
  | error reason => exact ⟨reason, rfl⟩
  | ok s₁ =>
    simp only [place, hassign] at hkept
    rw [(f.pass_goesOn _).cores, hspare] at hkept
    exact absurd hkept (by simp)

/-- A request that the loop does not get its core into does not wait for one. -/
theorem not_waits_of_kept {me : Nat} {r : Dedicated × Scene} {core : Core} (hs : s.stage.IsSound)
    (hf : f.IsSound) (hclaim : f.claim? = some (core, id)) (hstep : f.step me s = some r)
    (hkept : r.1.cores = [core]) (hfree : r.1.claim? = none) :
    ¬ (s.boardAt f.board).registry.Waits id := by
  have hpoint := point_of_claim hclaim
  cases step_loopStep hstep with
  | waits _ => exact absurd (hclaim.symm.trans hfree) (by simp)
  | @places core' request board s₁ hplacing haside hboard =>
    rw [hpoint, DedicatedPoint.placing.injEq] at hplacing
    obtain ⟨rfl, rfl⟩ := hplacing
    have hspare : f.spare = none := spare_eq_none hf fun _ => by simp [hpoint]
    obtain ⟨reason, hrefused⟩ := place_refused hspare hkept
    have hstage : s.stage.boards[f.board]? = some (board.registry, board.changes) :=
      haside.stage ▸ hboard
    obtain ⟨found, hfound, hregistry, -⟩ := Scene.board_of_stage hstage
    rw [Scene.boardAt_eq hfound, hregistry]
    exact Scene.not_waits_of_refused (haside.stage ▸ hs) hboard hrefused
  | begins h | calls h | rests h | withdraws h | receives h | goesOn h | looks h | keeps h
  | abandons h | resumes h | judges h | chooses h | disposed h | closes h | finishes h | wakes h =>
    exact absurd (hpoint.symm.trans h) (by simp)

end CoreBroker.Dedicated
