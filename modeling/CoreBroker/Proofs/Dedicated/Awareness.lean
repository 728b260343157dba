import CoreBroker.Proofs.Dedicated.Steps
import CoreBroker.Proofs.Scene.Notice
set_option autoImplicit false

/-!
# What a dedicated fulfiller knows

The loop takes notice of changes where it rests and where it waits for its provider.  What it found out
when it last looked stays true there as long as its receiver finds nothing: while it waits for the
provider some request is there for the core, and when it came to rest there was none.  Requests that
prefer a remote core come of age without an announcement, so what was true then need not be true now.
-/

namespace CoreBroker

theorem Scene.now_dropCall (s : Scene) (call : Call) : (s.dropCall call).now = s.now := by
  unfold dropCall
  split <;> rfl

theorem Scene.now_report (s : Scene) (level : Log.Level) (message : Phrase Nat)
    (fields : List (String × Phrase Nat)) : (s.report level message fields).now = s.now := by
  unfold report
  split <;> rfl

namespace Dedicated

variable {f f' : Dedicated} {s s₁ s' : Scene} {me : Nat}

/-- Whether one of these requests may be served at a time. -/
def serves (f : Dedicated) (waiting : List (Request Core)) (now : Nat) : Bool :=
  waiting.any (·.isServable f.settings.servesLocal f.offeredDelay now)

theorem serves_mono {now later : Nat} (hle : now ≤ later) {waiting : List (Request Core)}
    (hserves : f.serves waiting now = true) : f.serves waiting later = true := by
  obtain ⟨r, hr, hservable⟩ := List.any_eq_true.mp hserves
  exact List.any_eq_true.mpr ⟨r, hr, Request.isServable_mono hle hservable⟩

/-- When the loop came to rest there was nothing to serve, as far as nothing was announced, and it looks
again when requests that were there have come of age. -/
def FoundNone (f : Dedicated) (s : Scene) (lookAgainAt : Option Nat) : Prop :=
  ∃ since, lookAgainAt = f.settings.remoteDelay.map (since + ·.toNat) ∧
    ∀ waiting, s.stage.IsCalm f.board f.receiver waiting → f.serves waiting since = false

/-- What the point at which the loop is says about the requests. -/
def Knows (f : Dedicated) (s : Scene) : Prop :=
  match f.point with
  | .calling _ => ∀ waiting, s.stage.IsCalm f.board f.receiver waiting → f.serves waiting s.now = true
  | .idle lookAgainAt => s.isCancelled f.shutdown = true ∨ f.FoundNone s lookAgainAt
  | _ => True

/-- What holds of a fulfiller and the scene. -/
structure IsAware (s : Scene) (f : Dedicated) : Prop where
  served : f.isOver = false → s.stage.ServesBoard f.board f.receiver
  knows : f.Knows s

/-- The receiver of the fulfiller finds something whenever anything has changed for it. -/
def Notices (f : Dedicated) (st st' : Stage) : Prop :=
  ∀ {waiting : List (Request Core)}, st'.IsCalm f.board f.receiver waiting →
    st.IsCalm f.board f.receiver waiting

/-- What others do a fulfiller notices, so what it knows stays true. -/
theorem Knows.later (hknows : f.Knows s) (hprecedes : s.Precedes s')
    (hnotices : f.Notices s.stage s'.stage) : f.Knows s' := by
  unfold Knows at hknows ⊢
  split at hknows
  · exact fun waiting hcalm => serves_mono hprecedes.now (hknows waiting (hnotices hcalm))
  · rcases hknows with hcancelled | ⟨since, hlook, hnone⟩
    · exact .inl (hprecedes.isCancelled hcancelled)
    · exact .inr ⟨since, hlook, fun waiting hcalm => hnone waiting (hnotices hcalm)⟩
  · trivial

/-- Where nothing was announced, there is demand if one of the waiting requests may be served. -/
theorem hasDemand_of_calm {board : Board}
    (hboard : s.stage.boards[f.board]? = some (board.registry, board.changes))
    {waiting : List (Request Core)} (hcalm : s.stage.IsCalm f.board f.receiver waiting) :
    f.hasDemand board s = f.serves waiting s.now := by
  obtain ⟨hfree, rfl⟩ := hcalm.of_board hboard
  exact hfree.hasNext_eq _ _ _

/-! ## Where the loop goes -/

/-- Away from calls and from rest there is nothing to know. -/
theorem Knows.elsewhere (hcalling : ∀ call, f.point ≠ .calling call)
    (hidle : ∀ lookAgainAt, f.point ≠ .idle lookAgainAt) : f.Knows s := by
  unfold Knows
  split
  · rename_i call hpoint
    exact absurd hpoint (hcalling call)
  · rename_i lookAgainAt hpoint
    exact absurd hpoint (hidle lookAgainAt)
  · trivial

theorem goTo_knows {point : DedicatedPoint} (hcalling : ∀ call, point ≠ .calling call)
    (hidle : ∀ lookAgainAt, point ≠ .idle lookAgainAt) (s : Scene) : (f.goTo point).Knows s :=
  .elsewhere hcalling hidle

theorem rest_knows (hnone : ∀ waiting, s.stage.IsCalm f.board f.receiver waiting →
    f.serves waiting s.now = false) : (f.rest s).1.Knows (f.rest s).2 :=
  .inr ⟨s.now, rfl, hnone⟩

theorem rest_knows_of_cancelled (hcancelled : s.isCancelled f.shutdown = true) :
    (f.rest s).1.Knows (f.rest s).2 := .inl hcancelled

theorem pass_knows (f : Dedicated) (s : Scene) : (f.pass s).1.Knows (f.pass s).2 := by
  unfold pass
  split
  · rename_i hcancelled
    exact rest_knows_of_cancelled hcancelled
  · split
    · exact goTo_knows (by simp) (by simp) _
    · exact goTo_knows (by simp) (by simp) _

theorem close_knows (f : Dedicated) (s : Scene) : (f.close s).1.Knows (f.close s).2 := by
  rcases f.close_point s with hpoint | hpoint <;> exact .elsewhere (by simp [hpoint]) (by simp [hpoint])

theorem turn_knows (f : Dedicated) (s : Scene) : (f.turn s).1.Knows (f.turn s).2 := by
  unfold turn
  split
  · exact f.close_knows s
  · exact f.pass_knows s

theorem receive_knows (f : Dedicated) (result : CallResult) (s : Scene) :
    (f.receive result s).1.Knows (f.receive result s).2 := by
  cases result <;> exact goTo_knows (by simp) (by simp) _

theorem judge_knows (f : Dedicated) (core : Core) (isAlive : Bool) (s : Scene) :
    (f.judge core isAlive s).1.Knows (f.judge core isAlive s).2 := by
  unfold judge
  split <;> exact goTo_knows (by simp) (by simp) _

theorem place_knows (f : Dedicated) (core : Core) (id : Nat) (s : Scene) :
    (f.place core id s).1.Knows (f.place core id s).2 := by
  unfold place
  split
  · exact pass_knows _ _
  · exact pass_knows _ _

/-- Whoever finds no request for a core knows that there was none. -/
theorem choose_knows {core : Core} {board : Board}
    (hboard : s.stage.boards[f.board]? = some (board.registry, board.changes)) :
    (f.choose core board s).1.Knows (f.choose core board s).2 := by
  unfold choose
  split
  · rename_i hnext
    have haside := (s.aside_leave f.board).trans
      (Scene.aside_report _ .trace "no request left, keeping core" [f.providerField])
    refine rest_knows fun waiting hcalm => ?_
    rw [haside.stage] at hcalm
    have hdemand : f.hasDemand board s = f.serves waiting s.now := hasDemand_of_calm hboard hcalm
    rw [Scene.now_report]
    exact hdemand.symm.trans (Registry.hasNext_of_next?_eq_none hnext)
  · exact goTo_knows (by simp) (by simp) _

/-- Whoever has a call goes on with it while there is demand. -/
theorem calling_knows {board : Board} {call : Call}
    (hboard : s₁.stage.boards[f.board]? = some (board.registry, board.changes))
    (hdemand : f.hasDemand board s₁ = true) (haside : s₁.Aside s') :
    (f.goTo (.calling call)).Knows s' := by
  intro waiting hcalm
  rw [haside.stage] at hcalm
  exact serves_mono haside.now ((hasDemand_of_calm hboard hcalm).symm.trans hdemand)

/-! ## The step -/

/-- Every step of the loop leaves the fulfiller knowing what it has to know. -/
theorem step_knows (haware : f.IsAware s) {r : Dedicated × Scene} (hstep : f.step me s = some r) :
    r.1.Knows r.2 := by
  have hlater : ∀ {s₁ : Scene}, s.Aside s₁ → f.Knows s₁ := fun haside =>
    haware.knows.later haside.toPrecedes fun hcalm => haside.stage ▸ hcalm
  cases step_loopStep hstep with
  | waits haside => exact hlater haside
  | begins _ => exact turn_knows _ _
  | @calls board s₁ _ _ hboard hdemand =>
    have hcalled : s₁.Aside (f.call (s₁.leave f.board)).2 :=
      ((s₁.aside_leave f.board).trans (Scene.aside_fresh _)).trans
        (Scene.aside_newCall _ f.provider.serial (f.shutdown.child (s₁.leave f.board).nextSerial))
    exact calling_knows hboard hdemand hcalled
  | @rests board s₁ _ _ hboard hdemand =>
    refine rest_knows fun waiting hcalm => ?_
    rw [(s₁.aside_leave f.board).stage] at hcalm
    exact (hasDemand_of_calm hboard hcalm).symm.trans hdemand
  | @withdraws call _ hcancelled =>
    exact rest_knows_of_cancelled ((s.aside_dropCall call).isCancelled hcancelled)
  | receives _ _ => exact receive_knows _ _ _
  -- Everywhere else the loop has just looked; here it relies on what it knew.
  | goesOn hpoint haside =>
    have hknows := hlater haside
    unfold Knows at hknows
    rw [hpoint] at hknows
    exact hknows
  | looks _ => exact goTo_knows (by simp) (by simp) _
  | @keeps call board s₁ _ _ hboard hdemand =>
    exact calling_knows hboard hdemand (s₁.aside_leave f.board)
  | @abandons call board s₁ _ _ hboard hdemand =>
    have hdropped := (((s₁.aside_leave f.board).trans (Scene.aside_fire _ call.token)).trans
      (Scene.aside_report _ .debug "no request left, provider call abandoned"
        [f.providerField])).trans (Scene.aside_dropCall _ call)
    refine rest_knows fun waiting hcalm => ?_
    rw [hdropped.stage] at hcalm
    rw [Scene.now_dropCall, Scene.now_report]
    exact (hasDemand_of_calm hboard hcalm).symm.trans hdemand
  | resumes _ => exact pass_knows _ _
  | judges _ _ isAlive => exact judge_knows _ _ isAlive _
  | chooses _ _ hboard => exact choose_knows hboard
  | places _ _ _ => exact place_knows _ _ _ _
  | disposed _ => exact pass_knows _ _
  | closes _ => exact close_knows _ _
  | finishes _ => exact goTo_knows (by simp) (by simp) _
  | wakes _ => exact turn_knows _ _

/-- Only a loop that is over has given up its receiver. -/
theorem Steps.served {events : List Event} (hsteps : f.Steps s events f' s')
    (hserved : s.stage.ServesBoard f.board f.receiver) (hgoesOn : f'.isOver = false) :
    s'.stage.ServesBoard f'.board f'.receiver := by
  have hplaces : f'.board = f.board ∧ f'.receiver = f.receiver := by
    rw [hsteps.flow.same]
    exact ⟨rfl, rfl⟩
  rw [hplaces.1, hplaces.2]
  refine hsteps.acts.servesBoard (fun st act hmay hleaves => ?_) hserved
  cases act with
  | left board receiver =>
    rw [hgoesOn] at hmay
    exact absurd hmay.1 Bool.false_ne_true
  | _ => exact hleaves

theorem step_aware (hstage : s.stage.IsSound) (hsound : f.IsSound) (haware : f.IsAware s)
    {r : Dedicated × Scene} (hstep : f.step me s = some r) : r.1.IsAware r.2 where
  served hgoesOn := by
    obtain ⟨events, hsteps⟩ := step_steps hstage hsound hstep
    exact hsteps.served (haware.served (not_isOver_of_step hstep)) hgoesOn
  knows := step_knows haware hstep

/-- Whoever is not told of anything is as aware as before. -/
theorem IsAware.later (haware : f.IsAware s) (hprecedes : s.Precedes s')
    (hothers : s.stage.ServesBoard f.board f.receiver →
      s'.stage.ServesBoard f.board f.receiver ∧ f.Notices s.stage s'.stage) : f.IsAware s' := by
  by_cases hover : f.isOver = true
  · refine ⟨fun hgoesOn => absurd (hgoesOn.symm.trans hover) Bool.false_ne_true, ?_⟩
    refine .elsewhere (fun call hpoint => ?_) fun lookAgainAt hpoint => ?_
    · simp [isOver, hpoint] at hover
    · simp [isOver, hpoint] at hover
  · obtain ⟨hserved, hnotices⟩ := hothers (haware.served (Bool.eq_false_iff.mpr hover))
    exact ⟨fun _ => hserved, haware.knows.later hprecedes hnotices⟩

end Dedicated

end CoreBroker
