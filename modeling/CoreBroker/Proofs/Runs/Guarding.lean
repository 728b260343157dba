import CoreBroker.Proofs.Runs.ClientSteps
import CoreBroker.Proofs.Scene.Guards
set_option autoImplicit false

/-!
# What the client leaves alone

What the client does beside its errands takes no guard from a snapshot, and gives up no reservation that
an errand still uses.
-/

namespace CoreBroker

namespace World

/-- Every errand that passes a core to a request has a reservation that the client holds. -/
def IsEngaged (w : World) : Prop :=
  ∀ n lock core, (n, Errand.assign lock core) ∈ w.errands → lock ∈ w.locks

/-- `w'` came of `w` by somebody who had at most the guard of the registry `own`, assigned cores at most
to requests that `who` allows, took or gave up no snapshot and made no reservation. -/
structure Spares (own : Option Nat) (who : Nat → Nat → Prop) (w w' : World) : Prop where
  scene : Scene.Keeps own who w.scene w'.scene
  snapshots : w'.snapshots = w.snapshots
  locks : w'.locks ⊆ w.locks
  engaged : w.IsEngaged → w'.IsEngaged

namespace Spares

variable {own : Option Nat} {who : Nat → Nat → Prop} {w w₁ w₂ : World}

/-- No errand began to pass a core, and no reservation was given up. -/
theorem of_errands (hscene : Scene.Keeps own who w.scene w₁.scene)
    (hsnapshots : w₁.snapshots = w.snapshots)
    (herrands : ∀ n lock core, (n, Errand.assign lock core) ∈ w₁.errands →
      (n, Errand.assign lock core) ∈ w.errands)
    (hlocks : w₁.locks = w.locks) : Spares own who w w₁ :=
  ⟨hscene, hsnapshots, hlocks ▸ List.Subset.refl _, fun hengaged n lock core hmem =>
    hlocks ▸ hengaged n lock core (herrands n lock core hmem)⟩

theorem of_scene (hscene : Scene.Keeps own who w.scene w₁.scene)
    (hsnapshots : w₁.snapshots = w.snapshots) (herrands : w₁.errands = w.errands)
    (hlocks : w₁.locks = w.locks) : Spares own who w w₁ :=
  of_errands hscene hsnapshots (fun _ _ _ h => herrands ▸ h) hlocks

theorem of_boards (hboards : w₁.scene.boards = w.scene.boards)
    (hsnapshots : w₁.snapshots = w.snapshots) (herrands : w₁.errands = w.errands)
    (hlocks : w₁.locks = w.locks) : Spares own who w w₁ :=
  of_scene (.of_boards hboards) hsnapshots herrands hlocks

theorem refl (w : World) : Spares own who w w := of_boards rfl rfl rfl rfl

theorem trans (h₁ : Spares own who w w₁) (h₂ : Spares own who w₁ w₂) : Spares own who w w₂ :=
  ⟨h₁.scene.trans h₂.scene, h₂.snapshots.trans h₁.snapshots, fun _ h => h₁.locks (h₂.locks h),
    fun h => h₂.engaged (h₁.engaged h)⟩

/-- What was done before had nothing to do with the registries. -/
theorem after (h : Spares own who w₁ w₂) (hboards : w₁.scene.boards = w.scene.boards)
    (hsnapshots : w₁.snapshots = w.snapshots) (herrands : w₁.errands = w.errands)
    (hlocks : w₁.locks = w.locks) : Spares own who w w₂ :=
  (of_boards hboards hsnapshots herrands hlocks).trans h

theorem foldl {α : Type} {act : World → α → World} (hact : ∀ w x, Spares own who w (act w x))
    (xs : List α) (w : World) : Spares own who w (xs.foldl act w) := by
  induction xs generalizing w with
  | nil => exact .refl w
  | cons x xs ih => exact (hact w x).trans (ih (act w x))

end Spares

section Client

variable {own : Option Nat} {who : Nat → Nat → Prop} (w : World)

/-! ## Errands that begin -/

theorem send_spares {e : Errand} (hpassing : e.passing? = none) :
    Spares own who w (w.send e).2 := by
  refine .of_errands (.of_boards rfl) rfl (fun n lock core hmem => ?_) rfl
  rcases List.mem_append.mp hmem with hold | hnew
  · exact hold
  · cases List.mem_singleton.mp hnew
    exact absurd hpassing (by simp [Errand.passing?])

/-- A core begins to be passed to a request that the client has reserved. -/
theorem offer_spares {lock : Lock} (hlock : lock ∈ w.locks) (core : Core) :
    Spares own who w ((w.letGo core).offer lock core).2 where
  scene := .of_boards rfl
  snapshots := rfl
  locks := List.Subset.refl _
  engaged hengaged n other core' hmem := by
    rcases List.mem_append.mp hmem with hold | hnew
    · exact hengaged n other core' hold
    · cases List.mem_singleton.mp hnew
      exact hlock

/-! ## Giving up -/

theorem dropDedicated_spares (i : Nat) : Spares own who w (w.dropDedicated i) := by
  unfold dropDedicated
  split
  · exact .of_boards (by simp) rfl rfl rfl
  · exact .refl w

theorem dropSpeculative_spares (i : Nat) : Spares own who w (w.dropSpeculative i) := by
  unfold dropSpeculative
  split
  · exact .of_boards (by simp) rfl rfl rfl
  · exact .refl w

theorem relinquish_spares {stake : Stake} (hunused : w.isUsed stake = false) :
    Spares own who w (w.relinquish stake) := by
  cases stake with
  | request board id => exact w.send_spares rfl
  | lock serial =>
    unfold relinquish
    dsimp only
    split
    · rename_i lock hfind
      refine ⟨w.scene.keeps_unreserveRequest lock.board lock.request, rfl, List.filter_sublist.subset,
        fun hengaged n other core hmem => List.mem_filter.mpr ⟨hengaged n other core hmem, ?_⟩⟩
      rw [isUsed, List.any_eq_false] at hunused
      simpa [Errand.stake?] using hunused _ hmem
    · exact .refl w
  | service index =>
    unfold relinquish
    dsimp only
    split
    · rename_i service _
      exact (Spares.foldl dropDedicated_spares service.dedicated.toList w).trans
        (.foldl dropSpeculative_spares service.speculative.toList _)
    · exact .refl w

theorem giveUp_spares (stake : Stake) : Spares own who w (w.giveUp stake) := by
  unfold giveUp
  split
  · exact .of_boards rfl rfl rfl rfl
  · rename_i hunused
    exact w.relinquish_spares (Bool.eq_false_iff.mpr hunused)

theorem settleStake_spares (e : Errand) : Spares own who w (w.settleStake e) := by
  unfold settleStake
  split
  · exact .refl w
  · rename_i stake _
    split
    · rename_i hfree
      simp only [Bool.and_eq_true, Bool.not_eq_true'] at hfree
      have hleft : Spares own who w { w with leaving := w.leaving.filter (· != stake) } :=
        .of_boards rfl rfl rfl rfl
      exact hleft.trans (relinquish_spares _ hfree.2)
    · exact .refl w

/-! ## Errands that are abandoned -/

theorem cleanUpAll_spares (requests : List (Nat × Nat)) :
    Spares own who w (w.cleanUpAll requests) :=
  .foldl (fun w x => w.send_spares (e := .cleanUp x.1 x.2) rfl) requests w

theorem withdraw_spares (serial board : Nat) : Spares own who w (w.withdraw serial board) :=
  .of_scene (w.scene.keeps_withdraw board (.errand serial)) rfl rfl rfl

theorem dropPart_spares (part : Stopping) : Spares own who w (w.dropPart part) := by
  unfold dropPart
  split
  · exact w.dropDedicated_spares _
  · exact w.dropSpeculative_spares _
  · exact .refl w
  · exact .refl w

theorem wrapUp_spares (serial : Nat) (e : Errand) : Spares own who w (w.wrapUp serial e) := by
  unfold wrapUp
  split
  · exact (w.withdraw_spares serial _).trans (cleanUpAll_spares _ _)
  · exact .refl w
  · exact w.withdraw_spares serial _
  · exact w.cleanUpAll_spares _
  · exact (w.withdraw_spares serial _).trans (cleanUpAll_spares _ _)
  · exact w.cleanUpAll_spares _
  · exact .refl w
  · exact (w.withdraw_spares serial _).trans (cleanUpAll_spares _ _)
  · exact .refl w
  · exact (w.withdraw_spares serial _).trans (cleanUpAll_spares _ _)
  · exact .refl w
  · exact w.cleanUpAll_spares _
  · exact w.cleanUpAll_spares _
  · exact w.withdraw_spares serial _
  · rename_i lock core
    exact (w.withdraw_spares serial lock.board).trans
      (.of_boards (by simp [withScene]) rfl rfl rfl)
  · exact .of_boards (w.scene.boards_dropProbe _ _) rfl rfl rfl
  · exact .of_boards (w.scene.boards_dropCall _) rfl rfl rfl
  · exact .of_boards rfl rfl rfl rfl
  · exact .foldl dropPart_spares _ w

theorem abandon_spares (serial : Nat) : Spares own who w (w.abandon serial) := by
  unfold abandon
  split
  · exact .refl w
  · split
    · have hgone : Spares own who w { w with errands := w.errands.filter (·.1 != serial) } :=
        .of_errands (.of_boards rfl) rfl (fun _ _ _ h => (List.mem_filter.mp h).1) rfl
      exact (hgone.trans (wrapUp_spares _ serial _)).trans (settleStake_spares _ _)
    · exact .refl w

/-! ## Cores in the hands of the client -/

theorem receiveCore_spares (core : Core) : Spares own who w (w.receiveCore core) :=
  .of_boards (w.scene.boards_foldl Scene.boards_giveBackSlot _) rfl rfl rfl

theorem takeCore_spares (board id : Nat) : Spares own who w (w.takeCore board id).2 := by
  have hscene : Scene.Keeps own who w.scene (w.scene.takeCore board id).2 :=
    w.scene.keeps_takeCore board id
  unfold takeCore
  split
  · rename_i core s htake
    rw [htake] at hscene
    have htaken : Spares own who w (w.withScene s) := .of_scene hscene rfl rfl rfl
    exact htaken.trans (receiveCore_spares _ core)
  · exact .refl w

/-- Under a snapshot the client passes a core to a request of its registry. -/
theorem assignUnder_spares (hw : w.scene.stage.IsSound) {held : Snapshot} {request : Nat}
    (hwho : who held.board request) (core : Core) :
    Spares own who w (w.assignUnder held request core).2 := by
  have hoffered : Scene.Keeps own who w.scene (w.scene.note (.offered held.board request core)) :=
    .of_boards rfl
  have hsound : (w.scene.note (.offered held.board request core)).stage.IsSound := hw
  unfold assignUnder
  dsimp only
  split
  · rename_i s hassign
    exact .of_scene (hoffered.trans (Scene.keeps_assignCore hsound hassign hwho)) rfl rfl rfl
  · have hrefused : Spares own who w (w.withScene ((w.scene.note (.offered held.board request
        core)).note (.refused held.board request core))) := .of_boards rfl rfl rfl rfl
    exact hrefused.trans (receiveCore_spares _ core)

/-! ## Setting services up -/

theorem beginDedicated_spares (board : Nat) (provider : ProviderRef)
    (settings : DedicatedSettings) :
    Spares own who w (w.beginDedicated board provider settings).2 := by
  have hsubscribed : Scene.Keeps own who w.scene (w.scene.fresh.2.subscribeBoard board).2 :=
    Scene.Keeps.trans (.of_boards rfl) (w.scene.fresh.2.keeps_subscribeBoard board)
  exact .of_scene (hsubscribed.trans (.of_boards (Scene.boards_report _ _ _ _))) rfl rfl rfl

theorem beginSpeculative_spares (board roster : Nat) (settings : SpeculativeSettings) :
    Spares own who w (w.beginSpeculative board roster settings).2 := by
  have hsubscribed : Scene.Keeps own who w.scene (w.scene.fresh.2.subscribeBoard board).2 :=
    Scene.Keeps.trans (.of_boards rfl) (w.scene.fresh.2.keeps_subscribeBoard board)
  refine .of_scene (hsubscribed.trans (.of_boards ?_)) rfl rfl rfl
  exact (Scene.boards_report _ _ _ _).trans (Scene.boards_subscribeRoster _ roster)

theorem newDedicated_spares {board roster i : Nat} {provider : ProviderRef}
    {settings : DedicatedSettings} {w' : World}
    (hnew : w.newDedicated board roster provider settings = .ok (i, w')) : Spares own who w w' := by
  unfold newDedicated at hnew
  split at hnew
  · exact absurd hnew (by simp)
  · have hafter : _ = w' := congrArg Prod.snd (Except.ok.inj hnew)
    rw [← hafter]
    exact (w.beginDedicated_spares board provider settings).trans (.of_boards rfl rfl rfl rfl)

theorem newSpeculative_spares {board roster i : Nat} {settings : SpeculativeSettings} {w' : World}
    (hnew : w.newSpeculative board roster settings = .ok (i, w')) : Spares own who w w' := by
  unfold newSpeculative at hnew
  split at hnew
  · exact absurd hnew (by simp)
  · have hafter : _ = w' := congrArg Prod.snd (Except.ok.inj hnew)
    rw [← hafter]
    exact (w.beginSpeculative_spares board roster settings).trans (.of_boards rfl rfl rfl rfl)

theorem newBroker_spares {board roster : Nat} {provider : Option ProviderRef}
    {settings : BrokerSettings} {service : Service} {w' : World}
    (hnew : w.newBroker board roster provider settings = .ok (service, w')) :
    Spares own who w w' := by
  have hlocal : Spares own who w (w.beginLocalSide board provider settings).2 := by
    cases provider with
    | none => exact .refl w
    | some provider => exact w.beginDedicated_spares board provider settings.localSide
  have hremote : ∀ w : World, Spares own who w (w.beginRemoteSide board roster settings).2 := by
    intro w
    unfold beginRemoteSide
    split
    · exact w.beginSpeculative_spares board roster settings.remoteSide
    · exact .refl w
  unfold newBroker at hnew
  split at hnew
  · exact absurd hnew (by simp)
  · have hafter : _ = w' := congrArg Prod.snd (Except.ok.inj hnew)
    rw [← hafter]
    exact (hlocal.trans (hremote _)).trans (.of_boards (Scene.boards_report _ _ _ _) rfl rfl rfl)

theorem attachBoard_spares (sink : Trace.Sink) (b : Nat) :
    Spares own who w (w.attachBoard sink b) :=
  .of_scene (w.scene.keeps_modifyChanges b (fun _ => rfl) fun _ => rfl) rfl rfl rfl

theorem attachService_spares (sink : Trace.Sink) (service : Service) :
    Spares own who w (w.attachService sink service) := by
  have hboard : Spares own who w (if service.isBroker then
      (w.attachBoard sink service.board).attachRoster sink service.roster else w) := by
    split
    · exact (w.attachBoard_spares sink service.board).trans (.of_boards rfl rfl rfl rfl)
    · exact .refl w
  have hdedicated : ∀ (w : World) (i : Nat), Spares own who w (w.attachDedicated sink i) :=
    fun w i => .of_boards rfl rfl rfl rfl
  have hspeculative : ∀ (w : World) (i : Nat), Spares own who w (w.attachSpeculative sink i) :=
    fun w i => .of_boards rfl rfl rfl rfl
  exact (hboard.trans (.foldl hdedicated _ _)).trans (.foldl hspeculative _ _)

end Client

end World

end CoreBroker
