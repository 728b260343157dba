import CoreBroker.Proofs.Runs.Errands
set_option autoImplicit false

/-!
# Moves of the client

Every move that is neither a step of a fulfiller nor sets one up is a client step.
-/

namespace CoreBroker.World

variable {w w' : World} {actor : Option Task} {e : Option Errand} {x : Errand} {serial : Nat}

/-! ## Errands -/

theorem conclude_clientStep (hw : w.IsOrderly) (hmem : (serial, x) ∈ w.errands) {p : Progress}
    (hclientStep : p.IsClientStep w serial x) :
    ∃ events, ClientStep w (some (.errand serial)) none events (conclude serial x p) none := by
  obtain ⟨events, hclient, herrands⟩ := hclientStep
  cases p with
  | goOn x' w₁ => exact ⟨events, hclient.goingOn hw hmem herrands⟩
  | finish r w₁ =>
    have hfinished := hclient.finished hw hmem herrands
    have hreplied : ClientStep w (some (.errand serial)) none events
        (if isWaitedFor x then
          { w₁ with errands := w₁.errands.filter (·.1 != serial)
                    replies := w₁.replies ++ [(serial, r)] }
        else { w₁ with errands := w₁.errands.filter (·.1 != serial) }) none := by
      split
      · have hreply : ClientStep { w₁ with errands := w₁.errands.filter (·.1 != serial) }
            (some (.errand serial)) none []
            { w₁ with errands := w₁.errands.filter (·.1 != serial)
                      replies := w₁.replies ++ [(serial, r)] } none :=
          .quiet ⟨rfl, rfl, rfl, rfl⟩ .refl fun _ => Nat.le_refl _
        exact hfinished.trans hreply
      · exact hfinished
    obtain ⟨events', hsettled⟩ := settleStake_clientStep (hreplied.orderly hw)
      (some (.errand serial)) x
    exact ⟨_, hreplied.trans hsettled⟩

theorem cleanUpAll_clientStep (w : World) (requests : List (Nat × Nat)) :
    ClientStep w actor none [] (w.cleanUpAll requests) none := by
  unfold cleanUpAll
  induction requests generalizing w with
  | nil => exact .refl w actor none
  | cons request rest ih =>
    have hsent : ClientStep w actor none [] (w.send (.cleanUp request.1 request.2)).2 none :=
      .sent rfl rfl rfl
    exact hsent.trans (ih _)

theorem withdraw_clientStep (w : World) (serial board : Nat) :
    ClientStep w actor none [] (w.withdraw serial board) none :=
  .aside (w.scene.aside_withdraw board _)

theorem withdrawFrom_clientStep (w : World) (serial i : Nat) :
    ClientStep w actor none [] (w.withdrawFrom serial i) none := by
  unfold withdrawFrom
  cases hf : w.speculative[i]? with
  | none =>
    rw [List.modify_eq_self (List.getElem?_eq_none_iff.mp hf)]
    exact .refl w actor none
  | some f =>
    have hmodify : (w.speculative.modify i fun f =>
        { f with guard := f.guard.withdraw (.errand serial) }) =
          w.speculative.set i { f with guard := f.guard.withdraw (.errand serial) } := by
      rw [List.modify_eq_set_getElem?, hf]
      rfl
    rw [hmodify]
    refine .queued hf rfl fun hholder => ?_
    have hother : f.guard.holder ≠ some (.errand serial) := by
      rw [hholder]
      simp
    simp only [Guard.withdraw, hother, if_false]
    exact hholder

theorem dropParts_clientStep (w : World) (parts : List Stopping) :
    ClientStep w actor none [] (parts.foldl dropPart w) none := by
  induction parts generalizing w with
  | nil => exact .refl w actor none
  | cons part rest ih =>
    have hpart : ClientStep w actor none [] (w.dropPart part) none := by
      unfold dropPart
      split
      · obtain ⟨huntouched, haside, hhand⟩ := w.dropDedicated_aside _
        exact .quiet huntouched (.aside .refl haside) fun _ => Nat.le_of_eq (by rw [hhand])
      · obtain ⟨huntouched, haside, hhand⟩ := w.dropSpeculative_aside _
        exact .quiet huntouched (.aside .refl haside) fun _ => Nat.le_of_eq (by rw [hhand])
      · exact .refl w actor none
      · exact .refl w actor none
    exact hpart.trans (ih _)

theorem wrapUp_clientStep (w : World) (serial : Nat) (hpassing : x.passing? = none) :
    ClientStep w actor none [] (w.wrapUp serial x) none := by
  cases x with
  | create board preference left made draft isMany =>
    exact (w.withdraw_clientStep serial board).trans (cleanUpAll_clientStep _ _)
  | reserve board preference token service stage =>
    cases stage with
    | drafting => exact .refl w actor none
    | entering draft => exact w.withdraw_clientStep serial board
    | waiting id => exact w.cleanUpAll_clientStep _
    | abandoning id reason => exact (w.withdraw_clientStep serial board).trans (cleanUpAll_clientStep _ _)
    | disposing id reason => exact w.cleanUpAll_clientStep _
  | wait board id token takes => exact .refl w actor none
  | dispose board id => exact (w.withdraw_clientStep serial board).trans (cleanUpAll_clientStep _ _)
  | disposeAll requests count =>
    cases requests with
    | nil => exact .refl w actor none
    | cons request rest =>
      exact (w.withdraw_clientStep serial request.1).trans (cleanUpAll_clientStep _ _)
  | cleanUp board id => exact .refl w actor none
  | disposing board id left =>
    cases left with
    | reply | nothing | others requests count => exact w.cleanUpAll_clientStep _
  | ask board query service => exact w.withdraw_clientStep serial board
  | assign lock core => exact absurd hpassing (by simp [Errand.passing?])
  | probe core ticket token => exact .aside (w.scene.aside_dropProbe core ticket)
  | call call => exact .aside (w.scene.aside_dropCall call)
  | sight i service => exact w.withdrawFrom_clientStep serial i
  | shutDown isBroker isBegun parts => exact w.dropParts_clientStep parts

/-- An errand that passes a core to a request is abandoned, and the core goes with it. -/
theorem lost_clientStep {lock : Lock} {core : Core} (hw : w.IsOrderly)
    (hmem : (serial, .assign lock core) ∈ w.errands) :
    ClientStep w actor none [.lost lock.board lock.request core]
      ({ w with errands := w.errands.filter (·.1 != serial) }.wrapUp serial (.assign lock core))
      none := by
  have hlost : w.scene.ActSequence w.May [.lost lock.board lock.request core]
      (((w.scene.withdraw lock.board (.errand serial)).note
        (.lost lock.board lock.request core)).giveBackSlot core) := by
    have hnoted := Scene.performs_note (w.scene.withdraw lock.board (.errand serial))
      (show (Event.lost lock.board lock.request core).isRemark = true from rfl)
    have hafter := (Scene.Performs.afterAside (w.scene.aside_withdraw lock.board (.errand serial))
      hnoted).andAside (Scene.aside_giveBackSlot _ core)
    exact hafter.acts (show w.May w.scene.stage _ from trivial)
  have hclient : ClientStep w actor (some (.assign lock core)) [.lost lock.board lock.request core]
      (w.withScene (((w.scene.withdraw lock.board (.errand serial)).note
        (.lost lock.board lock.request core)).giveBackSlot core)) none := by
    refine .of_untouched ⟨rfl, rfl, rfl, rfl⟩ hlost (fun _ y hy => absurd hy (by simp))
      (fun c => ?_) (fun b id c => ?_) (fun id => ?_) (fun _ _ => by simp)
      (fun c => by simp [Event.closes]) (fun t ht => absurd ht (by simp))
    · have hhand : (w.withScene (((w.scene.withdraw lock.board (.errand serial)).note
        (.lost lock.board lock.request core)).giveBackSlot core)).hand = w.hand := rfl
      rw [hhand]
      by_cases hc : core = c <;>
        simp [gone, come, Event.removes, Event.brings, Errand.carries, Errand.core?, hc]
    · simp [Errand.passes, Errand.passing?, List.count_singleton]
    · simp [Event.enters]
  exact hclient.finished hw hmem rfl

theorem abandon_clientStep (hw : w.IsOrderly) (serial : Nat) :
    ∃ events, ClientStep w (some (.errand serial)) none events (w.abandon serial) none := by
  unfold abandon
  cases hfind : w.errands.find? (·.1 == serial) with
  | none => exact ⟨[], .refl w _ none⟩
  | some entry =>
    obtain ⟨n, x⟩ := entry
    have hmem : (n, x) ∈ w.errands := List.mem_of_find?_eq_some hfind
    have hn : n = serial := by simpa using List.find?_some hfind
    subst hn
    simp only
    split
    · have hwrapped : ∃ events, ClientStep w (some (.errand n)) none events
          ({ w with errands := w.errands.filter (·.1 != n) }.wrapUp n x) none := by
        cases hpassing : x.passing? with
        | none =>
          have hremoved : ClientStep w (some (.errand n)) none []
              { w with errands := w.errands.filter (·.1 != n) } none :=
            (ClientStep.ended hpassing).finished hw hmem rfl
          exact ⟨_, hremoved.trans (wrapUp_clientStep _ n hpassing)⟩
        | some passing =>
          cases x with
          | assign lock core => exact ⟨_, lost_clientStep hw hmem⟩
          | _ => exact absurd hpassing (by simp [Errand.passing?])
      obtain ⟨events, hwrapped⟩ := hwrapped
      obtain ⟨events', hsettled⟩ := settleStake_clientStep (hwrapped.orderly hw)
        (some (.errand n)) x
      exact ⟨_, hwrapped.trans hsettled⟩
    · exact ⟨[], .refl w _ none⟩

/-! ## Sinks -/

theorem attachDedicated_clientStep (w : World) (sink : Trace.Sink) (i : Nat) :
    ClientStep w actor e [] (w.attachDedicated sink i) e := by
  refine ⟨.refl, ?_, rfl, ClientStep.guards_of_eq rfl, ?_, fun h => h, fun _ => Nat.le_refl _,
    fun _ _ _ => rfl, fun _ => Nat.le_add_right _ _, fun _ _ => rfl,
    fun _ _ _ hmarked => .inr ⟨List.not_mem_nil, hmarked⟩, fun _ => by simp,
    fun t ht => absurd ht List.not_mem_nil⟩
  · exact map_modify_eq_self fun f _ => rfl
  · exact fun hw => ⟨hw.errands, hw.errandsBelow, hw.locks, hw.locksBelow, hw.lockBoards, hw.fresh⟩

theorem attachSpeculative_clientStep (w : World) (sink : Trace.Sink) (i : Nat) :
    ClientStep w actor e [] (w.attachSpeculative sink i) e := by
  refine ⟨.refl, rfl, ?_, ?_, ?_, fun h => h, fun _ => Nat.le_refl _,
    fun _ _ _ => rfl, fun _ => Nat.le_add_right _ _, fun _ _ => rfl,
    fun _ _ _ hmarked => .inr ⟨List.not_mem_nil, hmarked⟩, fun _ => by simp,
    fun t ht => absurd ht List.not_mem_nil⟩
  · exact map_modify_eq_self fun f _ => rfl
  · intro j f f' hf hf' hholder
    have hmodified : (w.speculative.modify i fun f => { f with sink })[j]? = some f' := hf'
    by_cases hij : i = j
    · subst hij
      rw [List.getElem?_modify_eq, hf] at hmodified
      cases hmodified
      exact hholder
    · rw [List.getElem?_modify_ne _ _ hij, hf] at hmodified
      cases hmodified
      exact hholder
  · exact fun hw => ⟨hw.errands, hw.errandsBelow, hw.locks, hw.locksBelow, hw.lockBoards, hw.fresh⟩

theorem attachBoard_clientStep (w : World) (sink : Trace.Sink) (b : Nat) :
    ClientStep w actor e [] (w.attachBoard sink b) e :=
  .aside (w.scene.aside_modifyBoard b (fun _ => rfl) fun _ => rfl)

theorem attachRoster_clientStep (w : World) (sink : Trace.Sink) (r : Nat) :
    ClientStep w actor e [] (w.attachRoster sink r) e :=
  .aside (w.scene.aside_modifyRoster r (fun _ => rfl) fun _ => rfl)

theorem attachService_clientStep (w : World) (sink : Trace.Sink) (service : Service) :
    ClientStep w actor e [] (w.attachService sink service) e := by
  have hparts : ClientStep w actor e []
      (if service.isBroker then
        (w.attachBoard sink service.board).attachRoster sink service.roster else w) e := by
    split
    · exact (w.attachBoard_clientStep sink _).trans (attachRoster_clientStep _ sink _)
    · exact .refl w actor e
  have hdedicated : ∀ w : World, ClientStep w actor e []
      (service.dedicated.toList.foldl (·.attachDedicated sink ·) w) e := fun w => by
    cases service.dedicated with
    | none => exact .refl w actor e
    | some i => exact w.attachDedicated_clientStep sink i
  have hspeculative : ∀ w : World, ClientStep w actor e []
      (service.speculative.toList.foldl (·.attachSpeculative sink ·) w) e := fun w => by
    cases service.speculative with
    | none => exact .refl w actor e
    | some i => exact w.attachSpeculative_clientStep sink i
  exact (hparts.trans (hdedicated _)).trans (hspeculative _)

/-! ## Parts of the scene -/

theorem performs_found (s : Scene) : Scene.Performs .founded s
    { s with boards := s.boards ++ [{}], rosters := s.rosters ++ [{}] } where
  stage := by
    have hstage : Scene.stage { s with boards := s.boards ++ [{}], rosters := s.rosters ++ [{}] } =
        { s.stage with boards := s.stage.boards ++ [({}, .new defaultChannelCapacity)]
                       rosters := s.stage.rosters ++ [([], .new defaultChannelCapacity)] } := by
      simp [Scene.stage]
    rw [hstage]
    exact .founded
  story := rfl
  toPrecedes := .of_eq (Nat.le_refl _) rfl rfl
  mint core hcore := absurd hcore (by simp)

theorem performs_enlist (s : Scene) (provider : Provider)
    (hserial : provider.ref.serial = s.providers.length) :
    Scene.Performs (.enlisted provider.ref) s
      { s with providers := s.providers ++ [provider] } where
  stage := by
    have hstage : Scene.stage { s with providers := s.providers ++ [provider] } =
        { s.stage with providers := s.stage.providers ++ [provider.ref] } := by
      simp [Scene.stage]
    rw [hstage]
    refine .enlisted ?_
    simp [Scene.stage, hserial]
  story := rfl
  toPrecedes := .of_eq (Nat.le_refl _) rfl rfl
  mint core hcore := absurd hcore (by simp)

/-- A client step that only does something to the scene without telling of it. -/
theorem withScene_clientStep {s : Scene} (hacts : w.scene.ActSequence w.May [] s) :
    ClientStep w actor e [] (w.withScene s) e :=
  .quiet ⟨rfl, rfl, rfl, rfl⟩ hacts fun _ => Nat.le_refl _

theorem aside_close (s : Scene) (p : Nat) : s.Aside (s.modifyProvider p (·.close)) := by
  refine s.aside_modifyProvider p fun provider _ => ?_
  unfold Provider.close
  split <;> rfl

end CoreBroker.World
