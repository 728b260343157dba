import CoreBroker.Proofs.Speculative.AwareSteps
import CoreBroker.Proofs.Speculative.Numbers
set_option autoImplicit false

/-!
# Pausing after a failure

An attempt whose provider failed stays where it is until its pause is over or it is cancelled, whatever
the loop and the other attempts do meanwhile.
-/

namespace CoreBroker

/-- The call of the attempt ends with an error when the attempt takes its next step. -/
def Attempt.isFailing (a : Attempt) (s : Scene) : Bool :=
  match a.point with
  | .calling call =>
    !s.isCancelled a.token &&
      match s.lookAtCall call with
      | .ended (.failed _) _ => true
      | _ => false
  | _ => false

theorem Attempt.of_isFailing {a : Attempt} {s : Scene} (hfails : a.isFailing s = true) :
    ∃ call chain s₁, a.point = .calling call ∧ s.isCancelled a.token = false ∧
      s.lookAtCall call = .ended (.failed chain) s₁ := by
  unfold isFailing at hfails
  split at hfails
  · rename_i call hpoint
    obtain ⟨hwanted, hlook⟩ := Bool.and_eq_true_iff.mp hfails
    split at hlook
    · rename_i chain s₁ hfailed
      exact ⟨call, chain, s₁, hpoint, by simpa using hwanted, hfailed⟩
    · exact absurd hlook Bool.false_ne_true
  · exact absurd hfails Bool.false_ne_true

/-- The attempt stays away from its provider until some time. -/
def Attempt.resting (a : Attempt) (wakeAt : Nat) : Attempt := { a with point := .backingOff wakeAt }

namespace Speculative

variable {chance : Chance} {p : ProviderRef} {f f' : Speculative} {s s' : Scene} {a b : Attempt} {me : Nat}

/-! ## The loop -/

/-- No attempt was lost, and only providers on the roster came to be tracked. -/
structure KeepsAttempts (f : Speculative) (s : Scene) (f' : Speculative) : Prop where
  attempts : f.attempts ⊆ f'.attempts
  providers : ∀ p ∈ f'.states.providers, p ∈ f.states.providers ∨ p ∈ f.members s

theorem KeepsAttempts.of_same (hattempts : f'.attempts = f.attempts)
    (hproviders : f'.states.providers = f.states.providers) : f.KeepsAttempts s f' :=
  ⟨hattempts ▸ List.Subset.refl _, fun _ hp => .inl (hproviders ▸ hp)⟩

theorem Holds.keepsAttempts {ready : List Ready} {discarded : List Core} {s₁ : Scene}
    (hholds : Holds f s₁ ready discarded f' s') : f.KeepsAttempts s f' :=
  .of_same (by rw [hholds.same]) hholds.providers

theorem turn_keepsAttempts (f : Speculative) (s s₁ : Scene) : f.KeepsAttempts s (f.turn s₁).1 := by
  unfold turn
  split
  · exact .of_same rfl rfl
  · exact .of_same rfl rfl

theorem finishPass_keepsAttempts (hids : f.states.ids.Nodup) (chance : Chance) (me : Nat) (ready : List Ready)
    (discarded : List Core) (board : Board) (s₁ : Scene) :
    f.KeepsAttempts s (f.finishPass chance me ready discarded board s₁).1 := by
  obtain ⟨leftovers, g, s₂, s₃, -, -, -, ⟨cores, heq⟩, hresizes⟩ :=
    finishPass_starts_or_givesUp chance hids me ready discarded board s₁
  have hproviders := finishPass_providers chance hids me ready discarded board s₁
  refine ⟨?_, fun p hp => .inl (hproviders ▸ hp)⟩
  rw [heq]
  show f.attempts ⊆ g.attempts
  rcases hresizes with ⟨news, hstarts⟩ | ⟨put, gone, put', hgivesUp⟩
  · rw [hstarts.fulfiller]
    exact List.subset_append_left _ _
  · rw [hgivesUp.fulfiller]
    exact List.Subset.refl _

theorem noticeExit_keepsAttempts (f : Speculative) (exit : Exit) (s s₁ : Scene) :
    f.KeepsAttempts s (f.noticeExit exit s₁).1 := by
  have hturn := turn_keepsAttempts { f with owners := f.owners.filter (·.serial != exit.serial) } s s₁
  unfold noticeExit
  simp only
  split
  · split
    · exact .of_same rfl rfl
    · exact .of_same rfl rfl
  · exact ⟨hturn.attempts, hturn.providers⟩

/-- Every step of the loop retains the attempts. -/
theorem step_keepsAttempts (hids : f.states.ids.Nodup) {r : Speculative × Scene}
    (hstep : f.step chance me s = some r) : f.KeepsAttempts s r.1 := by
  cases step_loopStep hstep with
  | begins _ => exact turn_keepsAttempts f s _
  | reconciles _ _ =>
    refine ⟨List.Subset.refl _, fun p hp => ?_⟩
    obtain ⟨o, ho, rfl⟩ := List.mem_map.mp hp
    exact (States.provider_of_sync ho).imp_left fun ho => List.mem_map_of_mem ho
  | counts _ _ _ => exact (count_holds chance hids _ _ _).keepsAttempts
  | @judges pending ready held _ holders discarded s₁ _ _ isAlive =>
    obtain ⟨ready', discarded', s₂, -, heq⟩ :=
      judge_eq_nextHolder f pending ready held holders discarded isAlive s₁
    rw [heq]
    exact (nextHolder_holds pending ready' discarded' holders hids).keepsAttempts
  | assigns _ _ _ => exact finishPass_keepsAttempts hids chance me _ _ _ _
  | @notices exit exits _ _ =>
    have hnotices := noticeExit_keepsAttempts { f with exits } exit s (f.drain s)
    exact ⟨hnotices.attempts, hnotices.providers⟩
  | wakes _ => exact turn_keepsAttempts f s _
  | @records guard owner _ =>
    obtain ⟨states, hproviders, -, heq⟩ := recordPanic_eq (f := { f with guard }) hids owner s
    rw [heq]
    exact .of_same rfl hproviders
  | resumes _ => exact turn_keepsAttempts f s _
  | discards _ | dissolves _ =>
    rw [disposeInTurn_eq]
    exact .of_same rfl rfl
  | releases _ =>
    rw [releaseAll_eq]
    refine .of_same rfl ?_
    show (f.states.map Obtainment.release).map (·.provider) = f.states.map (·.provider)
    rw [List.map_map]
    exact List.map_congr_left fun _ _ => rfl
  | _ => exact .of_same rfl rfl

/-! ## Attempts -/

/-- What one attempt does is nothing to another one. -/
theorem stepAttempt_keepsAttempts (ha : a ∈ f.attempts) (hother : a.serial ≠ b.serial)
    {r : Speculative × Scene} (hstep : f.stepAttempt me b s = some r) : a ∈ r.1.attempts := by
  have hgoTo : ∀ point, a ∈ (f.attemptGoTo b point).attempts := fun point =>
    List.mem_map.mpr ⟨a, ha, if_neg (by simpa using hother)⟩
  have hleft : a ∈ f.attempts.filter (·.serial != b.serial) :=
    List.mem_filter.mpr ⟨ha, bne_iff_ne.mpr hother⟩
  cases stepAttempt_attemptStep hstep with
  | @receives _ result _ _ _ =>
    cases result with
    | panicked => exact hleft
    | _ => exact hgoTo _
  | joins _ _ => exact ha
  | settles _ _ =>
    rcases settle_fst _ b _ s with hsettled | hsettled
    · rw [hsettled]
      exact hgoTo _
    · rw [hsettled]
      exact hleft
  | exits _ => exact hleft
  | _ => exact hgoTo _

/-- An attempt that pauses goes on when its pause is over, or when it is cancelled. -/
theorem over_of_stepAttempt {wakeAt : Nat} (hpoint : a.point = .backingOff wakeAt)
    {r : Speculative × Scene} (hstep : f.stepAttempt me a s = some r) :
    s.isCancelled a.token = true ∨ wakeAt ≤ s.now := by
  simp only [stepAttempt, hpoint] at hstep
  split at hstep
  · rename_i hover
    simpa using hover
  · exact absurd hstep (by simp)

/-- An attempt whose call fails takes a step, and pauses from then on. -/
theorem stepAttempt_of_isFailing (me : Nat) (ha : a ∈ f.attempts) (hfails : a.isFailing s = true) :
    ∃ r wakeAt, f.stepAttempt me a s = some r ∧ s.now + f.settings.retryDelay.toNat ≤ wakeAt ∧
      a.resting wakeAt ∈ r.1.attempts := by
  obtain ⟨call, chain, s₁, hpoint, hwanted, hfailed⟩ := Attempt.of_isFailing hfails
  have htells : s.Aside s₁ := by
    have htells := s.lookAtCall_tells call
    rwa [hfailed] at htells
  have hreported := (htells.trans (Scene.aside_report s₁ .warn "Core provider failed, retrying"
    [providerField a.provider.id, ("error", .ofText (chain.head?.getD ""))])).trans
      (Scene.aside_trace _ f.sink traceSource
        ("provider " ++ a.provider.id ++ " failed: " ++ ": ".intercalate chain : String))
  refine ⟨f.attemptReceive a (.failed chain) s₁, _, ?_, Nat.add_le_add_right hreported.now _,
    List.mem_map.mpr ⟨a, ha, ?_⟩⟩
  · simp only [stepAttempt, hpoint, hwanted, Bool.false_eq_true, if_false, hfailed]
  · rw [if_pos (beq_self_eq_true a.serial)]
    rfl

end Speculative

end CoreBroker
