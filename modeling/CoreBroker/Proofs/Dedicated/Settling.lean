import CoreBroker.Proofs.Dedicated.Resting
import CoreBroker.Proofs.Registry.Selection
import CoreBroker.Proofs.Scene.Likeness
set_option autoImplicit false

/-!
# How a dedicated fulfiller settles

A loop that finds no request to serve has little to do: it asks its spare core, if it has one, whether it
works, looks for a request, and rests.  How many points it still has to go to is known at each of them, and
every step to another point leaves fewer.  This needs a delay that is not zero: otherwise the time to look
again has come as soon as the loop rests.
-/

namespace CoreBroker

/-- How many points the loop goes to before it rests, at most, if it finds no request to serve.  At the other
points it has found one, or is over. -/
def DedicatedPoint.toRest? : DedicatedPoint → Option Nat
  | .probing _ _ => some 3
  | .starting | .disposing => some 2
  | .demanding | .choosing _ => some 1
  | .idle _ => some 0
  | .calling _ | .rechecking _ | .pausing _ | .placing _ _ | .closing | .ended | .panicked => none

namespace Dedicated

/-- No request that the loop may serve is available. -/
def FindsNone (f : Dedicated) (s : Scene) : Prop :=
  ∀ q ∈ (s.stage.board f.board).1.candidates .all,
    q.isServable f.settings.servesLocal f.offeredDelay s.now = false

instance (f : Dedicated) (s : Scene) : Decidable (f.FindsNone s) :=
  inferInstanceAs (Decidable (∀ q ∈ (s.stage.board f.board).1.candidates .all, _))

/-- The loop rests and the time to look again has come. -/
def isDue (f : Dedicated) (s : Scene) : Bool :=
  match f.point with
  | .idle lookAgainAt => lookAgainAt.any (· ≤ s.now)
  | _ => false

/-- The loop does not rest for long: its receiver finds something, or the time to look again has come. -/
def isStirred (f : Dedicated) (s : Scene) : Bool := s.boardReady f.board f.receiver || f.isDue s

/-- How many points the loop goes to between two rests, at most, if it finds no request to serve: with a
core it asks whether it works, and may have to dispose of it. -/
def roundLength (f : Dedicated) : Nat := if f.cores = [] then 2 else 4

/-- The loop goes to at most `n` points before it rests and nothing stirs it, if it finds no request to
serve. -/
def IsWithin (f : Dedicated) (s : Scene) (n : Nat) : Prop :=
  ∃ k, f.point.toRest? = some k ∧ k + (if f.isStirred s then f.roundLength else 0) ≤ n

/-- A step of a loop that has no request to serve and is not shut down. -/
inductive Seeks (me : Nat) (f : Dedicated) (s : Scene) : Dedicated × Scene → Prop
  /-- It joins the queue for the guard of the registry. -/
  | queues {s₁ : Scene} (hpoint : f.point = .demanding ∨ ∃ core, f.point = .choosing core)
      (hjoined : s.enter f.board (.dedicated me) = .joined s₁) : Seeks me f s (f, s₁)
  /-- It joins the queue at the gate behind which a core answers. -/
  | awaits {core : Core} {ticket : Nat} {s₁ : Scene} (hpoint : f.point = .probing core ticket)
      (hmoved : s.lookAtProbe core ticket f.shutdown = .moved s₁) : Seeks me f s (f, s₁)
  /-- It begins. -/
  | begins {s₁ : Scene} (hpoint : f.point = .starting) (hlike : s.Resembles s₁) :
      Seeks me f s (f.goTo .demanding, s₁)
  /-- It wakes up without a spare core and is about to look for a request. -/
  | wakes {lookAgainAt : Option Nat} {s₁ : Scene} (hpoint : f.point = .idle lookAgainAt)
      (hstirred : f.isStirred s = true) (hlike : (s.drainBoard f.board f.receiver).Resembles s₁) :
      Seeks me f s (f.goTo .demanding, s₁)
  /-- It wakes up and asks its spare core whether it works. -/
  | asks {lookAgainAt : Option Nat} {core : Core} {ticket : Nat} {s₁ : Scene}
      (hpoint : f.point = .idle lookAgainAt) (hspare : f.spare = some core)
      (hstirred : f.isStirred s = true)
      (hlike : (s.drainBoard f.board f.receiver).Resembles s₁) :
      Seeks me f s ({ f with spare := none }.goTo (.probing core ticket), s₁)
  /-- The core works. -/
  | trusts {core : Core} {ticket : Nat} {s₁ : Scene} (hpoint : f.point = .probing core ticket)
      (hlike : s.Resembles s₁) : Seeks me f s (f.goTo (.choosing core), s₁)
  /-- The core does not work. -/
  | discards {core : Core} {ticket : Nat} {s₁ : Scene} (hpoint : f.point = .probing core ticket)
      (hlike : s.Resembles s₁) : Seeks me f s (f.goTo .disposing, s₁)
  /-- The core has been disposed of. -/
  | disposed (hpoint : f.point = .disposing) : Seeks me f s (f.goTo .demanding, s)
  /-- It has found no request and rests. -/
  | rests {s₁ : Scene} (hpoint : f.point = .demanding) (hlike : s.Resembles s₁) :
      Seeks me f s (f.rest s₁)
  /-- It has found no request, keeps the core and rests. -/
  | keeps {core : Core} {s₁ : Scene} (hpoint : f.point = .choosing core) (hlike : s.Resembles s₁) :
      Seeks me f s ({ f with spare := some core }.rest s₁)

variable {f : Dedicated} {s s₁ : Scene} {me n : Nat} {lookAgainAt : Option Nat}

theorem FindsNone.hasNext_eq {board : Board} (hnone : f.FindsNone s) (hlike : s.Resembles s₁)
    (hboard : s.boards[f.board]? = some board) :
    board.registry.hasNext f.settings.servesLocal f.offeredDelay s₁.now = false := by
  rw [Registry.hasNext_eq_any, hlike.now]
  refine List.any_eq_false.mpr fun q hq => Bool.eq_false_iff.mp (hnone q ?_)
  rwa [Stage.board_eq (Scene.stage_board hboard)]

theorem pass_of_no_spare (hlive : s.isCancelled f.shutdown = false) (hspare : f.spare = none) :
    f.pass s = (f.goTo .demanding, s) := by
  simp [pass, hlive, hspare]

theorem turn_of_no_spare (hlive : s.isCancelled f.shutdown = false) (hspare : f.spare = none) :
    f.turn s = (f.goTo .demanding, s) := by
  rw [turn, if_neg (Bool.eq_false_iff.mp hlive), pass_of_no_spare hlive hspare]

/-- A loop that rests wakes up only if something stirs it. -/
theorem step_of_idle (hpoint : f.point = .idle lookAgainAt) (hlive : s.isCancelled f.shutdown = false) :
    f.step me s =
      if f.isStirred s then some (f.turn (s.drainBoard f.board f.receiver)) else none := by
  simp [step, isStirred, isDue, hpoint, hlive]

/-- Under the guard there is nothing to do for a loop that finds no request. -/
theorem seeks_of_guarded {r : Dedicated × Scene} {act : Board → Scene → Option (Dedicated × Scene)}
    (hpoint : f.point = .demanding ∨ ∃ core, f.point = .choosing core)
    (hstep : (match s.enter f.board (.dedicated me) with
      | .blocked => none
      | .joined s => some (f, s)
      | .entered board s => act board s) = some r)
    (hentered : ∀ board s₁, s.Resembles s₁ → s.boards[f.board]? = some board →
      act board s₁ = some r → Seeks me f s r) : Seeks me f s r := by
  cases henter : s.enter f.board (.dedicated me) with
  | blocked => simp [henter] at hstep
  | joined s₁ =>
    simp only [henter, Option.some.injEq] at hstep
    exact hstep ▸ .queues hpoint henter
  | entered board s₁ =>
    simp only [henter] at hstep
    exact hentered board s₁ (Scene.resembles_of_entered henter) (Scene.aside_of_entered henter).2.1 hstep

/-- A core that has answered is kept for a request or disposed of. -/
theorem seeks_of_judge {core : Core} {ticket : Nat} (hpoint : f.point = .probing core ticket)
    (hlike : s.Resembles s₁) (isAlive : Bool) : Seeks me f s (f.judge core isAlive s₁) := by
  cases isAlive with
  | true => exact .trusts hpoint hlike
  | false =>
    have hdisposed := ((s₁.logsOnly_report .debug "Obtained core is not alive, disposing"
      [f.providerField]).trans (Scene.logsOnly_trace _ f.sink traceSource
        ("dead core disposed" : String))).resembles.trans (Scene.resembles_disposeCore _ core)
    rw [judge, if_neg Bool.false_ne_true]
    exact .discards hpoint (hlike.trans hdisposed)

/-- A loop that wakes up empties its receiver and begins anew. -/
theorem seeks_of_wake (hpoint : f.point = .idle lookAgainAt) (hstirred : f.isStirred s = true)
    (hlive : s.isCancelled f.shutdown = false) :
    Seeks me f s (f.turn (s.drainBoard f.board f.receiver)) := by
  have hlive' : (s.drainBoard f.board f.receiver).isCancelled f.shutdown = false := hlive
  cases hcore : f.spare with
  | none =>
    rw [turn_of_no_spare hlive' hcore]
    exact .wakes hpoint hstirred (.refl _)
  | some core =>
    have hturn : f.turn (s.drainBoard f.board f.receiver) =
        { f with spare := none }.probe core (s.drainBoard f.board f.receiver) := by
      simp [turn, pass, hlive', hcore]
    rw [hturn]
    exact .asks hpoint hcore hstirred (Scene.resembles_fresh _)

/-- Every step of a loop that has no request to serve and is not shut down is one of those listed. -/
theorem step_seeks (hsound : f.IsSound) (hlive : s.isCancelled f.shutdown = false)
    (hnone : f.FindsNone s) (hseeks : f.point.toRest?.isSome = true) {r : Dedicated × Scene}
    (hstep : f.step me s = some r) : Seeks me f s r := by
  have hspare : (∀ lookAgainAt, f.point ≠ .idle lookAgainAt) → f.spare = none := spare_eq_none hsound
  cases hpoint : f.point with
  | starting =>
    have hlike := (s.logsOnly_report .debug "single-source control loop started" [f.providerField]).resembles
    simp only [step, hpoint, Option.some.injEq] at hstep
    rw [turn_of_no_spare ((hlike.isCancelled _).trans hlive) (hspare (by simp [hpoint]))] at hstep
    exact hstep ▸ .begins hpoint hlike
  | demanding =>
    simp only [step, hpoint] at hstep
    refine seeks_of_guarded (.inl hpoint) hstep fun board s₁ hlike hboard hact => ?_
    have hdemand : f.hasDemand board s₁ = false := hnone.hasNext_eq hlike hboard
    rw [hdemand, if_neg Bool.false_ne_true] at hact
    exact Option.some.inj hact ▸ .rests hpoint (hlike.trans (s₁.resembles_leave f.board))
  | probing core ticket =>
    simp only [step, hpoint] at hstep
    split at hstep
    · exact absurd hstep (by simp)
    · rename_i s₁ hlook
      exact Option.some.inj hstep ▸ .awaits hpoint hlook
    · rename_i isAlive s₁ hlook
      exact Option.some.inj hstep ▸ seeks_of_judge hpoint (Scene.resembles_of_answered hlook) isAlive
  | disposing =>
    simp only [step, hpoint, Option.some.injEq] at hstep
    rw [pass_of_no_spare hlive (hspare (by simp [hpoint]))] at hstep
    exact hstep ▸ .disposed hpoint
  | choosing core =>
    simp only [step, hpoint] at hstep
    refine seeks_of_guarded (.inr ⟨core, hpoint⟩) hstep fun board s₁ hlike hboard hact => ?_
    have hnext : board.registry.next? f.settings.servesLocal f.offeredDelay s₁.now = none := by
      rw [← Option.not_isSome_iff_eq_none, ← Registry.hasNext_eq_isSome, hnone.hasNext_eq hlike hboard]
      exact Bool.false_ne_true
    have hreported := (s₁.resembles_leave f.board).trans
      (Scene.logsOnly_report _ .trace "no request left, keeping core" [f.providerField]).resembles
    simp only [choose, hnext, Option.some.injEq] at hact
    exact hact ▸ .keeps hpoint (hlike.trans hreported)
  | idle lookAgainAt =>
    rw [step_of_idle hpoint hlive] at hstep
    split at hstep
    · rename_i hstirred
      exact Option.some.inj hstep ▸ seeks_of_wake hpoint hstirred hlive
    · exact absurd hstep (by simp)
  | _ => exact absurd hseeks (by simp [hpoint, DedicatedPoint.toRest?])

/-! ## What is left to do -/

/-- What stirs a loop that does not rest is in its receiver. -/
theorem isStirred_of_not_idle (hpoint : ∀ lookAgainAt, f.point ≠ .idle lookAgainAt) :
    f.isStirred s = s.boardReady f.board f.receiver := by
  unfold isStirred isDue
  split
  · rename_i lookAgainAt hidle
    exact absurd hidle (hpoint lookAgainAt)
  · exact Bool.or_false _

/-- A loop that has just come to rest is not to look again at once, unless it is to do so after no time. -/
theorem isStirred_rest (hdelay : f.settings.remoteDelay ≠ some 0) :
    (f.rest s).1.isStirred (f.rest s).2 = s.boardReady f.board f.receiver := by
  have hlater : (f.rest s).1.isDue (f.rest s).2 = false := by
    simp only [isDue, rest, goTo]
    cases hd : f.settings.remoteDelay with
    | none => rfl
    | some delay =>
      have hpos : delay.toNat ≠ 0 := fun hzero =>
        hdelay (hd.trans (congrArg some (UInt64.toNat_inj.mp hzero)))
      have hlate : ¬ s.now + delay.toNat ≤ s.now := by omega
      exact decide_eq_false hlate
  rw [isStirred, hlater, Bool.or_false]
  rfl

theorem cores_ne_nil {core : Core} (hcore : f.spare = some core ∨ f.point.core? = some core) :
    f.cores ≠ [] := by
  rcases hcore with hcore | hcore <;> simp [cores, hcore]

theorem cores_goTo {point : DedicatedPoint} (hcore : point.core? = none) (hnone : f.cores = []) :
    (f.goTo point).cores = [] := by
  rw [cores_eq_spare hcore]
  exact (List.append_eq_nil_iff.mp hnone).1

/-- A loop that gets no core has no longer round. -/
theorem roundLength_le {f' : Dedicated} (hcores : f.cores = [] → f'.cores = []) :
    f'.roundLength ≤ f.roundLength := by
  unfold roundLength
  by_cases hnone : f.cores = []
  · rw [if_pos hnone, if_pos (hcores hnone)]
  · rw [if_neg hnone]
    split <;> omega

theorem one_lt_roundLength (f : Dedicated) : 1 < f.roundLength := by
  unfold roundLength
  split <;> omega

theorem roundLength_le_four (f : Dedicated) : f.roundLength ≤ 4 := by
  unfold roundLength
  split <;> omega

/-- What a step to another point leaves to do, if nothing new stirs the loop. -/
theorem IsWithin.next {f' : Dedicated} {k k' : Nat} (hwithin : f.IsWithin s n)
    (hk : f.point.toRest? = some k) (hk' : f'.point.toRest? = some k') (hlt : k' < k)
    (hcores : f.cores = [] → f'.cores = []) (hstirred : f'.isStirred s₁ = f.isStirred s) :
    f'.point ≠ f.point ∧ ∃ m < n, f'.IsWithin s₁ m := by
  obtain ⟨k₀, hk₀, hle⟩ := hwithin
  obtain rfl := Option.some.inj (hk.symm.trans hk₀)
  have hround := roundLength_le hcores
  refine ⟨fun hsame => ?_, n - 1, by omega, k', hk', ?_⟩
  · rw [hsame, hk] at hk'
    exact absurd (Option.some.inj hk') (Nat.ne_of_gt hlt)
  · rw [hstirred]
    by_cases hmore : f.isStirred s = true
    · rw [if_pos hmore] at hle ⊢
      omega
    · rw [if_neg hmore] at hle ⊢
      omega

/-- What a loop that was stirred has left to do once it has emptied its receiver and left its rest. -/
theorem IsWithin.wake {f' : Dedicated} {k : Nat} (hwithin : f.IsWithin s n)
    (hpoint : f.point = .idle lookAgainAt) (hstirred : f.isStirred s = true)
    (hk : f'.point.toRest? = some k) (hshort : k < f.roundLength) (hidle : ∀ t, f'.point ≠ .idle t)
    (hcalm : f'.isStirred s₁ = false) : f'.point ≠ f.point ∧ ∃ m < n, f'.IsWithin s₁ m := by
  obtain ⟨k₀, hk₀, hle⟩ := hwithin
  rw [hstirred, if_pos rfl] at hle
  refine ⟨fun hsame => hidle _ (hsame.trans hpoint), k, by omega, k, hk, ?_⟩
  rw [hcalm, if_neg Bool.false_ne_true, Nat.add_zero]

/-- Every step of a loop that has no request to serve leaves it where it is, in a queue, or takes it to
another point and leaves it less to do. -/
theorem Seeks.isWithin (hdelay : f.settings.remoteDelay ≠ some 0)
    (hdrained : (s.drainBoard f.board f.receiver).boardReady f.board f.receiver = false)
    {r : Dedicated × Scene} (hseeks : Seeks me f s r) (hwithin : f.IsWithin s n) :
    (r.1 = f ∧ r.1.IsWithin r.2 n) ∨ (r.1.point ≠ f.point ∧ ∃ m < n, r.1.IsWithin r.2 m) := by
  -- Away from its rests only the receiver stirs the loop, and the step leaves that alone.
  have hkept : ∀ {f' : Dedicated} {s₁ : Scene}, s.Resembles s₁ → (∀ t, f.point ≠ .idle t) →
      f'.isStirred s₁ = s₁.boardReady f.board f.receiver → f'.isStirred s₁ = f.isStirred s :=
    fun hlike hpoint hstirred => by
      rw [hstirred, Scene.boardReady_congr hlike.stage, isStirred_of_not_idle hpoint]
  have hstays : ∀ {s₁ : Scene}, s.Resembles s₁ → (∀ t, f.point ≠ .idle t) → f.IsWithin s₁ n :=
    fun hlike hpoint => by
      obtain ⟨k, hk, hle⟩ := hwithin
      exact ⟨k, hk, by rwa [hkept hlike hpoint (isStirred_of_not_idle hpoint)]⟩
  cases hseeks with
  | queues hpoint hjoined =>
    refine .inl ⟨rfl, hstays (Scene.resembles_of_joined hjoined) fun t hidle => ?_⟩
    rcases hpoint with hpoint | ⟨core, hpoint⟩ <;> exact absurd (hpoint.symm.trans hidle) (by simp)
  | awaits hpoint hmoved =>
    exact .inl ⟨rfl, hstays (Scene.resembles_of_moved hmoved) (by simp [hpoint])⟩
  | begins hpoint hlike =>
    refine .inr (hwithin.next (by rw [hpoint]; rfl) rfl (by decide) (cores_goTo rfl)
      (hkept hlike (by simp [hpoint]) ?_))
    exact isStirred_of_not_idle (by simp [goTo])
  | wakes hpoint hstirred hlike =>
    refine .inr (hwithin.wake hpoint hstirred rfl f.one_lt_roundLength (by simp [goTo]) ?_)
    rw [isStirred_of_not_idle (by simp [goTo])]
    exact (Scene.boardReady_congr hlike.stage).trans hdrained
  | asks hpoint hspare hstirred hlike =>
    have hround : f.roundLength = 4 := if_neg (cores_ne_nil (.inl hspare))
    refine .inr (hwithin.wake hpoint hstirred rfl (by rw [hround]; decide) (by simp [goTo]) ?_)
    rw [isStirred_of_not_idle (by simp [goTo])]
    exact (Scene.boardReady_congr hlike.stage).trans hdrained
  | @trusts core _ _ hpoint hlike =>
    have hcore : f.point.core? = some core := by
      rw [hpoint]
      rfl
    refine .inr (hwithin.next (by rw [hpoint]; rfl) rfl (by decide)
      (fun hnone => absurd hnone (cores_ne_nil (.inr hcore))) (hkept hlike (by simp [hpoint]) ?_))
    exact isStirred_of_not_idle (by simp [goTo])
  | discards hpoint hlike =>
    refine .inr (hwithin.next (by rw [hpoint]; rfl) rfl (by decide) (cores_goTo rfl)
      (hkept hlike (by simp [hpoint]) ?_))
    exact isStirred_of_not_idle (by simp [goTo])
  | disposed hpoint =>
    refine .inr (hwithin.next (by rw [hpoint]; rfl) rfl (by decide) (cores_goTo rfl)
      (hkept (.refl s) (by simp [hpoint]) ?_))
    exact isStirred_of_not_idle (by simp [goTo])
  | rests hpoint hlike =>
    exact .inr (hwithin.next (by rw [hpoint]; rfl) rfl (by decide) (cores_goTo rfl)
      (hkept hlike (by simp [hpoint]) (isStirred_rest hdelay)))
  | @keeps core s₁ hpoint hlike =>
    have hcore : f.point.core? = some core := by
      rw [hpoint]
      rfl
    exact .inr (hwithin.next (by rw [hpoint]; rfl) rfl (by decide)
      (fun hnone => absurd hnone (cores_ne_nil (.inr hcore)))
      (hkept hlike (by simp [hpoint]) (isStirred_rest (f := { f with spare := some core }) hdelay)))

/-- A step of a loop that has no request to serve takes no time, fires nothing and leaves the requests as
they are. -/
theorem Seeks.still {r : Dedicated × Scene} (hseeks : Seeks me f s r) :
    r.2.now = s.now ∧ r.2.fired = s.fired ∧
      (∀ b, changesOf b r.2.story = changesOf b s.story) := by
  cases hseeks with
  | queues _ hjoined =>
    have hlike := Scene.resembles_of_joined hjoined
    exact ⟨hlike.now, hlike.fired, hlike.changes⟩
  | awaits _ hmoved =>
    have hlike := Scene.resembles_of_moved hmoved
    exact ⟨hlike.now, hlike.fired, hlike.changes⟩
  | disposed _ => exact ⟨rfl, rfl, fun _ => rfl⟩
  | begins _ hlike | wakes _ _ hlike | asks _ _ _ hlike | trusts _ hlike
  | discards _ hlike | rests _ hlike | keeps _ hlike => exact ⟨hlike.now, hlike.fired, hlike.changes⟩

/-! ## Where the loop stands still -/

/-- When it is to look again is settled when the loop comes to rest: after its delay, if it has one. -/
def IsTimed (f : Dedicated) (now : Nat) : Prop :=
  ∀ lookAgainAt, f.point = .idle lookAgainAt →
    ∃ since ≤ now, lookAgainAt = f.settings.remoteDelay.map (since + ·.toNat)

theorem IsTimed.later {now later : Nat} (htimed : f.IsTimed now) (hle : now ≤ later) :
    f.IsTimed later := fun lookAgainAt hidle => by
  obtain ⟨since, hsince, hlook⟩ := htimed lookAgainAt hidle
  exact ⟨since, Nat.le_trans hsince hle, hlook⟩

theorem isTimed_of_not_idle (hpoint : ∀ lookAgainAt, f.point ≠ .idle lookAgainAt) (now : Nat) :
    f.IsTimed now := fun lookAgainAt hidle => absurd hidle (hpoint lookAgainAt)

theorem rest_isTimed (f : Dedicated) (s : Scene) : (f.rest s).1.IsTimed (f.rest s).2.now := by
  intro lookAgainAt hidle
  exact ⟨s.now, Nat.le_refl _, (DedicatedPoint.idle.inj hidle).symm⟩

theorem pass_isTimed (f : Dedicated) (s : Scene) : (f.pass s).1.IsTimed (f.pass s).2.now := by
  unfold pass
  split
  · exact rest_isTimed f s
  · split
    · exact isTimed_of_not_idle (by simp [probe, goTo]) _
    · exact isTimed_of_not_idle (by simp [goTo]) _

/-- Whenever the loop comes to rest it is settled when it is to look again. -/
theorem step_isTimed {r : Dedicated × Scene} (hstep : f.step me s = some r) : r.1.IsTimed r.2.now := by
  cases step_loopStep hstep with
  | waits _ => exact isTimed_of_not_idle (fun t hidle => step_not_idle hidle hstep hidle) _
  | begins _ | wakes _ => exact isTimed_of_not_idle (fun _ => turn_not_idle) _
  | rests _ _ _ _ | withdraws _ _ | abandons _ _ _ _ => exact rest_isTimed _ _
  | @receives call result s₁ _ _ _ =>
    cases result <;> exact isTimed_of_not_idle (by simp [receive, probe, goTo]) _
  | resumes _ | disposed _ => exact pass_isTimed _ _
  | closes _ _ =>
    refine isTimed_of_not_idle (fun t => ?_) _
    rcases f.close_point s with hpoint | hpoint <;> simp [hpoint]
  | judges _ _ isAlive _ => cases isAlive <;> exact isTimed_of_not_idle (by simp [judge, goTo]) _
  | chooses _ _ _ _ =>
    unfold choose
    split
    · exact rest_isTimed _ _
    · exact isTimed_of_not_idle (by simp [goTo]) _
  | places _ _ _ =>
    unfold place
    split <;> exact pass_isTimed _ _
  | _ => exact isTimed_of_not_idle (by simp [call, finish, goTo]) _

/-- The loop waits for something to change: its receiver finds nothing, its shutdown was not fired, and if it
is to look again by itself then it is to do so later. -/
structure IsResting (f : Dedicated) (s : Scene) : Prop where
  idle : ∃ lookAgainAt, f.point = .idle lookAgainAt ∧
    lookAgainAt.isSome = f.settings.remoteDelay.isSome ∧ ∀ t ∈ lookAgainAt, s.now < t
  quiet : s.boardReady f.board f.receiver = false
  live : s.isCancelled f.shutdown = false

/-- The loop waits in the queue for the guard of the registry, which somebody else has, or for the answer of
a core. -/
inductive IsHeldUp (me : Nat) (f : Dedicated) (s : Scene) : Prop
  | guard {board : Board} {other : Holder} (hboard : s.boards[f.board]? = some board)
      (hholder : board.guard.holder = some other) (hother : other ≠ .task (.dedicated me))
      (hqueued : .task (.dedicated me) ∈ board.guard.queue)
  | probe {core : Core} {ticket : Nat} (hpoint : f.point = .probing core ticket)
      (hsilent : s.lookAtProbe core ticket f.shutdown = .blocked)

theorem isHeldUp_of_blocked {board : Board} (hboard : s.boards[f.board]? = some board)
    (hblocked : s.enter f.board (.dedicated me) = .blocked) : f.IsHeldUp me s := by
  obtain ⟨henter, hjoin⟩ := Scene.guard_of_blocked hboard hblocked
  obtain ⟨other, hholder, hother⟩ := Guard.holder_of_enter?_eq_none henter
  exact .guard hboard hholder hother (Guard.mem_queue_of_join?_eq_none hjoin)

/-- A loop that has no request to serve and cannot go on rests, or is held up. -/
theorem stands {board : Board} (hboard : s.boards[f.board]? = some board)
    (hlive : s.isCancelled f.shutdown = false) (hseeks : f.point.toRest?.isSome = true)
    (htimed : f.IsTimed s.now) (hblocked : f.step me s = none) : f.IsResting s ∨ f.IsHeldUp me s := by
  cases hpoint : f.point with
  | starting => exact absurd hblocked (by simp [step, hpoint])
  | demanding =>
    simp only [step, hpoint] at hblocked
    split at hblocked
    · rename_i henter
      exact .inr (isHeldUp_of_blocked hboard henter)
    · exact absurd hblocked (by simp)
    · split at hblocked <;> exact absurd hblocked (by simp)
  | probing core ticket =>
    simp only [step, hpoint] at hblocked
    split at hblocked
    · rename_i hsilent
      exact .inr (.probe hpoint hsilent)
    · exact absurd hblocked (by simp)
    · exact absurd hblocked (by simp)
  | disposing => exact absurd hblocked (by simp [step, hpoint])
  | choosing core =>
    simp only [step, hpoint] at hblocked
    split at hblocked
    · rename_i henter
      exact .inr (isHeldUp_of_blocked hboard henter)
    · exact absurd hblocked (by simp)
    · exact absurd hblocked (by simp)
  | idle lookAgainAt =>
    rw [step_of_idle hpoint hlive] at hblocked
    split at hblocked
    · exact absurd hblocked (by simp)
    · rename_i hcalm
      simp only [isStirred, isDue, hpoint, Bool.or_eq_true, not_or, Bool.not_eq_true] at hcalm
      obtain ⟨since, -, hlook⟩ := htimed lookAgainAt hpoint
      refine .inl ⟨⟨lookAgainAt, hpoint, ?_, fun t ht => ?_⟩, hcalm.1, hlive⟩
      · rw [hlook, Option.isSome_map]
      · have hlate := hcalm.2
        rw [ht] at hlate
        simpa using hlate
  | _ => exact absurd hseeks (by simp [hpoint, DedicatedPoint.toRest?])

/-- A loop that has joined a queue cannot go on before others do something. -/
theorem Seeks.step_of_queued {r : Dedicated × Scene} (hseeks : Seeks me f s r)
    (hsame : r.1.point = f.point) : r.1.step me r.2 = none := by
  cases hseeks with
  | queues hpoint hjoined =>
    have hblocked := Scene.enter_of_joined hjoined
    rcases hpoint with hpoint | ⟨core, hpoint⟩ <;> simp [step, hpoint, hblocked]
  | awaits hpoint hmoved =>
    have hsilent := Scene.lookAtProbe_of_moved hmoved
    simp [step, hpoint, hsilent]
  | begins hpoint _ | wakes hpoint _ _ | asks hpoint _ _ _ | trusts hpoint _ | discards hpoint _
  | disposed hpoint | rests hpoint _ | keeps hpoint _ =>
    exact absurd (hsame.trans hpoint) (by simp [rest, goTo])

/-- A loop that is to look again after no time never rests. -/
theorem not_isResting_of_undelayed (hdelay : f.settings.remoteDelay = some 0) (htimed : f.IsTimed s.now) :
    ¬ f.IsResting s := by
  rintro ⟨⟨lookAgainAt, hidle, -, hlater⟩, -, -⟩
  obtain ⟨since, hsince, rfl⟩ := htimed lookAgainAt hidle
  rw [hdelay] at hlater
  exact absurd (hlater since rfl) (Nat.not_lt.mpr hsince)

end Dedicated

end CoreBroker
