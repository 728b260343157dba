import CoreBroker.Proofs.Registry.Selection
import CoreBroker.Proofs.Runs.Assigning
import CoreBroker.Proofs.Runs.Verdicts
set_option autoImplicit false

/-!
# Demand and reservations

A fulfiller asks whether there is a next request before it asks a provider for a core, and reserves the
next request when it has one.  The two questions go through the requests in different ways and agree
nevertheless.  A reservation shows in the mark of its request and nowhere else, and takes one request out
of the demand; so calls that keep what they get find as many requests as were to be had, and then none.
-/

namespace CoreBroker

/-! ## The guard of a registry -/

namespace Scene

variable {s s' : Scene} {b : Nat} {t : Task} {board : Board}

/-- Whoever gets the guard takes the place of its last holder. -/
theorem board_of_entered (hentered : s.enter b t = .entered board s') :
    ∃ guard : Guard Holder, guard.leave = board.guard.leave ∧
      s'.boards[b]? = some { board with guard } := by
  unfold enter at hentered
  cases hboard : s.boards[b]? with
  | none => simp [hboard] at hentered
  | some found =>
    cases henter : found.guard.enter? (.task t) with
    | none =>
      cases hjoin : found.guard.join? (.task t) <;> simp [hboard, henter, hjoin] at hentered
    | some guard =>
      simp only [hboard, henter, Entry.entered.injEq] at hentered
      obtain ⟨rfl, rfl⟩ := hentered
      refine ⟨guard, ?_, by simp [modifyBoard, hboard]⟩
      unfold Guard.enter? at henter
      split at henter
      · obtain rfl := Option.some.inj henter
        rfl
      · split at henter
        · obtain rfl := Option.some.inj henter
          rfl
        · exact absurd henter (by simp)

theorem board_leave (hboard : s.boards[b]? = some board) :
    (s.leave b).boards[b]? = some { board with guard := board.guard.leave } := by
  simp [leave, modifyBoard, hboard]

theorem board_changeRegistry (hboard : s.boards[b]? = some board) (change : RegistryChange Core)
    (f : Registry Core → Registry Core) : (s.changeRegistry b change f).boards[b]? =
      some { board with registry := f board.registry } := by
  have hlt : b < s.boards.length := (List.getElem?_eq_some_iff.mp hboard).1
  simp only [changeRegistry, hlt, if_true, boards_note, modifyBoard, List.getElem?_modify_eq, hboard]
  rfl

theorem boards_eq_boardAt (hknown : b < s.stage.boards.length) : s.boards[b]? = some (s.boardAt b) := by
  have hlt : b < s.boards.length := by simpa [stage] using hknown
  rw [boardAt_eq (List.getElem?_eq_getElem hlt), List.getElem?_eq_getElem hlt]

theorem registry_eq (s : Scene) (b : Nat) : (s.boardAt b).registry = (s.stage.board b).1 := by
  rw [board_stage]

theorem stage_unreserveRequest {x : Registry Core × Channel Statistics}
    (hstage : s.stage.boards[b]? = some x) {g : Registry Core} {changes : Channel Statistics}
    (hafter : s'.stage = s.stage.setBoard b (g, changes)) (id : Nat) :
    (s'.unreserveRequest b id).stage = s.stage.setBoard b (g.unreserve id, changes) := by
  obtain ⟨board, hboard, rfl, rfl⟩ := board_of_stage (hafter ▸ boards_setBoard hstage (g, changes))
  rw [unreserveRequest, (changeRegistry_stage hboard _ _).1, hafter, setBoard_setBoard]

/-- A request was reserved under the guard of its registry, and the guard was given back. -/
structure PassesReserving (s : Scene) (b id : Nat) (board : Board) (s' : Scene) : Prop where
  stage : s'.stage = s.stage.setBoard b (board.registry.reserve id, board.changes)
  now : s'.now = s.now
  serial : s.nextSerial ≤ s'.nextSerial
  board : s'.boards[b]? =
    some { board with registry := board.registry.reserve id, guard := board.guard.leave }

theorem passes_reserving (hentered : s.enter b t = .entered board s') (id : Nat) :
    s.PassesReserving b id board (((s'.reserveRequest b id).leave b).reportReserved b id) := by
  obtain ⟨haside, -, hclock, -⟩ := aside_of_entered hentered
  obtain ⟨guard, hguard, hboard⟩ := board_of_entered hentered
  obtain ⟨hreserved, -, hprecedes⟩ := changeRegistry_stage hboard (.reserved id) (·.reserve id)
  have hquiet := (aside_leave (s'.reserveRequest b id) b).trans (aside_reportReserved _ b id)
  have hsaid := ((s'.reserveRequest b id).leave b).logsOnly_reportReserved b id
  refine ⟨?_, ?_, ?_, ?_⟩
  · rw [hquiet.stage, ← haside.stage]
    exact hreserved
  · have hnow : (s'.reserveRequest b id).now = s'.now := by
      unfold reserveRequest changeRegistry
      split <;> rfl
    exact (hsaid.same (·.now) fun _ _ _ => rfl).trans (hnow.trans (congrArg Clock.steady hclock))
  · exact haside.serial.trans (hprecedes.serial.trans hquiet.serial)
  · rw [boards_reportReserved, ← hguard]
    exact board_leave (board_changeRegistry hboard _ _)

end Scene

theorem Stage.setBoard_self {st : Stage} {b : Nat} {x : Registry Core × Channel Statistics}
    (hboard : st.boards[b]? = some x) : st.setBoard b x = st := by
  obtain ⟨hlt, rfl⟩ := List.getElem?_eq_some_iff.mp hboard
  simp only [setBoard, List.set_getElem_self]

namespace World

variable {chance : Chance} {w w₁ w₂ : World} {b n : Nat} {query : Query} {service : Option Nat}
  {includeLocal : Bool} {remoteDelay : Option Nat}

/-! ## Calls that are over -/

/-- Services were told to stop, and that is all. -/
def OnlyStops (w w₁ : World) : Prop :=
  w₁ = { w with scene := { w.scene with fired := w₁.scene.fired, log := w₁.scene.log }
                leaving := w₁.leaving }

namespace OnlyStops

theorem refl (w : World) : w.OnlyStops w := rfl

theorem trans (h₁ : w.OnlyStops w₁) (h₂ : w₁.OnlyStops w₂) : w.OnlyStops w₂ := by
  unfold OnlyStops at h₁ h₂ ⊢
  rw [h₂, h₁]

/-- Whatever part of the world is not about what was fired, logged or given up is as it was. -/
theorem same {α : Type} (h : w.OnlyStops w₁) (part : World → α)
    (hpart : ∀ (w : World) (fired : List Nat) (log : List (Log.Line Nat)) (leaving : List Stake),
      part { w with scene := { w.scene with fired, log }, leaving } = part w) :
    part w₁ = part w := by
  rw [h, hpart]

end OnlyStops

theorem onlyStops_report (w : World) (t : Token) (level : Log.Level) (message : Phrase Nat)
    (fields : List (String × Phrase Nat)) :
    w.OnlyStops (w.withScene ((w.scene.fire t).report level message fields)) := by
  unfold OnlyStops withScene Scene.report
  split <;> rfl

theorem onlyStops_dropDedicated (w : World) (i : Nat) : w.OnlyStops (w.dropDedicated i) := by
  unfold dropDedicated
  split
  · exact w.onlyStops_report _ _ _ _
  · exact .refl w

theorem onlyStops_dropSpeculative (w : World) (i : Nat) : w.OnlyStops (w.dropSpeculative i) := by
  unfold dropSpeculative
  split
  · exact w.onlyStops_report _ _ _ _
  · exact .refl w

/-- A service that is given up is told to stop. -/
theorem onlyStops_relinquish (w : World) (index : Nat) : w.OnlyStops (w.relinquish (.service index)) := by
  unfold relinquish
  dsimp only
  cases w.services[index]? with
  | none => exact .refl w
  | some found =>
    obtain ⟨_, _, dedicated, speculative, _⟩ := found
    have hremote : ∀ w : World, w.OnlyStops (speculative.toList.foldl dropSpeculative w) := by
      intro w
      cases speculative with
      | none => exact .refl w
      | some i => exact w.onlyStops_dropSpeculative i
    cases dedicated with
    | none => exact hremote w
    | some i => exact (w.onlyStops_dropDedicated i).trans (hremote _)

/-- Once a question is over, the service it was put through may be given up. -/
theorem onlyStops_settleStake (w : World) (b : Nat) (query : Query) (service : Option Nat) :
    w.OnlyStops (w.settleStake (.ask b query service)) := by
  cases service with
  | none => exact .refl w
  | some index =>
    unfold settleStake
    simp only [Errand.stake?, Option.map_some]
    split
    · have hforgotten : w.OnlyStops
          { w with leaving := w.leaving.filter (· != Stake.service index) } := rfl
      exact hforgotten.trans (onlyStops_relinquish _ index)
    · exact .refl w

/-- A question with the guard of its registry is answered at once. -/
theorem exists_answered (chance : Chance) (hw : w.IsOrderly)
    (hmem : (n, Errand.ask b query service) ∈ w.errands) {board : Board} {s : Scene}
    (hentered : w.scene.enter b (.errand n) = .entered board s) {reply : Reply} {w₁ : World}
    (hanswer : (w.withScene s).answer b board query = .finish reply w₁) :
    OnlyStops { w₁ with errands := w₁.errands.filter (·.1 != n), replies := w₁.replies ++ [(n, reply)] }
      (w.perform chance (.step (.errand n))) := by
  have hstep : w.stepErrand n (.ask b query service) = some (.finish reply w₁) := by
    simp only [stepErrand, underGuard, hentered, hanswer]
  rw [perform_errand chance hw hmem hstep]
  exact onlyStops_settleStake _ _ _ _

/-! ## What a call comes to -/

/-- A call has been answered, and the registries, the clock and the reservations are as they were.  The guard
of the registry has been handed on. -/
structure HasTold (w : World) (n b : Nat) (reply : Reply) (w' : World) : Prop where
  reply : (n, reply) ∈ w'.replies
  guard : (w'.scene.boardAt b).guard = (w.scene.boardAt b).guard.leave
  stage : w'.scene.stage = w.scene.stage
  now : w'.scene.now = w.scene.now
  locks : w'.locks = w.locks

/-- A call has reserved a request, which now has its mark; nothing else about any registry has changed, and
nothing was announced.  Once the reservation is given up, everything is as it was. -/
structure HasReserved (w : World) (chance : Chance) (n b : Nat) (r : Request Core) (lock : Lock)
    (w' : World) : Prop where
  board : lock.board = b
  request : lock.request = r.id
  reply : (n, .reserved lock) ∈ w'.replies
  guard : (w'.scene.boardAt b).guard = (w.scene.boardAt b).guard.leave
  stage : w'.scene.stage = w.scene.stage.setBoard b
    ((w.scene.boardAt b).registry.reserve r.id, (w.scene.boardAt b).changes)
  now : w'.scene.now = w.scene.now
  locks : w'.locks = w.locks ++ [lock]
  stageBack : (w'.perform chance (.giveUp (.lock lock.serial))).scene.stage = w.scene.stage
  locksBack : (w'.perform chance (.giveUp (.lock lock.serial))).locks = w.locks

/-- A call for the next request has found a request and reserved it, or has found none. -/
def HasFound (w : World) (chance : Chance) (n b : Nat) : Option (Request Core) → World → Prop
  | none, w' => w.HasTold n b .nothing w'
  | some r, w' => ∃ lock, w.HasReserved chance n b r lock w'

/-- The guard of the registry goes back after a question. -/
theorem HasTold.of_answer (hw : w.IsOrderly) (hmem : (n, Errand.ask b query service) ∈ w.errands)
    {board : Board} {s : Scene} (hentered : w.scene.enter b (.errand n) = .entered board s)
    {reply : Reply}
    (hanswer : (w.withScene s).answer b board query = .finish reply ((w.withScene s).leave b)) :
    w.HasTold n b reply (w.perform chance (.step (.errand n))) := by
  obtain ⟨haside, hboard, hclock, -⟩ := Scene.aside_of_entered hentered
  obtain ⟨guard, hguard, hsboard⟩ := Scene.board_of_entered hentered
  have hstops := exists_answered chance hw hmem hentered hanswer
  refine ⟨?_, ?_, ?_, ?_, ?_⟩
  · rw [hstops.same (·.replies) fun _ _ _ _ => rfl]
    exact List.mem_append_right _ (List.mem_singleton_self _)
  · rw [hstops.same (·.scene.boardAt b) fun _ _ _ _ => rfl, Scene.boardAt_eq hboard, ← hguard]
    exact congrArg Board.guard (Scene.boardAt_eq (Scene.board_leave hsboard))
  · rw [hstops.same (·.scene.stage) fun _ _ _ _ => rfl]
    exact (s.aside_leave b).stage.trans haside.stage
  · rw [hstops.same (·.scene.now) fun _ _ _ _ => rfl]
    exact congrArg Clock.steady hclock
  · exact hstops.same (·.locks) fun _ _ _ _ => rfl

/-- No call can be about a reservation that the client did not have. -/
theorem isUsed_newest (hengaged : w.IsEngaged) {serial : Nat}
    (hnew : ∀ lock ∈ w.locks, lock.serial ≠ serial) {w' : World} (herrands : w'.errands ⊆ w.errands) :
    w'.isUsed (.lock serial) = false := by
  rw [isUsed, List.any_eq_false]
  rintro ⟨n, e⟩ he hstake
  cases e <;> simp [Errand.stake?] at hstake
  exact hnew _ (hengaged _ _ _ (herrands he)) hstake

/-- A reservation that no call uses is given up at once. -/
theorem giveUp_newest (chance : Chance) {w' : World} {lock : Lock}
    (hunused : w'.isUsed (.lock lock.serial) = false) (hlocks : w'.locks = w.locks ++ [lock])
    (hold : ∀ other ∈ w.locks, other.serial ≠ lock.serial) :
    (w'.perform chance (.giveUp (.lock lock.serial))).scene =
        w'.scene.unreserveRequest lock.board lock.request ∧
      (w'.perform chance (.giveUp (.lock lock.serial))).locks = w.locks := by
  have hnone : w.locks.find? (·.serial == lock.serial) = none :=
    List.find?_eq_none.mpr fun other hother => by simpa using hold other hother
  have hfind : w'.locks.find? (·.serial == lock.serial) = some lock := by
    rw [hlocks, List.find?_append, hnone]
    simp
  have hothers : w.locks.filter (·.serial != lock.serial) = w.locks :=
    List.filter_eq_self.mpr fun other hother => bne_iff_ne.mpr (hold other hother)
  simp only [perform, giveUp, hunused, Bool.false_eq_true, if_false, relinquish, hfind, true_and]
  rw [hlocks, List.filter_append, hothers]
  simp

/-- Whoever has found a request with the guard of its registry reserves it. -/
theorem hasReserved_of_next? (hw : w.IsSound) (hengaged : w.IsEngaged)
    (hmem : (n, Errand.ask b (.next includeLocal remoteDelay) service) ∈ w.errands)
    {board : Board} {s : Scene} (hentered : w.scene.enter b (.errand n) = .entered board s)
    {r : Request Core}
    (hnext : board.registry.next? includeLocal remoteDelay w.scene.now = some r) :
    ∃ lock, w.HasReserved chance n b r lock (w.perform chance (.step (.errand n))) := by
  obtain ⟨-, hboard, hclock, -⟩ := Scene.aside_of_entered hentered
  have hafter := Scene.passes_reserving hentered r.id
  have hstage := Scene.stage_board hboard
  generalize hscene : ((s.reserveRequest b r.id).leave b).reportReserved b r.id = s₁ at hafter
  have hanswer : (w.withScene s).answer b board (.next includeLocal remoteDelay) =
      .finish (.reserved ⟨s₁.nextSerial, b, r.id⟩)
        { w with scene := s₁.fresh.2, locks := w.locks ++ [⟨s₁.nextSerial, b, r.id⟩] } := by
    have hnow : s.now = w.scene.now := congrArg Clock.steady hclock
    simp only [answer, withScene, hnow, hnext, hscene, Scene.fresh]
  have hstops := exists_answered chance hw.orderly hmem hentered hanswer
  generalize w.perform chance (.step (.errand n)) = w' at hstops
  have hlocks : w'.locks = w.locks ++ [⟨s₁.nextSerial, b, r.id⟩] :=
    hstops.same (·.locks) fun _ _ _ _ => rfl
  have hstage' : w'.scene.stage =
      w.scene.stage.setBoard b (board.registry.reserve r.id, board.changes) :=
    (hstops.same (·.scene.stage) fun _ _ _ _ => rfl).trans hafter.stage
  have herrands : w'.errands ⊆ w.errands := by
    rw [hstops.same (·.errands) fun _ _ _ _ => rfl]
    exact List.filter_sublist.subset
  have hnew : ∀ lock ∈ w.locks, lock.serial ≠ s₁.nextSerial := fun lock hlock =>
    Nat.ne_of_lt (Nat.lt_of_lt_of_le (hw.orderly.locksBelow lock hlock) hafter.serial)
  obtain ⟨hback, hlocksBack⟩ := giveUp_newest chance (isUsed_newest hengaged hnew herrands) hlocks hnew
  refine ⟨⟨s₁.nextSerial, b, r.id⟩, rfl, rfl, ?_, ?_, ?_, ?_, hlocks, ?_, hlocksBack⟩
  · rw [hstops.same (·.replies) fun _ _ _ _ => rfl]
    exact List.mem_append_right _ (List.mem_singleton_self _)
  · rw [hstops.same (·.scene.boardAt b) fun _ _ _ _ => rfl, Scene.boardAt_eq hboard]
    exact congrArg Board.guard (Scene.boardAt_eq hafter.board)
  · rw [hstage', Scene.boardAt_eq hboard]
  · exact (hstops.same (·.scene.now) fun _ _ _ _ => rfl).trans hafter.now
  · have hids := (hw.scene.stage.requests hstage).1
    obtain ⟨hr, heligible⟩ := Registry.isEligible_of_next? hnext
    have hfree := (Request.isEligible_iff.mp heligible).2.2.1
    rw [hback, Scene.stage_unreserveRequest hstage hstage', Registry.unreserve_reserve hids hr hfree,
      Stage.setBoard_self hstage]

/-- A call for the next request comes to what the search finds. -/
theorem hasFound_next (chance : Chance) (hw : w.IsSound) (hengaged : w.IsEngaged)
    (hmem : (n, Errand.ask b (.next includeLocal remoteDelay) service) ∈ w.errands)
    {board : Board} {s : Scene} (hentered : w.scene.enter b (.errand n) = .entered board s) :
    w.HasFound chance n b
      ((w.scene.boardAt b).registry.next? includeLocal remoteDelay w.scene.now)
      (w.perform chance (.step (.errand n))) := by
  obtain ⟨-, hboard, hclock, -⟩ := Scene.aside_of_entered hentered
  rw [Scene.boardAt_eq hboard]
  cases hnext : board.registry.next? includeLocal remoteDelay w.scene.now with
  | some r => exact hasReserved_of_next? hw hengaged hmem hentered hnext
  | none =>
    have hnow : s.now = w.scene.now := congrArg Clock.steady hclock
    refine HasTold.of_answer hw.orderly hmem hentered ?_
    simp only [answer, withScene, hnow, hnext]

/-- The question whether there is a next request is answered and changes nothing. -/
theorem hasTold_hasNext (hw : w.IsSound)
    (hmem : (n, Errand.ask b (.hasNext includeLocal remoteDelay) service) ∈ w.errands)
    {board : Board} {s : Scene} (hentered : w.scene.enter b (.errand n) = .entered board s) :
    w.HasTold n b
      (.truth ((w.scene.boardAt b).registry.hasNext includeLocal remoteDelay w.scene.now))
      (w.perform chance (.step (.errand n))) := by
  obtain ⟨-, hboard, hclock, -⟩ := Scene.aside_of_entered hentered
  have hnow : s.now = w.scene.now := congrArg Clock.steady hclock
  refine HasTold.of_answer hw.orderly hmem hentered ?_
  simp only [answer, withScene, hnow, Scene.boardAt_eq hboard]

/-- Calls for the registry `b` get their answers: with the guard of the registry a client is told whether there
is a next request, or gets a reservation of the next one if there is one. -/
structure AnswersCalls (w : World) (chance : Chance) (b : Nat) (includeLocal : Bool)
    (remoteDelay : Option Nat) : Prop where
  question : ∀ n service board s, w.scene.enter b (.errand n) = .entered board s →
    (n, Errand.ask b (.hasNext includeLocal remoteDelay) service) ∈ w.errands →
      w.HasTold n b
        (.truth ((w.scene.boardAt b).registry.hasNext includeLocal remoteDelay w.scene.now))
        (w.perform chance (.step (.errand n)))
  next : ∀ n service board s, w.scene.enter b (.errand n) = .entered board s →
    (n, Errand.ask b (.next includeLocal remoteDelay) service) ∈ w.errands →
      w.HasFound chance n b
        ((w.scene.boardAt b).registry.next? includeLocal remoteDelay w.scene.now)
        (w.perform chance (.step (.errand n)))

/-! ## The question and the search -/

/-- At the time `now` the question whether there is a next request and the search for it agree on the
registry `b`. -/
structure Agrees (w : World) (b : Nat) (includeLocal : Bool) (remoteDelay : Option Nat) (now : Nat) :
    Prop where
  demand : (w.scene.boardAt b).registry.hasNext includeLocal remoteDelay now = true ↔
    ∃ r, (w.scene.boardAt b).registry.next? includeLocal remoteDelay now = some r
  /-- What the question takes for a next request. -/
  counts : (w.scene.boardAt b).registry.hasNext includeLocal remoteDelay now =
    (w.scene.boardAt b).registry.requests.any (·.isEligible includeLocal remoteDelay now)
  /-- What the search finds is that, is live and pending, and is reserved for nobody. -/
  next : ∀ r, (w.scene.boardAt b).registry.next? includeLocal remoteDelay now = some r →
    r ∈ (w.scene.boardAt b).registry.requests ∧ r.isListed = true ∧ r.phase = .pending ∧
      w.reservations b r.id = 0 ∧ r.isEligible includeLocal remoteDelay now = true

end World

/-- A request that may be reserved is pending. -/
theorem Request.IsCoherent.pending_of_isEligible {r : Request Core} (hr : r.IsCoherent)
    {includeLocal : Bool} {remoteDelay : Option Nat} {now : Nat}
    (heligible : r.isEligible includeLocal remoteDelay now = true) : r.phase = .pending := by
  obtain ⟨hlisted, hassigned, -, -⟩ := Request.isEligible_iff.mp heligible
  simp [hr.phase, Request.impliedPhase, hlisted, hassigned]

/-! ## One call after the other -/

namespace World

/-- The requests that a call for the next request may find in the registry `b`, in the order in which calls
find them. -/
def queue (w : World) (b : Nat) (includeLocal : Bool) (remoteDelay : Option Nat) : List (Request Core) :=
  (w.scene.boardAt b).registry.queue includeLocal remoteDelay w.scene.now

/-- So many calls for the next request have reserved the first so many requests of the queue, and nobody has
the guard of the registry. -/
structure HasReservedFirst (w : World) (b : Nat) (includeLocal : Bool) (remoteDelay : Option Nat) (n : Nat)
    (w' : World) : Prop where
  known : b < w'.scene.stage.boards.length
  guard : (w'.scene.boardAt b).guard = {}
  queue : w'.queue b includeLocal remoteDelay = (w.queue b includeLocal remoteDelay).drop n
  locks : ∃ made : List Lock, w'.locks = w.locks ++ made ∧
    made.map (fun lock => (lock.board, lock.request)) =
      ((w.queue b includeLocal remoteDelay).take n).map fun r => (b, r.id)

/-- How many requests of the registry `b` a call for the next request may find. -/
def demand (w : World) (b : Nat) (includeLocal : Bool) (remoteDelay : Option Nat) : Nat :=
  (w.scene.boardAt b).registry.requests.countP (·.isEligible includeLocal remoteDelay w.scene.now)

/-- So many calls for the next request, made one after the other without giving anything up, have each got
another of the requests that they might find, as long as there were any, and the question whether there is a
next request tells whether there still are. -/
structure HasCalled (w : World) (b : Nat) (includeLocal : Bool) (remoteDelay : Option Nat) (n : Nat)
    (w' : World) : Prop where
  made : ∃ made : List Lock, w'.locks = w.locks ++ made ∧ (made.map (·.request)).Nodup ∧
    made.length = min n (w.demand b includeLocal remoteDelay) ∧
    ∀ lock ∈ made, lock.board = b ∧ ∃ r ∈ (w.scene.boardAt b).registry.requests,
      r.id = lock.request ∧ r.isEligible includeLocal remoteDelay w.scene.now = true
  hasNext : (w'.scene.boardAt b).registry.hasNext includeLocal remoteDelay w'.scene.now =
    decide (n < w.demand b includeLocal remoteDelay)

namespace HasReservedFirst

variable {w w₁ w₂ : World} {b n k : Nat} {includeLocal : Bool} {remoteDelay : Option Nat}

theorem refl (hknown : b < w.scene.stage.boards.length) (hfree : (w.scene.boardAt b).guard = {}) :
    w.HasReservedFirst b includeLocal remoteDelay 0 w :=
  ⟨hknown, hfree, rfl, [], (List.append_nil _).symm, rfl⟩

theorem trans (h₁ : w.HasReservedFirst b includeLocal remoteDelay n w₁)
    (h₂ : w₁.HasReservedFirst b includeLocal remoteDelay k w₂) :
    w.HasReservedFirst b includeLocal remoteDelay (n + k) w₂ := by
  obtain ⟨made₁, hlocks₁, hmade₁⟩ := h₁.locks
  obtain ⟨made₂, hlocks₂, hmade₂⟩ := h₂.locks
  refine ⟨h₂.known, h₂.guard, ?_, made₁ ++ made₂, ?_, ?_⟩
  · rw [h₂.queue, h₁.queue, List.drop_drop]
  · rw [hlocks₂, hlocks₁, List.append_assoc]
  · rw [List.map_append, hmade₁, hmade₂, h₁.queue, List.take_add, List.map_append]

/-- A call finds the first request of the queue, if there is one. -/
theorem of_hasFound {chance : Chance} (hknown : b < w.scene.stage.boards.length)
    (hfree : (w.scene.boardAt b).guard = {})
    (hids : ((w.scene.boardAt b).registry.requests.map (·.id)).Nodup)
    (hfound : w.HasFound chance n b
      ((w.scene.boardAt b).registry.next? includeLocal remoteDelay w.scene.now) w₁) :
    w.HasReservedFirst b includeLocal remoteDelay 1 w₁ := by
  rw [← Registry.head?_queue] at hfound
  change w.HasFound chance n b (w.queue b includeLocal remoteDelay).head? w₁ at hfound
  cases hqueue : w.queue b includeLocal remoteDelay with
  | nil =>
    rw [hqueue] at hfound
    have htold : w.HasTold n b .nothing w₁ := hfound
    have hsame : w₁.queue b includeLocal remoteDelay = w.queue b includeLocal remoteDelay := by
      simp only [World.queue, Scene.registry_eq, htold.stage, htold.now]
    refine ⟨htold.stage ▸ hknown, ?_, hsame.trans (hqueue ▸ rfl), [], ?_, hqueue ▸ rfl⟩
    · rw [htold.guard, hfree]
      rfl
    · rw [htold.locks, List.append_nil]
  | cons r rest =>
    rw [hqueue] at hfound
    obtain ⟨lock, hreserved⟩ : ∃ lock, w.HasReserved chance n b r lock w₁ := hfound
    have hrest : w₁.queue b includeLocal remoteDelay = rest := by
      rw [World.queue, Scene.registry_eq, hreserved.stage, Stage.board_setBoard_self hknown,
        hreserved.now]
      exact Registry.queue_reserve hids hqueue
    refine ⟨?_, ?_, hrest.trans (hqueue ▸ rfl), [lock], hreserved.locks, ?_⟩
    · rw [hreserved.stage, Stage.setBoard, List.length_set]
      exact hknown
    · rw [hreserved.guard, hfree]
      rfl
    · rw [hqueue, List.map_singleton, hreserved.board, hreserved.request]
      rfl

/-- What is taken out of the queue was in it once, and what is left of it tells whether there is more. -/
theorem hasCalled (hids : ((w.scene.boardAt b).registry.requests.map (·.id)).Nodup)
    (h : w.HasReservedFirst b includeLocal remoteDelay n w₁) :
    w.HasCalled b includeLocal remoteDelay n w₁ := by
  have hlength : (w.queue b includeLocal remoteDelay).length = w.demand b includeLocal remoteDelay :=
    Registry.length_queue _ _ _ _
  obtain ⟨made, hlocks, hmade⟩ := h.locks
  have hrequests : made.map (·.request) =
      ((w.queue b includeLocal remoteDelay).map (·.id)).take n := by
    have hsnd := congrArg (List.map Prod.snd) hmade
    rwa [List.map_map, List.map_map, List.map_take] at hsnd
  refine ⟨⟨made, hlocks, ?_, ?_, fun lock hlock => ?_⟩, ?_⟩
  · rw [hrequests]
    exact (Registry.nodup_queue hids).sublist (List.take_sublist _ _)
  · have hsame := congrArg List.length hmade
    rwa [List.length_map, List.length_map, List.length_take, hlength] at hsame
  · have hpair := List.mem_map_of_mem (f := fun lock : Lock => (lock.board, lock.request)) hlock
    rw [hmade] at hpair
    obtain ⟨r, hr, hsame⟩ := List.mem_map.mp hpair
    obtain ⟨hboard, hrequest⟩ := Prod.mk.inj hsame
    obtain ⟨hmem, heligible⟩ := Registry.mem_queue.mp (List.mem_of_mem_take hr)
    exact ⟨hboard.symm, r, hmem, hrequest, heligible⟩
  · rw [Registry.hasNext_eq_isSome, ← Registry.head?_queue]
    change (w₁.queue b includeLocal remoteDelay).head?.isSome = _
    rw [h.queue, List.head?_drop, ← hlength, Bool.eq_iff_iff]
    simp

end HasReservedFirst

end World

section Run

variable (chance : Chance) (moves : List Move) (b : Nat) (includeLocal : Bool)
  (remoteDelay : Option Nat)

theorem run_agrees (now : Nat) : (run chance moves).world.Agrees b includeLocal remoteDelay now where
  demand := by rw [Registry.hasNext_eq_isSome, Option.isSome_iff_exists]
  counts := Registry.hasNext_eq_any_isEligible
  next r hnext := by
    obtain ⟨hr, heligible⟩ := Registry.isEligible_of_next? hnext
    obtain ⟨hlisted, -, hfree, -⟩ := Request.isEligible_iff.mp heligible
    have hcourse := (run_isSound chance moves).scene.courseAt b
    have hcoherent := (hcourse.registryHistory.requests r hr).coherent
    refine ⟨hr, hlisted, hcoherent.pending_of_isEligible heligible, ?_, heligible⟩
    rw [reservations_eq_toNat chance moves b hr, hfree]
    rfl

/-- The moves of a client that calls for the next request of the registry `b` so many times, one call after
the other, and keeps what it gets. -/
def calling : Nat → List Move
  | 0 => moves
  | n + 1 => calling n ++ [.begin (.ask b (.next includeLocal remoteDelay) none),
      .step (.errand (run chance (calling n)).world.scene.nextSerial)]

variable {chance moves b includeLocal remoteDelay}

/-- One more call takes one request out of the queue. -/
theorem run_hasReservedFirst_one (hknown : b < (run chance moves).world.scene.stage.boards.length)
    (hfree : ((run chance moves).world.scene.boardAt b).guard = {}) :
    (run chance moves).world.HasReservedFirst b includeLocal remoteDelay 1
      (run chance (moves ++ [.begin (.ask b (.next includeLocal remoteDelay) none),
        .step (.errand (run chance moves).world.scene.nextSerial)])).world := by
  obtain ⟨e, he⟩ : ∃ e, e = Errand.ask b (.next includeLocal remoteDelay) none := ⟨_, rfl⟩
  rw [← he, ← List.singleton_append, ← List.append_assoc, run_concat]
  have hbegun : (run chance (moves ++ [.begin e])).world = ((run chance moves).world.send e).2 := by
    rw [run_concat, he]
    rfl
  have hsound := run_isSound chance (moves ++ [.begin e])
  have hengaged := run_isEngaged chance (moves ++ [.begin e])
  rw [hbegun] at hsound hengaged ⊢
  generalize (run chance moves).world = w at hknown hfree hsound hengaged ⊢
  have hstart : w.HasReservedFirst b includeLocal remoteDelay 0 (w.send e).2 :=
    ⟨hknown, hfree, rfl, [], (List.append_nil _).symm, rfl⟩
  have hmem : (w.scene.nextSerial, .ask b (.next includeLocal remoteDelay) none) ∈
      (w.send e).2.errands := List.mem_append_right _ (List.mem_singleton.mpr (by rw [he]))
  obtain ⟨s, hentered⟩ := Scene.exists_entered_of_free (t := .errand w.scene.nextSerial)
    (Scene.boards_eq_boardAt hstart.known) (congrArg Guard.holder hstart.guard)
  have hids := (hsound.scene.courseAt b).registryHistory.ids
  have hfound := World.hasFound_next chance hsound hengaged hmem hentered
  exact hstart.trans (.of_hasFound hstart.known hstart.guard hids hfound)

/-- So many calls take so many requests out of the queue. -/
theorem run_hasReservedFirst (hknown : b < (run chance moves).world.scene.stage.boards.length)
    (hfree : ((run chance moves).world.scene.boardAt b).guard = {}) (n : Nat) :
    (run chance moves).world.HasReservedFirst b includeLocal remoteDelay n
      (run chance (calling chance moves b includeLocal remoteDelay n)).world := by
  induction n with
  | zero => exact .refl hknown hfree
  | succ n ih => exact ih.trans (run_hasReservedFirst_one ih.known ih.guard)

/-- In every run, at every time, the question whether there is a next request is answered with yes just if
the search finds one: a live, pending and unreserved request that the question counts.  A call for the next
request reserves what the search finds, which shows in the mark of that request alone, is not announced and
can be undone.  So many calls find so many requests, each once, until none is left that counts. -/
theorem demand_and_reservation_agree (chance : Chance) (moves : List Move) (b : Nat)
    (includeLocal : Bool) (remoteDelay : Option Nat) :
    (∀ now, (run chance moves).world.Agrees b includeLocal remoteDelay now) ∧
    (run chance moves).world.AnswersCalls chance b includeLocal remoteDelay ∧
    (b < (run chance moves).world.scene.stage.boards.length →
      ((run chance moves).world.scene.boardAt b).guard = {} → ∀ n,
        (run chance moves).world.HasCalled b includeLocal remoteDelay n
          (run chance (calling chance moves b includeLocal remoteDelay n)).world) := by
  have hsound := run_isSound chance moves
  refine ⟨run_agrees chance moves b includeLocal remoteDelay, ⟨?_, ?_⟩, fun hknown hfree n => ?_⟩
  · exact fun n service board s hentered hmem => World.hasTold_hasNext hsound hmem hentered
  · exact fun n service board s hentered hmem =>
      World.hasFound_next chance hsound (run_isEngaged chance moves) hmem hentered
  · exact (run_hasReservedFirst hknown hfree n).hasCalled (hsound.scene.courseAt b).registryHistory.ids

end Run

/-- A request that prefers a remote core and one that requires a local core are entered; the client puts the
question whether there is a next request and calls for it, both as a local fulfiller without a delay. -/
def demandRun : List Move :=
  [.found, .begin (.create 0 .preferRemote 1 [] none false), .step (.errand 0), .step (.errand 0),
    .begin (.create 0 .requireLocal 1 [] none false), .step (.errand 2), .step (.errand 2),
    .begin (.ask 0 (.hasNext true (some 0)) none), .begin (.ask 0 (.next true (some 0)) none)]

/-- The client is told that there is a next request and gets a reservation of the one that requires a local
core; if it went on calling, it would get two. -/
theorem demand_and_reservation_agree_twice :
    (run .plain demandRun).world.HasTold 4 0 (.truth true)
      ((run .plain demandRun).world.perform .plain (.step (.errand 4))) ∧
    (∃ r, r.id = 3 ∧ (run .plain demandRun).world.HasFound .plain 5 0 (some r)
      ((run .plain demandRun).world.perform .plain (.step (.errand 5)))) ∧
    (run .plain demandRun).world.HasCalled 0 true (some 0) 2
      (run .plain (calling .plain demandRun 0 true (some 0) 2)).world := by
  obtain ⟨-, hcalls, hcalled⟩ := demand_and_reservation_agree .plain demandRun 0 true (some 0)
  have hknown : 0 < (run .plain demandRun).world.scene.stage.boards.length := by decide +kernel
  have hfree : ((run .plain demandRun).world.scene.boardAt 0).guard = {} := by decide +kernel
  have hquestion : (4, Errand.ask 0 (.hasNext true (some 0)) none) ∈
      (run .plain demandRun).world.errands := List.mem_of_getElem? (i := 0) rfl
  have hcall : (5, Errand.ask 0 (.next true (some 0)) none) ∈
      (run .plain demandRun).world.errands := List.mem_of_getElem? (i := 1) rfl
  have hyes : ((run .plain demandRun).world.scene.boardAt 0).registry.hasNext true (some 0)
      (run .plain demandRun).world.scene.now = true := by decide +kernel
  have hthird : (((run .plain demandRun).world.scene.boardAt 0).registry.next? true (some 0)
      (run .plain demandRun).world.scene.now).map (·.id) = some 3 := by decide +kernel
  obtain ⟨r, hnext, hid⟩ := Option.map_eq_some_iff.mp hthird
  have htold := hcalls.question 4 none _ _ rfl hquestion
  have hfound := hcalls.next 5 none _ _ rfl hcall
  rw [hyes] at htold
  rw [hnext] at hfound
  exact ⟨htold, ⟨r, hid, hfound⟩, hcalled hknown hfree 2⟩

end CoreBroker
