import CoreBroker.Proofs.Scene.Guards
import CoreBroker.Proofs.Speculative.Custody
set_option autoImplicit false

/-!
# Inversion of a step of a speculative fulfiller

What a step of the loop, or of an attempt, can be is stated here once.  Everything that is proved about the
tasks of a fulfiller follows from these two lists and from what the operations named in them do.
-/

namespace CoreBroker.Speculative

variable {chance : Chance} {f : Speculative} {a : Attempt} {s : Scene} {me : Nat}

/-! ## The loop -/

/-- What one step of the loop of the fulfiller `f`, whose index is `me`, can be. -/
inductive LoopStep (chance : Chance) (me : Nat) (f : Speculative) (s : Scene) : Speculative × Scene → Prop
  /-- It joins the queue for the guard of the obtainments. -/
  | joins {guard : Guard Task} (hholder : guard.holder = f.guard.holder) :
      LoopStep chance me f s ({ f with guard }, s)
  /-- It joins another queue. -/
  | waits {s₁ : Scene} (haside : s.Aside s₁)
      (hkeeps : ∀ {own : Option Nat} {who : Nat → Nat → Prop}, Scene.Keeps own who s s₁) :
      LoopStep chance me f s (f, s₁)
  | begins (hpoint : f.point = .starting) : LoopStep chance me f s
      (f.turn (s.report .debug "multi-source control loop started" []))
  | reconciles {guard : Guard Task} (hpoint : f.point = .reconciling)
      (hholder : guard.holder = some (.speculative me)) :
      LoopStep chance me f s (({ f with guard } : Speculative).reconcile s)
  | counts {discarded : List Core} {board : Board} {s₁ : Scene} (hpoint : f.point = .counting discarded)
      (haside : s.Aside s₁) (hboard : s₁.stage.boards[f.board]? = some (board.registry, board.changes))
      (henter : s.enter f.board (.speculative me) = .entered board s₁) :
      LoopStep chance me f s (f.count chance discarded board s₁)
  | judges {pending : Nat} {ready : List Ready} {held : Ready} {ticket : Nat} {holders : List String}
      {discarded : List Core} {s₁ : Scene}
      (hpoint : f.point = .probing pending ready held ticket holders discarded) (haside : s.Aside s₁)
      (isAlive : Bool) (hlook : s.lookAtProbe held.2 ticket f.shutdown = .answered isAlive s₁) :
      LoopStep chance me f s (f.judge pending ready held holders discarded isAlive s₁)
  | assigns {ready : List Ready} {discarded : List Core} {board : Board} {s₁ : Scene}
      (hpoint : f.point = .matching ready discarded) (haside : s.Aside s₁)
      (hboard : s₁.stage.boards[f.board]? = some (board.registry, board.changes))
      (henter : s.enter f.board (.speculative me) = .entered board s₁) :
      LoopStep chance me f s (f.finishPass chance me ready discarded board s₁)
  /-- A core that the pass had gathered has been disposed of. -/
  | discards {others : List Core} (hpoint : f.point = .discarding others) :
      LoopStep chance me f s (f.disposeInTurn s .discarding .idle others)
  /-- Its shutdown was fired while it waited. -/
  | stops (hpoint : f.point = .idle) (hcancelled : s.isCancelled f.shutdown = true) :
      LoopStep chance me f s (f.goTo .releasing, s)
  | notices {exit : Exit} {exits : List Exit} (hpoint : f.point = .idle)
      (hexits : f.exits = exit :: exits) :
      LoopStep chance me f s (({ f with exits } : Speculative).noticeExit exit (f.drain s))
  | wakes (hpoint : f.point = .idle) : LoopStep chance me f s (f.turn (f.drain s))
  | records {guard : Guard Task} {owner : Owner} (hpoint : f.point = .recording owner) :
      LoopStep chance me f s (({ f with guard } : Speculative).recordPanic owner s)
  | resumes {wakeAt : Nat} (hpoint : f.point = .pausing wakeAt) : LoopStep chance me f s (f.turn s)
  | releases {guard : Guard Task} (hpoint : f.point = .releasing) :
      LoopStep chance me f s (({ f with guard } : Speculative).releaseAll s)
  /-- A core that was given up has been disposed of. -/
  | dissolves {others : List Core} (hpoint : f.point = .dissolving others) :
      LoopStep chance me f s (f.disposeInTurn s .dissolving .joining others)
  | noticesLate {exit : Exit} {exits : List Exit} (hpoint : f.point = .joining)
      (hexits : f.exits = exit :: exits) :
      LoopStep chance me f s (({ f with exits } : Speculative).noticeLateExit exit s)
  | finishes (hpoint : f.point = .joining) (hattempts : f.attempts = []) :
      LoopStep chance me f s (f.finish s)

/-- A step that needs the guard of the obtainments: it joins the queue or goes on under the guard. -/
theorem loopStep_of_guarded {r : Speculative × Scene} {act : Speculative → Speculative × Scene}
    (hstep : (match f.enter (.speculative me) with
      | .blocked => none
      | .joined f => some (f, s)
      | .entered f => some (act f)) = some r)
    (hentered : ∀ guard : Guard Task, guard.holder = some (.speculative me) →
      LoopStep chance me f s (act { f with guard })) : LoopStep chance me f s r := by
  cases henter : f.enter (.speculative me) with
  | blocked => simp [henter] at hstep
  | joined g =>
    obtain ⟨guard, rfl, hholder⟩ := of_enter_joined henter
    simp only [henter, Option.some.injEq] at hstep
    exact hstep ▸ .joins hholder
  | entered g =>
    obtain ⟨guard, rfl, hholder, -⟩ := of_enter_entered henter
    simp only [henter, Option.some.injEq] at hstep
    exact hstep ▸ hentered guard hholder

/-- A step that needs the guard of the registry. -/
theorem loopStep_of_boardGuarded {r : Speculative × Scene} {act : Board → Scene → Speculative × Scene}
    (hstep : (match s.enter f.board (.speculative me) with
      | .blocked => none
      | .joined s => some (f, s)
      | .entered board s => some (act board s)) = some r)
    (hentered : ∀ board s₁, s.Aside s₁ →
      s₁.stage.boards[f.board]? = some (board.registry, board.changes) →
        s.enter f.board (.speculative me) = .entered board s₁ →
          LoopStep chance me f s (act board s₁)) : LoopStep chance me f s r := by
  cases henter : s.enter f.board (.speculative me) with
  | blocked => simp [henter] at hstep
  | joined s₁ =>
    simp only [henter, Option.some.injEq] at hstep
    exact hstep ▸ .waits (Scene.aside_of_joined henter) (Scene.keeps_of_joined henter)
  | entered board s₁ =>
    obtain ⟨haside, hboard, -⟩ := Scene.aside_of_entered henter
    simp only [henter, Option.some.injEq] at hstep
    refine hstep ▸ hentered board s₁ haside ?_ henter
    rw [haside.stage]
    exact Scene.stage_board hboard

/-- Every step of the loop is one of those listed. -/
theorem step_loopStep {r : Speculative × Scene} (hstep : f.step chance me s = some r) :
    LoopStep chance me f s r := by
  unfold step at hstep
  cases hpoint : f.point with
  | starting =>
    simp only [hpoint, Option.some.injEq] at hstep
    exact hstep ▸ .begins hpoint
  | reconciling =>
    simp only [hpoint] at hstep
    exact loopStep_of_guarded hstep fun _ hholder => .reconciles hpoint hholder
  | counting discarded =>
    simp only [hpoint] at hstep
    exact loopStep_of_boardGuarded hstep fun _ _ haside hboard henter =>
      .counts hpoint haside hboard henter
  | probing pending ready held ticket holders discarded =>
    simp only [hpoint] at hstep
    split at hstep
    · exact absurd hstep (by simp)
    · rename_i s₁ hlook
      simp only [Option.some.injEq] at hstep
      exact hstep ▸ .waits (Scene.aside_of_probe_moved hlook)
        (.of_boards (Scene.lookAtProbe_boards.1 s₁ hlook))
    · rename_i isAlive s₁ hlook
      simp only [Option.some.injEq] at hstep
      exact hstep ▸ .judges hpoint (Scene.aside_of_probe_answered hlook) isAlive hlook
  | matching ready discarded =>
    simp only [hpoint] at hstep
    exact loopStep_of_boardGuarded hstep fun _ _ haside hboard henter =>
      .assigns hpoint haside hboard henter
  | discarding others =>
    simp only [hpoint, Option.some.injEq] at hstep
    exact hstep ▸ .discards hpoint
  | idle =>
    simp only [hpoint] at hstep
    split at hstep
    · rename_i hcancelled
      simp only [Option.some.injEq] at hstep
      exact hstep ▸ .stops hpoint hcancelled
    · split at hstep
      · rename_i exit exits hexits
        rw [← hpoint, Option.some.injEq] at hstep
        exact hstep ▸ .notices hpoint hexits
      · split at hstep
        · simp only [Option.some.injEq] at hstep
          exact hstep ▸ .wakes hpoint
        · exact absurd hstep (by simp)
  | recording owner =>
    simp only [hpoint] at hstep
    exact loopStep_of_guarded hstep fun _ _ => .records hpoint
  | pausing wakeAt =>
    simp only [hpoint] at hstep
    split at hstep
    · simp only [Option.some.injEq] at hstep
      exact hstep ▸ .resumes hpoint
    · exact absurd hstep (by simp)
  | releasing =>
    simp only [hpoint] at hstep
    exact loopStep_of_guarded hstep fun _ _ => .releases hpoint
  | dissolving others =>
    simp only [hpoint, Option.some.injEq] at hstep
    exact hstep ▸ .dissolves hpoint
  | joining =>
    simp only [hpoint] at hstep
    split at hstep
    · rename_i exit exits hexits
      rw [← hpoint, Option.some.injEq] at hstep
      exact hstep ▸ .noticesLate hpoint hexits
    · split at hstep
      · rename_i hattempts
        simp only [Option.some.injEq] at hstep
        exact hstep ▸ .finishes hpoint (List.isEmpty_iff.mp hattempts)
      · exact absurd hstep (by simp)
  | ended => simp [hpoint] at hstep

/-! ## Attempts -/

/-- What one step of the attempt `a` of the fulfiller `f`, whose index is `me`, can be. -/
inductive AttemptStep (me : Nat) (f : Speculative) (a : Attempt) (s : Scene) : Speculative × Scene → Prop
  /-- It was cancelled while it waited for the provider. -/
  | withdraws {call : Call} (hpoint : a.point = .calling call)
      (hcancelled : s.isCancelled a.token = true) :
      AttemptStep me f a s (f.attemptGoTo a (.settling none), s.dropCall call)
  | calls {call next : Call} {s₁ : Scene} (hpoint : a.point = .calling call) (haside : s.Aside s₁)
      (hlook : s.lookAtCall call = .moved next s₁) :
      AttemptStep me f a s (f.attemptGoTo a (.calling next), s₁)
  | receives {call : Call} {result : CallResult} {s₁ : Scene} (hpoint : a.point = .calling call)
      (htells : (CallLook.ended result s₁).Tells s) (hlook : s.lookAtCall call = .ended result s₁) :
      AttemptStep me f a s (f.attemptReceive a result s₁)
  /-- Its pause is over. -/
  | resumes {wakeAt : Nat} (hpoint : a.point = .backingOff wakeAt) :
      AttemptStep me f a s (f.attemptGoTo a (.settling none), s)
  /-- It joins the queue for the guard of the obtainments. -/
  | joins {core : Option Core} {guard : Guard Task} (hpoint : a.point = .settling core)
      (hholder : guard.holder = f.guard.holder) : AttemptStep me f a s ({ f with guard }, s)
  /-- It reports under the guard, which the loop does not have then. -/
  | settles {core : Option Core} {guard : Guard Task} (hpoint : a.point = .settling core)
      (hfree : f.guard.holder ≠ some (.speculative me)) :
      AttemptStep me f a s (({ f with guard } : Speculative).settle a core s)
  /-- The core that was refused has been disposed of. -/
  | exits (hpoint : a.point = .disposing) : AttemptStep me f a s (f.exitAttempt a false, s)

/-- Every step of an attempt is one of those listed. -/
theorem stepAttempt_attemptStep {r : Speculative × Scene} (hstep : f.stepAttempt me a s = some r) :
    AttemptStep me f a s r := by
  unfold stepAttempt at hstep
  cases hpoint : a.point with
  | calling call =>
    have htells := s.lookAtCall_tells call
    simp only [hpoint] at hstep
    split at hstep
    · rename_i hcancelled
      simp only [Option.some.injEq] at hstep
      exact hstep ▸ .withdraws hpoint hcancelled
    · split at hstep
      · exact absurd hstep (by simp)
      · rename_i call' s₁ hlook
        rw [hlook] at htells
        simp only [Option.some.injEq] at hstep
        exact hstep ▸ .calls hpoint htells hlook
      · rename_i result s₁ hlook
        rw [hlook] at htells
        simp only [Option.some.injEq] at hstep
        exact hstep ▸ .receives hpoint htells hlook
  | backingOff wakeAt =>
    simp only [hpoint] at hstep
    split at hstep
    · simp only [Option.some.injEq] at hstep
      exact hstep ▸ .resumes hpoint
    · exact absurd hstep (by simp)
  | settling core =>
    simp only [hpoint] at hstep
    cases henter : f.enter (.attempt me a.serial) with
    | blocked => simp [henter] at hstep
    | joined g =>
      obtain ⟨guard, rfl, hholder⟩ := of_enter_joined henter
      simp only [henter, Option.some.injEq] at hstep
      exact hstep ▸ .joins hpoint hholder
    | entered g =>
      obtain ⟨guard, rfl, -, hholder⟩ := of_enter_entered henter
      simp only [henter, Option.some.injEq] at hstep
      refine hstep ▸ .settles hpoint ?_
      rcases hholder with hnone | hself
      · rw [hnone]
        exact fun h => Option.some_ne_none _ h.symm
      · rw [hself]
        exact fun h => absurd (Option.some.inj h) (by simp)
  | disposing =>
    simp only [hpoint, Option.some.injEq] at hstep
    exact hstep ▸ .exits hpoint

theorem not_isOver_of_step {r : Speculative × Scene} (hstep : f.step chance me s = some r) :
    f.isOver = false := by
  cases hpoint : f.point with
  | ended => simp [step, hpoint] at hstep
  | _ => simp [isOver, hpoint]

end CoreBroker.Speculative
