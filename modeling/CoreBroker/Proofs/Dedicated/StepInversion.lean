import CoreBroker.Dedicated
import CoreBroker.Proofs.Scene.Guards
set_option autoImplicit false

/-!
# Inversion of a step of a dedicated fulfiller

What a step of the loop can be is stated here once.  Everything that is proved about the loop follows from
this list and from what the operations named in it do.
-/

namespace CoreBroker.Dedicated

variable {f : Dedicated} {s : Scene} {me : Nat}

/-- What one step of the loop of the fulfiller `f` can be. -/
inductive LoopStep (f : Dedicated) (s : Scene) : Dedicated × Scene → Prop
  /-- It joins a queue. -/
  | waits {s₁ : Scene} (haside : s.Aside s₁)
      (hkeeps : ∀ {own : Option Nat} {who : Nat → Nat → Prop}, Scene.Keeps own who s s₁) :
      LoopStep f s (f, s₁)
  | begins (hpoint : f.point = .starting) : LoopStep f s
      (f.turn (s.report .debug "single-source control loop started" [f.providerField]))
  | calls {board : Board} {s₁ : Scene} (hpoint : f.point = .demanding) (haside : s.Aside s₁)
      (hboard : s₁.stage.boards[f.board]? = some (board.registry, board.changes))
      (hdemand : f.hasDemand board s₁ = true)
      {t : Task} (henter : s.enter f.board t = .entered board s₁) :
      LoopStep f s (f.call (s₁.leave f.board))
  | rests {board : Board} {s₁ : Scene} (hpoint : f.point = .demanding) (haside : s.Aside s₁)
      (hboard : s₁.stage.boards[f.board]? = some (board.registry, board.changes))
      (hdemand : f.hasDemand board s₁ = false)
      {t : Task} (henter : s.enter f.board t = .entered board s₁) :
      LoopStep f s (f.rest (s₁.leave f.board))
  /-- Its shutdown was fired while it waited for the provider. -/
  | withdraws {call : Call} (hpoint : f.point = .calling call)
      (hcancelled : s.isCancelled f.shutdown = true) : LoopStep f s (f.rest (s.dropCall call))
  | receives {call : Call} {result : CallResult} {s₁ : Scene} (hpoint : f.point = .calling call)
      (htells : (CallLook.ended result s₁).Tells s) (hlook : s.lookAtCall call = .ended result s₁) :
      LoopStep f s (f.receive result s₁)
  | goesOn {call next : Call} {s₁ : Scene} (hpoint : f.point = .calling call) (haside : s.Aside s₁)
      (hlook : s.lookAtCall call = .moved next s₁) : LoopStep f s (f.goTo (.calling next), s₁)
  | looks {call : Call} (hpoint : f.point = .calling call) :
      LoopStep f s (f.goTo (.rechecking call), s.drainBoard f.board f.receiver)
  | keeps {call : Call} {board : Board} {s₁ : Scene} (hpoint : f.point = .rechecking call)
      (haside : s.Aside s₁)
      (hboard : s₁.stage.boards[f.board]? = some (board.registry, board.changes))
      (hdemand : f.hasDemand board s₁ = true)
      {t : Task} (henter : s.enter f.board t = .entered board s₁) :
      LoopStep f s (f.goTo (.calling call), s₁.leave f.board)
  /-- No request is left for the call. -/
  | abandons {call : Call} {board : Board} {s₁ : Scene} (hpoint : f.point = .rechecking call)
      (haside : s.Aside s₁)
      (hboard : s₁.stage.boards[f.board]? = some (board.registry, board.changes))
      (hdemand : f.hasDemand board s₁ = false)
      {t : Task} (henter : s.enter f.board t = .entered board s₁) :
      LoopStep f s
        (f.rest ((((s₁.leave f.board).fire call.token).report .debug
          "no request left, provider call abandoned" [f.providerField]).dropCall call))
  | resumes {wakeAt : Nat} (hpoint : f.point = .pausing wakeAt) : LoopStep f s (f.pass s)
  | judges {core : Core} {ticket : Nat} {s₁ : Scene} (hpoint : f.point = .probing core ticket)
      (haside : s.Aside s₁) (isAlive : Bool)
      (hlook : s.lookAtProbe core ticket f.shutdown = .answered isAlive s₁) :
      LoopStep f s (f.judge core isAlive s₁)
  | chooses {core : Core} {board : Board} {s₁ : Scene} (hpoint : f.point = .choosing core)
      (haside : s.Aside s₁)
      (hboard : s₁.stage.boards[f.board]? = some (board.registry, board.changes))
      (hclock : s₁.clock = s.clock)
      {t : Task} (henter : s.enter f.board t = .entered board s₁) :
      LoopStep f s (f.choose core board s₁)
  | places {core : Core} {request : Nat} {board : Board} {s₁ : Scene}
      (hpoint : f.point = .placing core request) (haside : s.Aside s₁)
      (hboard : s₁.stage.boards[f.board]? = some (board.registry, board.changes))
      {t : Task} (henter : s.enter f.board t = .entered board s₁) : LoopStep f s (f.place core request s₁)
  /-- A core that did not work has been disposed of. -/
  | disposed (hpoint : f.point = .disposing) : LoopStep f s (f.pass s)
  | closes {lookAgainAt : Option Nat} (hpoint : f.point = .idle lookAgainAt)
      (hcancelled : s.isCancelled f.shutdown = true) : LoopStep f s (f.close s)
  /-- The spare core has been disposed of. -/
  | finishes (hpoint : f.point = .closing) : LoopStep f s (f.finish s)
  | wakes {lookAgainAt : Option Nat} (hpoint : f.point = .idle lookAgainAt) :
      LoopStep f s (f.turn (s.drainBoard f.board f.receiver))

theorem close_point (f : Dedicated) (s : Scene) :
    (f.close s).1.point = .closing ∨ (f.close s).1.point = .ended := by
  unfold close
  split
  · exact .inl rfl
  · exact .inr rfl

/-- A step that needs the guard of the registry: it joins the queue or goes on under the guard. -/
theorem loopStep_of_guarded {t : Task} {r : Dedicated × Scene}
    {act : Board → Scene → Option (Dedicated × Scene)}
    (hstep : (match s.enter f.board t with
      | .blocked => none
      | .joined s => some (f, s)
      | .entered board s => act board s) = some r)
    (hentered : ∀ board s₁, s.Aside s₁ →
      s₁.stage.boards[f.board]? = some (board.registry, board.changes) → s₁.clock = s.clock →
        s.enter f.board t = .entered board s₁ → act board s₁ = some r → LoopStep f s r) :
    LoopStep f s r := by
  cases henter : s.enter f.board t with
  | blocked => simp [henter] at hstep
  | joined s₁ =>
    simp only [henter, Option.some.injEq] at hstep
    exact hstep ▸ .waits (Scene.aside_of_joined henter) (Scene.keeps_of_joined henter)
  | entered board s₁ =>
    obtain ⟨haside, hboard, hclock, -⟩ := Scene.aside_of_entered henter
    simp only [henter] at hstep
    refine hentered board s₁ haside ?_ hclock henter hstep
    rw [haside.stage]
    exact Scene.stage_board hboard

/-- Every step of the loop is one of those listed. -/
theorem step_loopStep {r : Dedicated × Scene} (hstep : f.step me s = some r) : LoopStep f s r := by
  unfold step at hstep
  cases hpoint : f.point with
  | starting =>
    simp only [hpoint, Option.some.injEq] at hstep
    exact hstep ▸ .begins hpoint
  | demanding =>
    simp only [hpoint] at hstep
    refine loopStep_of_guarded hstep fun board s₁ haside hboard _ henter hact => ?_
    split at hact
    · rename_i hdemand
      exact Option.some.inj hact ▸ .calls hpoint haside hboard hdemand henter
    · rename_i hdemand
      exact Option.some.inj hact ▸ .rests hpoint haside hboard (Bool.eq_false_iff.mpr hdemand) henter
  | calling call =>
    have htells := s.lookAtCall_tells call
    simp only [hpoint] at hstep
    split at hstep
    · rename_i hcancelled
      exact Option.some.inj hstep ▸ .withdraws hpoint hcancelled
    · split at hstep
      · rename_i result s₁ hlook
        rw [hlook] at htells
        exact Option.some.inj hstep ▸ .receives hpoint htells hlook
      · rename_i call' s₁ hlook
        rw [hlook] at htells
        exact Option.some.inj hstep ▸ .goesOn hpoint htells hlook
      · split at hstep
        · exact Option.some.inj hstep ▸ .looks hpoint
        · exact absurd hstep (by simp)
  | rechecking call =>
    simp only [hpoint] at hstep
    refine loopStep_of_guarded hstep fun board s₁ haside hboard _ henter hact => ?_
    split at hact
    · rename_i hdemand
      exact Option.some.inj hact ▸ .keeps hpoint haside hboard hdemand henter
    · rename_i hdemand
      exact Option.some.inj hact ▸ .abandons hpoint haside hboard (Bool.eq_false_iff.mpr hdemand) henter
  | pausing wakeAt =>
    simp only [hpoint] at hstep
    split at hstep
    · exact Option.some.inj hstep ▸ .resumes hpoint
    · exact absurd hstep (by simp)
  | probing core ticket =>
    simp only [hpoint] at hstep
    split at hstep
    · exact absurd hstep (by simp)
    · rename_i s₁ hlook
      exact Option.some.inj hstep ▸ .waits (Scene.aside_of_probe_moved hlook)
        (.of_boards (Scene.lookAtProbe_boards.1 s₁ hlook))
    · rename_i isAlive s₁ hlook
      exact Option.some.inj hstep ▸ .judges hpoint (Scene.aside_of_probe_answered hlook) isAlive hlook
  | disposing =>
    simp only [hpoint, Option.some.injEq] at hstep
    exact hstep ▸ .disposed hpoint
  | choosing core =>
    simp only [hpoint] at hstep
    refine loopStep_of_guarded hstep fun board s₁ haside hboard hclock henter hact => ?_
    exact Option.some.inj hact ▸ .chooses hpoint haside hboard hclock henter
  | placing core request =>
    simp only [hpoint] at hstep
    refine loopStep_of_guarded hstep fun board s₁ haside hboard _ henter hact => ?_
    exact Option.some.inj hact ▸ .places hpoint haside hboard henter
  | idle lookAgainAt =>
    simp only [hpoint] at hstep
    split at hstep
    · rename_i hcancelled
      exact Option.some.inj hstep ▸ .closes hpoint hcancelled
    · split at hstep
      · exact Option.some.inj hstep ▸ .wakes hpoint
      · exact absurd hstep (by simp)
  | closing =>
    simp only [hpoint, Option.some.injEq] at hstep
    exact hstep ▸ .finishes hpoint
  | ended => simp [hpoint] at hstep
  | panicked => simp [hpoint] at hstep

theorem not_isOver_of_step {r : Dedicated × Scene} (hstep : f.step me s = some r) :
    f.isOver = false := by
  cases hpoint : f.point with
  | ended => simp [step, hpoint] at hstep
  | panicked => simp [step, hpoint] at hstep
  | _ => simp [isOver, hpoint]

end CoreBroker.Dedicated
