import CoreBroker.Proofs.Registry.Views
import CoreBroker.Proofs.Runs.Locks
set_option autoImplicit false

/-!
# What callers are told of a registry

Callers use the counts and the summaries, a fulfiller sizes its work by the number of candidates and
matches cores with a list of them.  In every state that a run comes to, all of these tell the same of the
requests; the reserved ones among those that wait are the difference between what is counted as unfulfilled
and what anybody may look at.
-/

namespace CoreBroker

/-- The reply to a question tells what the registry shows at the time `now`. -/
inductive Registry.Tells (g : Registry Core) (now : Nat) : Query → Reply → Prop
  | statistics : Tells g now .statistics (.statistics g.statistics)
  | counts : Tells g now .counts (.counts g.statistics)
  | summaries : Tells g now .summaries (.summaries (g.summaries now))
  | count (c : Constraint) : Tells g now (.count c) (.number (g.candidateCount c))
  | hasNext (includeLocal : Bool) (remoteDelay : Option Nat) :
      Tells g now (.hasNext includeLocal remoteDelay) (.truth (g.hasNext includeLocal remoteDelay now))
  | nothing {includeLocal : Bool} {remoteDelay : Option Nat}
      (hnone : g.next? includeLocal remoteDelay now = none) :
      Tells g now (.next includeLocal remoteDelay) .nothing
  | next {includeLocal : Bool} {remoteDelay : Option Nat} {r : Request Core} {lock : Lock}
      (hnext : g.next? includeLocal remoteDelay now = some r) (hlock : lock.request = r.id) :
      Tells g now (.next includeLocal remoteDelay) (.reserved lock)
  | snapshot {c : Constraint} {snapshot : Snapshot}
      (hlisted : snapshot.requests = (g.candidates c).map (·.id)) :
      Tells g now (.snapshot c) (.snapshot snapshot)

namespace World

variable {w : World} {b : Nat}

/-- Whoever has the guard of the registry `b` is told what it shows. -/
def TellsViews (w : World) (b : Nat) : Prop :=
  ∀ n query service board s, w.scene.enter b (.errand n) = .entered board s →
    ∃ reply w', w.stepErrand n (.ask b query service) = some (.finish reply w') ∧
      (w.scene.boardAt b).registry.Tells w.scene.now query reply

/-- A question is answered from the registry as it is. -/
theorem answer_tells (w : World) (b : Nat) (board : Board) (query : Query) :
    ∃ reply w', w.answer b board query = .finish reply w' ∧
      board.registry.Tells w.scene.now query reply := by
  cases query with
  | statistics => exact ⟨_, _, rfl, .statistics⟩
  | counts => exact ⟨_, _, rfl, .counts⟩
  | summaries => exact ⟨_, _, rfl, .summaries⟩
  | count c => exact ⟨_, _, rfl, .count c⟩
  | hasNext includeLocal remoteDelay => exact ⟨_, _, rfl, .hasNext includeLocal remoteDelay⟩
  | snapshot c => exact ⟨_, _, rfl, .snapshot rfl⟩
  | next includeLocal remoteDelay =>
    simp only [answer]
    cases hnext : board.registry.next? includeLocal remoteDelay w.scene.now with
    | none => exact ⟨_, _, rfl, .nothing hnext⟩
    | some r => exact ⟨_, _, rfl, .next hnext rfl⟩

theorem tellsViews (w : World) (b : Nat) : w.TellsViews b := by
  intro n query service board s hentered
  obtain ⟨-, hboard, hclock, -⟩ := Scene.aside_of_entered hentered
  obtain ⟨reply, w', hanswer, htells⟩ := (w.withScene s).answer_tells b board query
  have hnow : s.now = w.scene.now := congrArg Clock.steady hclock
  refine ⟨reply, w', ?_, ?_⟩
  · simp only [stepErrand, underGuard, hentered, hanswer]
  · rw [Scene.boardAt_eq hboard, ← hnow]
    exact htells

end World

/-- In every state that a run comes to, all views of a registry agree: the counts are those of the
summaries; as many candidates are listed as are counted, and they are, in order, the summaries of the
unreserved requests that wait and that the constraint admits; every candidate requires a local core or is
remotable; and whatever is unfulfilled is a candidate or has a reservation.  Whoever asks with the guard of
the registry is told just these views. -/
theorem views_agree (chance : Chance) (moves : List Move) (b : Nat) :
    ((run chance moves).world.scene.boardAt b).registry.ViewsAgree
      ((run chance moves).world.reservations b) ∧
    (run chance moves).world.TellsViews b :=
  ⟨Registry.viewsAgree _ fun _ => reservations_eq_toNat chance moves b, World.tellsViews _ b⟩

end CoreBroker
