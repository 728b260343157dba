import CoreBroker.Proofs.Channel.Draining
import CoreBroker.Proofs.Scene.Changes
import CoreBroker.Proofs.Scene.Parts
set_option autoImplicit false

/-!
# Scenes alike

Most of what a task does between two rests changes nothing that anybody waits for: it writes lines, takes
and gives back guards, and asks cores whether they work.  In all of this the registries with their
announcements, the clock and the tokens stay as they were.
-/

namespace CoreBroker

/-! ## Queues -/

namespace Guard

variable {ω : Type} [DecidableEq ω] {g g' : Guard ω} {w : ω}

/-- Whoever is not let in finds somebody else inside. -/
theorem holder_of_enter?_eq_none (henter : g.enter? w = none) :
    ∃ other, g.holder = some other ∧ other ≠ w := by
  unfold enter? at henter
  split at henter
  · exact absurd henter (by simp)
  · rename_i other hholder
    split at henter
    · exact absurd henter (by simp)
    · rename_i hother
      exact ⟨other, hholder, hother⟩

theorem mem_queue_of_join?_eq_none (hjoin : g.join? w = none) : w ∈ g.queue := by
  unfold join? at hjoin
  split at hjoin
  · assumption
  · exact absurd hjoin (by simp)

/-- Whoever has joined the queue is not let in, and does not join it again. -/
theorem blocked_of_join? (henter : g.enter? w = none) (hjoin : g.join? w = some g') :
    g'.enter? w = none ∧ g'.join? w = none := by
  unfold join? at hjoin
  split at hjoin
  · exact absurd hjoin (by simp)
  · cases hjoin
    obtain ⟨other, hholder, hother⟩ := holder_of_enter?_eq_none henter
    refine ⟨?_, if_pos (List.mem_append_right _ (List.mem_singleton_self w))⟩
    simp only [enter?, hholder, if_neg hother]

end Guard

/-- A ticket that has joined the queue waits there. -/
theorem Permits.look_of_joined {p p' : Permits} {ticket : Nat} (hlook : p.look ticket = .joined p') :
    p'.look ticket = .waiting := by
  unfold look at hlook
  split at hlook
  · exact absurd hlook (by simp)
  · rename_i hopen
    split at hlook
    · exact absurd hlook (by simp)
    · rename_i hgranted
      split at hlook
      · exact absurd hlook (by simp)
      · split at hlook <;> cases hlook
        simp [look, hopen, hgranted]

/-! ## What stays as it was -/

namespace Scene

/-- The second scene is like the first in whatever a loop at rest may wait for: the registries with their
announcements and all that was told of them, the clock, and what has fired. -/
structure Resembles (s s' : Scene) : Prop where
  stage : s'.stage = s.stage
  clock : s'.clock = s.clock
  fired : s'.fired = s.fired
  changes : ∀ b, changesOf b s'.story = changesOf b s.story

variable {s s₁ s₂ : Scene} {b r : Nat}

namespace Resembles

theorem refl (s : Scene) : Resembles s s := ⟨rfl, rfl, rfl, fun _ => rfl⟩

theorem trans (h₁ : Resembles s s₁) (h₂ : Resembles s₁ s₂) : Resembles s s₂ :=
  ⟨h₂.stage.trans h₁.stage, h₂.clock.trans h₁.clock, h₂.fired.trans h₁.fired,
    fun b => (h₂.changes b).trans (h₁.changes b)⟩

theorem of_aside (haside : s.Aside s₁) (hclock : s₁.clock = s.clock) (hfired : s₁.fired = s.fired) :
    Resembles s s₁ := ⟨haside.stage, hclock, hfired, fun b => by rw [haside.story]⟩

theorem now (h : Resembles s s₁) : s₁.now = s.now := congrArg Clock.steady h.clock

theorem isCancelled (h : Resembles s s₁) (t : Token) : s₁.isCancelled t = s.isCancelled t :=
  congrArg t.isCancelled h.fired

end Resembles

theorem LogsOnly.resembles (h : s.LogsOnly s₁) : Resembles s s₁ where
  stage := h.same stage fun _ _ _ => rfl
  clock := h.same clock fun _ _ _ => rfl
  fired := h.same fired fun _ _ _ => rfl
  changes b := congrArg (changesOf b) (h.same story fun _ _ _ => rfl)

theorem resembles_leave (s : Scene) (b : Nat) : Resembles s (s.leave b) :=
  .of_aside (s.aside_leave b) rfl rfl

theorem resembles_fresh (s : Scene) : Resembles s s.fresh.2 := .of_aside s.aside_fresh rfl rfl

theorem resembles_disposeCore (s : Scene) (core : Core) : Resembles s (s.disposeCore core) := by
  have hperforms := s.performs_disposeCore core
  have hslot : ∀ s : Scene, (s.giveBackSlot core).clock = s.clock ∧
      (s.giveBackSlot core).fired = s.fired := fun s => by
    unfold giveBackSlot
    split <;> exact ⟨rfl, rfl⟩
  have hsame : (s.disposeCore core).clock = s.clock ∧ (s.disposeCore core).fired = s.fired := by
    unfold disposeCore
    dsimp only
    split
    · have hlogs := (s.note (.disposed core)).logsOnly_report .trace "slot released"
        [("provider_id", .ofText core.providerId), ("core", .ofText (toString core.number))]
      exact ⟨(hslot _).1.trans hlogs.resembles.clock, (hslot _).2.trans hlogs.resembles.fired⟩
    · exact ⟨rfl, rfl⟩
  refine ⟨hperforms.stage.eq_of_remarked, hsame.1, hsame.2, fun b => ?_⟩
  rw [hperforms.story]
  exact changesOf_remark rfl b s.story

/-- Whoever wants a guard that somebody else has joins the queue for it, unless it is there already. -/
theorem resembles_of_joined {t : Task} (hjoined : s.enter b t = .joined s₁) : Resembles s s₁ := by
  have haside := aside_of_joined hjoined
  unfold enter at hjoined
  cases hboard : s.boards[b]? with
  | none => simp [hboard] at hjoined
  | some board =>
    cases henter : board.guard.enter? (.task t) with
    | some guard => simp [hboard, henter] at hjoined
    | none =>
      cases hjoin : board.guard.join? (.task t) with
      | none => simp [hboard, henter, hjoin] at hjoined
      | some guard =>
        simp only [hboard, henter, hjoin, Entry.joined.injEq] at hjoined
        subst hjoined
        exact .of_aside haside rfl rfl

theorem resembles_of_entered {t : Task} {board : Board} (hentered : s.enter b t = .entered board s₁) :
    Resembles s s₁ := by
  obtain ⟨haside, -, hclock, hfired⟩ := aside_of_entered hentered
  exact .of_aside haside hclock hfired

theorem resembles_of_moved {core : Core} {ticket : Nat} {token : Token}
    (hmoved : s.lookAtProbe core ticket token = .moved s₁) : Resembles s s₁ := by
  have haside := aside_of_probe_moved hmoved
  unfold lookAtProbe at hmoved
  split at hmoved
  · split at hmoved
    · exact absurd hmoved (by simp)
    · split at hmoved <;> cases hmoved
      exact .of_aside haside rfl rfl
  · exact absurd hmoved (by simp)

theorem resembles_of_answered {core : Core} {ticket : Nat} {token : Token} {isAlive : Bool}
    (hanswered : s.lookAtProbe core ticket token = .answered isAlive s₁) : Resembles s s₁ := by
  have haside := aside_of_probe_answered hanswered
  unfold lookAtProbe at hanswered
  split at hanswered
  · split at hanswered
    · cases hanswered
      exact .of_aside haside rfl rfl
    · split at hanswered <;> cases hanswered
      exact .of_aside haside rfl rfl
  · cases hanswered
    exact .refl s

/-- Whoever has joined the queue for a guard stays there until somebody gives the guard back. -/
theorem enter_of_joined {t : Task} (hjoined : s.enter b t = .joined s₁) : s₁.enter b t = .blocked := by
  unfold enter at hjoined
  cases hboard : s.boards[b]? with
  | none => simp [hboard] at hjoined
  | some board =>
    cases henter : board.guard.enter? (.task t) with
    | some guard => simp [hboard, henter] at hjoined
    | none =>
      cases hjoin : board.guard.join? (.task t) with
      | none => simp [hboard, henter, hjoin] at hjoined
      | some guard =>
        simp only [hboard, henter, hjoin, Entry.joined.injEq] at hjoined
        obtain ⟨henter', hjoin'⟩ := Guard.blocked_of_join? henter hjoin
        subst hjoined
        simp [enter, modifyBoard, hboard, henter', hjoin']

/-- Whoever is not let in has to wait, and waits already. -/
theorem guard_of_blocked {t : Task} {board : Board} (hboard : s.boards[b]? = some board)
    (hblocked : s.enter b t = .blocked) :
    board.guard.enter? (.task t) = none ∧ board.guard.join? (.task t) = none := by
  simp only [enter, hboard] at hblocked
  split at hblocked
  · exact absurd hblocked (by simp)
  · rename_i henter
    split at hblocked
    · exact absurd hblocked (by simp)
    · rename_i hjoin
      exact ⟨henter, hjoin⟩

/-- Whoever has joined the queue at a gate stays there until somebody opens the gate. -/
theorem lookAtProbe_of_moved {core : Core} {ticket : Nat} {token : Token}
    (hmoved : s.lookAtProbe core ticket token = .moved s₁) :
    s₁.lookAtProbe core ticket token = .blocked := by
  unfold lookAtProbe at hmoved
  split at hmoved
  · rename_i gate hgate
    split at hmoved
    · exact absurd hmoved (by simp)
    · rename_i hlive
      split at hmoved <;> cases hmoved
      rename_i permits hlook
      have hlive' : ¬ (s.setGate gate permits).isCancelled token = true := hlive
      have hthere : (s.setGate gate permits).gate gate = permits := by
        simp [Scene.gate, setGate]
      rw [lookAtProbe, hgate]
      simp only [if_neg hlive', hthere, Permits.look_of_joined hlook]
  · exact absurd hmoved (by simp)

theorem boardReady_eq (s : Scene) (b r : Nat) :
    s.boardReady b r = (s.stage.boards[b]?).any fun board => board.2.isReady r := by
  simp only [boardReady, stage, List.getElem?_map, Option.any_map]

theorem boardReady_congr (hstage : s₁.stage = s.stage) : s₁.boardReady b r = s.boardReady b r := by
  rw [boardReady_eq, boardReady_eq, hstage]

/-- A receiver of a channel that is open finds nothing once it has been drained. -/
theorem boardReady_drainBoard (hboard : ∀ board, s.boards[b]? = some board →
      board.changes.Fits ∧ board.changes.Sound ∧ board.changes.isOpen = true) :
    (s.drainBoard b r).boardReady b r = false := by
  simp only [boardReady, drainBoard, modifyBoard, List.getElem?_modify_eq]
  cases hfound : s.boards[b]? with
  | none => rfl
  | some board =>
    obtain ⟨hfits, hsound, hopen⟩ := hboard board hfound
    have hattends := board.changes.drain_attends r
    obtain ⟨-, hcursor⟩ := Channel.drain_pollRun (r := r) hfits hsound
    simp [Channel.isReady, hattends.sent, hattends.isOpen, hopen, hcursor]

end Scene

end CoreBroker
