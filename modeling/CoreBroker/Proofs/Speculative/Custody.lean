import CoreBroker.Proofs.Scene.Changes
import CoreBroker.Proofs.Scene.Story
import CoreBroker.Proofs.Speculative.States
import CoreBroker.Speculative.Loop
set_option autoImplicit false

/-!
# Where the cores of a speculative fulfiller are

A core that a provider handed out is with the attempt that brought it, in the obtainment of a provider,
or in the hands of the loop, until it is assigned or disposed of.  A step is accounted for when it makes or
loses no core besides.
-/

namespace CoreBroker

/-- The cores that the loop has in its hands at a point. -/
def SpeculativePoint.cores : SpeculativePoint → List Core
  | .counting discarded => discarded
  | .probing _ ready held _ _ discarded => ready.map (·.2) ++ held.2 :: discarded
  | .matching ready discarded => ready.map (·.2) ++ discarded
  | .discarding others | .dissolving others => others
  | _ => []

/-- Everything has been given up. -/
def SpeculativePoint.isReleased : SpeculativePoint → Bool
  | .dissolving _ | .joining | .ended => true
  | _ => false

/-- The attempt is about to deliver this core. -/
def Attempt.delivers (core : Core) (a : Attempt) : Bool := a.point == .settling (some core)

/-- What a fulfiller listens to: a registry and a roster, with a receiver of each. -/
structure Subscription where
  board : Nat
  requestReceiver : Nat
  roster : Nat
  rosterReceiver : Nat
  deriving DecidableEq, Repr

namespace Speculative

/-- How often a core is with an attempt of the fulfiller. -/
def delivered (f : Speculative) (core : Core) : Nat := f.attempts.countP (·.delivers core)

/-- How often a core is in an obtainment of the fulfiller. -/
def tracked (f : Speculative) (core : Core) : Nat := f.states.countP (·.holds core)

/-- How often a core is in the hands of the loop. -/
def inLoop (f : Speculative) (core : Core) : Nat := f.point.cores.count core

/-- How often the fulfiller has a core. -/
def held (f : Speculative) (core : Core) : Nat := f.delivered core + f.tracked core + f.inLoop core

/-- What the fulfiller listens to. -/
def subscription (f : Speculative) : Subscription := ⟨f.board, f.requestReceiver, f.roster, f.rosterReceiver⟩

/-- The fulfiller differs at most in what its tasks work on. -/
def Same (f f' : Speculative) : Prop :=
  f' = { f with states := f'.states, guard := f'.guard, attempts := f'.attempts
                exits := f'.exits, owners := f'.owners, point := f'.point }

/-- What the tasks of a fulfiller may do. -/
def May (subscription : Subscription) (_ : Stage) : Act → Prop
  | .remarked (.disposed _) | .minted _ => True
  | .remarked (.offered board _ _) | .remarked (.refused board _ _) => board = subscription.board
  | .changed board (.assigned _ _) => board = subscription.board
  | .looked board receiver | .left board receiver =>
    board = subscription.board ∧ receiver = subscription.requestReceiver
  | .lookedAtRoster roster receiver | .leftRoster roster receiver =>
    roster = subscription.roster ∧ receiver = subscription.rosterReceiver
  | _ => False

/-- What assigning these cores to these requests of a registry may do. -/
def MayPlace (board : Nat) (requests : List Nat) (cores : List Core) (_ : Stage) : Act → Prop
  | .remarked (.offered b _ _) | .remarked (.refused b _ _) => b = board
  | .changed b (.assigned id core) => b = board ∧ id ∈ requests ∧ core ∈ cores
  | _ => False

section MayPlace

variable {board : Nat} {requests : List Nat} {cores : List Core} {st : Stage} {act : Act}

theorem MayPlace.may {subscription : Subscription}
    (hplaces : MayPlace subscription.board requests cores st act) : May subscription st act := by
  unfold MayPlace at hplaces
  split at hplaces
  · exact hplaces
  · exact hplaces
  · exact hplaces.1
  · exact absurd hplaces id

theorem MayPlace.mono {requests' : List Nat} {cores' : List Core} (hrequests : requests ⊆ requests')
    (hcores : cores ⊆ cores') (hplaces : MayPlace board requests cores st act) :
    MayPlace board requests' cores' st act := by
  unfold MayPlace at hplaces
  split at hplaces
  · exact hplaces
  · exact hplaces
  · exact ⟨hplaces.1, hrequests hplaces.2.1, hcores hplaces.2.2⟩
  · exact absurd hplaces id

end MayPlace

section May

variable (subscription : Subscription) (st : Stage)

theorem may_disposed (core : Core) : May subscription st (.remarked (.disposed core)) := trivial

theorem may_minted (core : Core) : May subscription st (.minted core) := trivial

theorem may_looked : May subscription st (.looked subscription.board subscription.requestReceiver) :=
    ⟨rfl, rfl⟩

theorem may_left : May subscription st (.left subscription.board subscription.requestReceiver) := ⟨rfl, rfl⟩

theorem may_lookedAtRoster :
    May subscription st (.lookedAtRoster subscription.roster subscription.rosterReceiver) :=
  ⟨rfl, rfl⟩

theorem may_leftRoster :
    May subscription st (.leftRoster subscription.roster subscription.rosterReceiver) := ⟨rfl, rfl⟩

end May

/-- What holds of a fulfiller whenever none of its tasks is taking a step: one obtainment to a provider
id, one attempt to a serial number, and nothing held any more once everything was given up. -/
structure IsSound (bound : Nat) (f : Speculative) : Prop where
  ids : f.states.ids.Nodup
  serials : (f.attempts.map (·.serial)).Nodup
  bounded : ∀ a ∈ f.attempts, a.serial < bound
  released : f.point.isReleased = true → ∀ o ∈ f.states, o.isIdle = true
  ended : f.point = .ended → f.attempts = []

/-- A step of one of the tasks that is accounted for. -/
structure Accounts (f : Speculative) (s : Scene) (events : List Event) (f' : Speculative)
    (s' : Scene) : Prop where
  same : f.Same f'
  sound : f'.IsSound s'.nextSerial
  acts : Scene.ActSequence (May f.subscription) s events s'
  balance : ∀ core, f'.held core + spent core events = f.held core + events.count (.minted core)
  settled : IsSettled events

/-! ## The guard of the obtainments -/

/-- Joining the queue changes the guard alone, and not who has it. -/
theorem of_enter_joined {f f' : Speculative} {t : Task} (hjoined : f.enter t = .joined f') :
    ∃ guard, f' = { f with guard } ∧ guard.holder = f.guard.holder := by
  unfold enter at hjoined
  cases henter : f.guard.enter? t with
  | some guard => simp [henter] at hjoined
  | none =>
    cases hjoin : f.guard.join? t with
    | none => simp [henter, hjoin] at hjoined
    | some guard =>
      simp only [henter, hjoin, Entry.joined.injEq] at hjoined
      refine ⟨guard, hjoined.symm, ?_⟩
      unfold Guard.join? at hjoin
      split at hjoin
      · exact absurd hjoin (by simp)
      · cases hjoin
        rfl

/-- Entering changes the guard alone, and nobody else had it. -/
theorem of_enter_entered {f f' : Speculative} {t : Task} (hentered : f.enter t = .entered f') :
    ∃ guard, f' = { f with guard } ∧ guard.holder = some t ∧
      (f.guard.holder = none ∨ f.guard.holder = some t) := by
  unfold enter at hentered
  cases henter : f.guard.enter? t with
  | none =>
    cases hjoin : f.guard.join? t with
    | none => simp [henter, hjoin] at hentered
    | some guard => simp [henter, hjoin] at hentered
  | some guard =>
    simp only [henter, Entry.entered.injEq] at hentered
    refine ⟨guard, hentered.symm, ?_⟩
    unfold Guard.enter? at henter
    cases hholder : f.guard.holder with
    | none =>
      simp only [hholder, Option.some.injEq] at henter
      rw [← henter]
      exact ⟨rfl, .inl rfl⟩
    | some h =>
      by_cases hself : h = t
      · simp only [hholder, hself, if_true, Option.some.injEq] at henter
        rw [← henter, hholder, hself]
        exact ⟨rfl, .inr rfl⟩
      · simp [hholder, hself] at henter

end Speculative

end CoreBroker
