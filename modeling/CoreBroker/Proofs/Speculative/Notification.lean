import CoreBroker.Proofs.Scene.Notice
import CoreBroker.Proofs.Speculative.Custody
set_option autoImplicit false

/-!
# What a fulfiller will be told of

A fulfiller looks at its registry and its roster only in a pass, and a pass is made when something was
announced.  So between two passes it is enough that whatever it would have to know is announced: as long
as its receivers find nothing, the same requests wait and the same providers are there as before.
-/

namespace CoreBroker

namespace Subscription

/-- The fulfiller has both of its receivers. -/
structure IsServed (subscription : Subscription) (st : Stage) : Prop where
  board : st.ServesBoard subscription.board subscription.requestReceiver
  roster : st.ServesRoster subscription.roster subscription.rosterReceiver

/-- Whatever has changed for the fulfiller between two stages, it will be told: where its receivers
find nothing in the second, they found nothing in the first, and nothing was different. -/
structure Notices (subscription : Subscription) (st st' : Stage) : Prop where
  calm : ∀ {waiting : List (Request Core)},
    st'.IsCalm subscription.board subscription.requestReceiver waiting →
    st.IsCalm subscription.board subscription.requestReceiver waiting
  current : ∀ {members : List ProviderRef},
    st'.IsCurrent subscription.roster subscription.rosterReceiver members →
    st.IsCurrent subscription.roster subscription.rosterReceiver members

end Subscription

/-- The act touches no receiver of the fulfiller, and gives up no reservation of a request that still
waits for a core. -/
def Act.Spares (subscription : Subscription) (st : Stage) (act : Act) : Prop :=
  act.SparesBoard subscription.board subscription.requestReceiver st ∧
    act.SparesRoster subscription.roster subscription.rosterReceiver

/-- The act gives up a receiver of the fulfiller. -/
def Act.Leaves (subscription : Subscription) (act : Act) : Prop :=
  act.LeavesBoard subscription.board subscription.requestReceiver ∨
    act.LeavesRoster subscription.roster subscription.rosterReceiver

theorem Act.Spares.not_leaves {subscription : Subscription} {st : Stage} {act : Act}
    (hspares : act.Spares subscription st) : ¬ act.Leaves subscription :=
  not_or.mpr ⟨hspares.1.not_leaves, hspares.2.not_leaves⟩

theorem Speculative.MayPlace.spares {subscription : Subscription} {board : Nat} {st : Stage} {act : Act}
    {requests : List Nat} {cores : List Core} (hplaces : MayPlace board requests cores st act) :
    act.Spares subscription st := by
  unfold MayPlace at hplaces
  split at hplaces <;> first | exact ⟨trivial, trivial⟩ | exact absurd hplaces id

namespace Scene

variable {s s' : Scene} {events : List Event} {subscription : Subscription} {may : Stage → Act → Prop}

theorem ActSequence.isServed (hacts : ActSequence may s events s')
    (hstays : ∀ st act, may st act → ¬ act.Leaves subscription) (hserved : subscription.IsServed s.stage) :
    subscription.IsServed s'.stage where
  board := hacts.servesBoard (fun _ _ h => fun hleaves => hstays _ _ h (.inl hleaves)) hserved.board
  roster := hacts.servesRoster (fun _ _ h => fun hleaves => hstays _ _ h (.inr hleaves)) hserved.roster

/-- A fulfiller notices whatever others do. -/
theorem ActSequence.notices (hacts : ActSequence may s events s') (hs : s.stage.IsSound)
    (hspares : ∀ st act, may st act → act.Spares subscription st) (hserved : subscription.IsServed s.stage) :
    subscription.Notices s.stage s'.stage where
  calm := hacts.calm hs (fun _ _ h => (hspares _ _ h).1) hserved.board
  current := hacts.current hs (fun _ _ h => (hspares _ _ h).2) hserved.roster

end Scene

end CoreBroker
