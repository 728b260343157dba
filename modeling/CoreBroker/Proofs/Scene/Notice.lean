import CoreBroker.Proofs.Registry.Waiting
import CoreBroker.Proofs.Scene.Parts
import CoreBroker.Proofs.Scene.Sound
set_option autoImplicit false

/-!
# What a receiver is told

Whatever changes which requests wait, or who is on a roster, is announced, and an announcement makes every
receiver ready until it looks itself.  So as long as a receiver finds nothing, what was true when it looked
is true still, unless somebody else looks in its place or gives up the reservation of a waiting request.
-/

namespace CoreBroker

namespace Stage

/-- The registry `b` has the receiver `r`. -/
def ServesBoard (st : Stage) (b r : Nat) : Prop :=
  ∃ g changes, st.boards[b]? = some (g, changes) ∧ changes.Serves r

/-- The roster `i` has the receiver `r`. -/
def ServesRoster (st : Stage) (i r : Nat) : Prop :=
  ∃ members changes, st.rosters[i]? = some (members, changes) ∧ changes.Serves r

/-- The registry `b` has given out the receiver `r`, which may have been given up again. -/
def HasIssuedBoard (st : Stage) (b r : Nat) : Prop :=
  ∃ g changes, st.boards[b]? = some (g, changes) ∧ r < changes.issued

/-- The roster `i` has given out the receiver `r`, which may have been given up again. -/
def HasIssuedRoster (st : Stage) (i r : Nat) : Prop :=
  ∃ members changes, st.rosters[i]? = some (members, changes) ∧ r < changes.issued

/-- The receiver `r` of the registry `b` finds nothing, nothing that waits there is reserved, and these
are the requests that wait. -/
def IsCalm (st : Stage) (b r : Nat) (waiting : List (Request Core)) : Prop :=
  ∃ g changes, st.boards[b]? = some (g, changes) ∧ changes.isReady r = false ∧ g.IsFree ∧
    g.waiting = waiting

/-- The receiver `r` of the roster `i` finds nothing, and these are the members. -/
def IsCurrent (st : Stage) (i r : Nat) (members : List ProviderRef) : Prop :=
  ∃ changes, st.rosters[i]? = some (members, changes) ∧ changes.isReady r = false

theorem hasIssuedBoard_subscribe {st : Stage} {b : Nat} {g : Registry Core}
    {changes : Channel Statistics} (hboard : st.boards[b]? = some (g, changes)) :
    (st.setBoard b (g, changes.subscribe.2)).HasIssuedBoard b changes.issued :=
  ⟨g, changes.subscribe.2, List.getElem?_set_self (List.getElem?_eq_some_iff.mp hboard).1,
    Nat.lt_succ_self _⟩

theorem hasIssuedRoster_subscribe {st : Stage} {i : Nat} {members : List ProviderRef}
    {changes : Channel RosterChange} (hroster : st.rosters[i]? = some (members, changes)) :
    (st.setRoster i (members, changes.subscribe.2)).HasIssuedRoster i changes.issued :=
  ⟨members, changes.subscribe.2, List.getElem?_set_self (List.getElem?_eq_some_iff.mp hroster).1,
    Nat.lt_succ_self _⟩

/-- A calm registry is the one that is found. -/
theorem IsCalm.of_board {st : Stage} {b r : Nat} {waiting : List (Request Core)}
    (hcalm : st.IsCalm b r waiting) {g : Registry Core} {changes : Channel Statistics}
    (hboard : st.boards[b]? = some (g, changes)) : g.IsFree ∧ g.waiting = waiting := by
  obtain ⟨g', changes', hboard', -, hfree, hwaiting⟩ := hcalm
  rw [hboard] at hboard'
  cases hboard'
  exact ⟨hfree, hwaiting⟩

theorem IsSound.servesBoard_subscribe {st : Stage} (hst : st.IsSound) {b : Nat} {g : Registry Core}
    {changes : Channel Statistics} (hboard : st.boards[b]? = some (g, changes)) :
    (st.setBoard b (g, changes.subscribe.2)).ServesBoard b changes.issued :=
  ⟨g, changes.subscribe.2, List.getElem?_set_self (List.getElem?_eq_some_iff.mp hboard).1,
    Channel.serves_subscribe (hst.boardChannels _ (List.mem_of_getElem? hboard))⟩

theorem IsSound.servesRoster_subscribe {st : Stage} (hst : st.IsSound) {i : Nat}
    {members : List ProviderRef} {changes : Channel RosterChange}
    (hroster : st.rosters[i]? = some (members, changes)) :
    (st.setRoster i (members, changes.subscribe.2)).ServesRoster i changes.issued :=
  ⟨members, changes.subscribe.2, List.getElem?_set_self (List.getElem?_eq_some_iff.mp hroster).1,
    Channel.serves_subscribe (hst.rosterChannels _ (List.mem_of_getElem? hroster))⟩

end Stage

namespace Act

/-- The act gives up the receiver `r` of the registry `b`. -/
def LeavesBoard (b r : Nat) : Act → Prop
  | .left board receiver => board = b ∧ receiver = r
  | _ => False

/-- The act gives up the receiver `r` of the roster `i`. -/
def LeavesRoster (i r : Nat) : Act → Prop
  | .leftRoster roster receiver => roster = i ∧ receiver = r
  | _ => False

/-- The act does not touch the receiver `r` of the registry `b`, and gives up no reservation of a request
that still waits there for a core. -/
def SparesBoard (b r : Nat) (st : Stage) : Act → Prop
  | .looked board receiver | .left board receiver => ¬ (board = b ∧ receiver = r)
  | .changed board (.unreserved id) => board = b → ¬ st.Waits b id
  | _ => True

/-- The act does not touch the receiver `r` of the roster `i`. -/
def SparesRoster (i r : Nat) : Act → Prop
  | .lookedAtRoster roster receiver | .leftRoster roster receiver => ¬ (roster = i ∧ receiver = r)
  | _ => True

variable {b i r : Nat} {st : Stage} {act : Act}

/-- Whoever does not touch a receiver does not give it up. -/
theorem SparesBoard.not_leaves (hspares : act.SparesBoard b r st) : ¬ act.LeavesBoard b r := by
  cases act <;> first | exact hspares | exact fun h => h

theorem SparesRoster.not_leaves (hspares : act.SparesRoster i r) : ¬ act.LeavesRoster i r := by
  cases act <;> first | exact hspares | exact fun h => h

end Act

/-! ## One act -/

namespace Stage.Becomes

variable {st st' : Stage} {act : Act} {b i r : Nat}

/-- A receiver is there until it is given up. -/
theorem servesBoard (hact : st.Becomes act st') (hstays : ¬ act.LeavesBoard b r)
    (hserved : st.ServesBoard b r) : st'.ServesBoard b r := by
  obtain ⟨g, changes, hboard, hserves⟩ := hserved
  obtain ⟨g', changes', hboard', heffect⟩ := hact.registryEffect hboard
  refine ⟨g', changes', hboard', ?_⟩
  cases heffect with
  | kept => exact hserves
  | changed _ _ =>
    split
    · exact Channel.serves_announce hserves _
    · exact hserves
  | looked _ hattends => exact (hattends.serves _).mpr hserves
  | left hleft =>
    refine Channel.serves_unsubscribe_ne (fun hr => hstays ?_) hserves
    rw [hleft, ← hr]
    exact ⟨rfl, rfl⟩
  | joined _ => exact Channel.serves_subscribe_of_serves hserves

/-- A receiver is there until it is given up. -/
theorem servesRoster (hact : st.Becomes act st') (hstays : ¬ act.LeavesRoster i r)
    (hserved : st.ServesRoster i r) : st'.ServesRoster i r := by
  obtain ⟨members, changes, hroster, hserves⟩ := hserved
  obtain ⟨members', changes', hroster', heffect⟩ := hact.rosterEffect hroster
  refine ⟨members', changes', hroster', ?_⟩
  cases heffect with
  | kept => exact hserves
  | announced change => exact Channel.serves_announce hserves change
  | looked _ hattends => exact (hattends.serves _).mpr hserves
  | left hleft =>
    refine Channel.serves_unsubscribe_ne (fun hr => hstays ?_) hserves
    rw [hleft, ← hr]
    exact ⟨rfl, rfl⟩
  | joined => exact Channel.serves_subscribe_of_serves hserves

/-- A receiver that was given out is not given out again. -/
theorem hasIssuedBoard (hact : st.Becomes act st') (hissued : st.HasIssuedBoard b r) :
    st'.HasIssuedBoard b r := by
  obtain ⟨g, changes, hboard, hlt⟩ := hissued
  obtain ⟨g', changes', hboard', heffect⟩ := hact.registryEffect hboard
  refine ⟨g', changes', hboard', ?_⟩
  cases heffect with
  | kept => exact hlt
  | changed _ _ =>
    split
    · exact Channel.issued_announce changes _ ▸ hlt
    · exact hlt
  | looked _ hattends => exact hattends.issued ▸ hlt
  | left _ => exact hlt
  | joined _ => exact Nat.lt_succ_of_lt hlt

/-- A receiver that was given out is not given out again. -/
theorem hasIssuedRoster (hact : st.Becomes act st') (hissued : st.HasIssuedRoster i r) :
    st'.HasIssuedRoster i r := by
  obtain ⟨members, changes, hroster, hlt⟩ := hissued
  obtain ⟨members', changes', hroster', heffect⟩ := hact.rosterEffect hroster
  refine ⟨members', changes', hroster', ?_⟩
  cases heffect with
  | kept => exact hlt
  | announced change => exact Channel.issued_announce changes change ▸ hlt
  | looked _ hattends => exact hattends.issued ▸ hlt
  | left _ => exact hlt
  | joined => exact Nat.lt_succ_of_lt hlt

/-- A receiver that finds nothing after an act found nothing before, and the same requests waited. -/
theorem calm (hst : st.IsSound) (hact : st.Becomes act st') (hspares : act.SparesBoard b r st)
    (hserved : st.ServesBoard b r) {waiting : List (Request Core)} (hcalm : st'.IsCalm b r waiting) :
    st.IsCalm b r waiting := by
  obtain ⟨g, changes, hboard, hserves⟩ := hserved
  obtain ⟨g', changes', hboard', heffect⟩ := hact.registryEffect hboard
  obtain ⟨g₁, changes₁, hafter, hready, hfree, hwaiting⟩ := hcalm
  rw [hboard'] at hafter
  cases hafter
  refine ⟨g, changes, hboard, ?_⟩
  cases heffect with
  | kept => exact ⟨hready, hfree, hwaiting⟩
  | @changed _ _ change hchange hbecomes =>
    -- An announcement would have made the receiver ready, so this change was none that is announced.
    cases hannounced : g.isAnnounced change with
    | true =>
      rw [hannounced, if_pos rfl, Channel.isReady_announce
        (hst.boardChannels _ (List.mem_of_getElem? hboard)) hserves] at hready
      exact absurd hready (by simp)
    | false =>
      rw [hannounced, if_neg Bool.false_ne_true] at hready
      obtain ⟨hids, hcoherent⟩ := hst.requests hboard
      have hsame : g'.waiting = g.waiting := Registry.waiting_of_becomes hids hcoherent hbecomes
        hannounced (fun id hid hwaits => by
          rw [hchange, hid] at hspares
          exact hspares rfl ⟨g, changes, hboard, hwaits⟩) hfree
      exact ⟨hready, hfree.of_waiting hsame, hsame.symm.trans hwaiting⟩
  | looked hlooked hattends =>
    rw [hlooked] at hspares
    exact ⟨hattends.isReady_eq (fun hr => hspares ⟨rfl, hr.symm⟩) ▸ hready, hfree, hwaiting⟩
  | left hleft =>
    rw [hleft] at hspares
    exact ⟨Channel.isReady_unsubscribe_ne (fun hr => hspares ⟨rfl, hr.symm⟩) ▸ hready, hfree,
      hwaiting⟩
  | joined _ => exact ⟨Channel.isReady_subscribe hserves ▸ hready, hfree, hwaiting⟩

/-- After an assignment every receiver finds something. -/
theorem not_calm (hst : st.IsSound) {id : Nat} {core : Core}
    (hact : st.Becomes (.changed b (.assigned id core)) st') (hserved : st.ServesBoard b r)
    {waiting : List (Request Core)} : ¬ st'.IsCalm b r waiting := by
  rintro ⟨g', changes', hafter, hready, -, -⟩
  obtain ⟨g, changes, hboard, hserves⟩ := hserved
  generalize hassigned : Act.changed b (.assigned id core) = act at hact
  cases hact with
  | changed hchanged _ =>
    cases hassigned
    rw [hboard] at hchanged
    cases hchanged
    simp only [setBoard, List.getElem?_set_self (List.getElem?_eq_some_iff.mp hboard).1,
      Registry.isAnnounced, if_true, Option.some.injEq, Prod.mk.injEq] at hafter
    rw [← hafter.2, Channel.isReady_announce (hst.boardChannels _ (List.mem_of_getElem? hboard))
      hserves] at hready
    exact absurd hready (by simp)
  | _ => cases hassigned

/-- A receiver that finds nothing after an act found nothing before, and the same members were there. -/
theorem current (hst : st.IsSound) (hact : st.Becomes act st') (hspares : act.SparesRoster i r)
    (hserved : st.ServesRoster i r) {members : List ProviderRef}
    (hcurrent : st'.IsCurrent i r members) : st.IsCurrent i r members := by
  obtain ⟨before, changes, hroster, hserves⟩ := hserved
  obtain ⟨after, changes', hroster', heffect⟩ := hact.rosterEffect hroster
  obtain ⟨changes₁, hafter, hready⟩ := hcurrent
  rw [hroster'] at hafter
  cases hafter
  cases heffect with
  | kept => exact ⟨changes, hroster, hready⟩
  | announced change =>
    rw [Channel.isReady_announce (hst.rosterChannels _ (List.mem_of_getElem? hroster)) hserves]
      at hready
    exact absurd hready (by simp)
  | looked hlooked hattends =>
    rw [hlooked] at hspares
    exact ⟨changes, hroster, hattends.isReady_eq (fun hr => hspares ⟨rfl, hr.symm⟩) ▸ hready⟩
  | left hleft =>
    rw [hleft] at hspares
    exact ⟨changes, hroster,
      Channel.isReady_unsubscribe_ne (fun hr => hspares ⟨rfl, hr.symm⟩) ▸ hready⟩
  | joined => exact ⟨changes, hroster, Channel.isReady_subscribe hserves ▸ hready⟩

end Stage.Becomes

/-! ## Whatever is done -/

namespace Scene.ActSequence

variable {s s' : Scene} {events : List Event} {may : Stage → Act → Prop} {b i r : Nat}

theorem servesBoard (hacts : ActSequence may s events s')
    (hstays : ∀ st act, may st act → ¬ act.LeavesBoard b r)
    (hserved : s.stage.ServesBoard b r) : s'.stage.ServesBoard b r := by
  refine hacts.keeps (P := fun s => s.stage.ServesBoard b r) (fun _ _ haside h => ?_)
    (fun _ _ _ hmay hperforms h => ?_) hserved
  · rw [haside.stage]
    exact h
  · exact hperforms.stage.servesBoard (hstays _ _ hmay) h

theorem servesRoster (hacts : ActSequence may s events s')
    (hstays : ∀ st act, may st act → ¬ act.LeavesRoster i r)
    (hserved : s.stage.ServesRoster i r) : s'.stage.ServesRoster i r := by
  refine hacts.keeps (P := fun s => s.stage.ServesRoster i r) (fun _ _ haside h => ?_)
    (fun _ _ _ hmay hperforms h => ?_) hserved
  · rw [haside.stage]
    exact h
  · exact hperforms.stage.servesRoster (hstays _ _ hmay) h

theorem hasIssuedBoard (hacts : ActSequence may s events s') (hissued : s.stage.HasIssuedBoard b r) :
    s'.stage.HasIssuedBoard b r := by
  refine hacts.keeps (P := fun s => s.stage.HasIssuedBoard b r) (fun _ _ haside h => ?_)
    (fun _ _ _ _ hperforms h => hperforms.stage.hasIssuedBoard h) hissued
  rw [haside.stage]
  exact h

theorem hasIssuedRoster (hacts : ActSequence may s events s') (hissued : s.stage.HasIssuedRoster i r) :
    s'.stage.HasIssuedRoster i r := by
  refine hacts.keeps (P := fun s => s.stage.HasIssuedRoster i r) (fun _ _ haside h => ?_)
    (fun _ _ _ _ hperforms h => hperforms.stage.hasIssuedRoster h) hissued
  rw [haside.stage]
  exact h

/-- A receiver that finds nothing now found nothing before, and the same requests waited. -/
theorem calm (hacts : ActSequence may s events s') (hs : s.stage.IsSound)
    (hspares : ∀ st act, may st act → act.SparesBoard b r st) (hserved : s.stage.ServesBoard b r)
    {waiting : List (Request Core)} (hcalm : s'.stage.IsCalm b r waiting) :
    s.stage.IsCalm b r waiting := by
  -- The induction goes backwards: being calm is carried from the end to the beginning.
  induction hacts with
  | refl => exact hcalm
  | aside _ haside ih => exact ih (haside.stage ▸ hcalm)
  | act hacts hmay hperforms ih =>
    have hthere := hacts.servesBoard (fun st act h => (hspares st act h).not_leaves) hserved
    exact ih (hperforms.stage.calm (hacts.stage_isSound hs) (hspares _ _ hmay) hthere hcalm)

/-- A receiver that finds nothing now found nothing before, and the same members were there. -/
theorem current (hacts : ActSequence may s events s') (hs : s.stage.IsSound)
    (hspares : ∀ st act, may st act → act.SparesRoster i r) (hserved : s.stage.ServesRoster i r)
    {members : List ProviderRef} (hcurrent : s'.stage.IsCurrent i r members) :
    s.stage.IsCurrent i r members := by
  induction hacts with
  | refl => exact hcurrent
  | aside _ haside ih => exact ih (haside.stage ▸ hcurrent)
  | act hacts hmay hperforms ih =>
    have hthere := hacts.servesRoster (fun st act h => (hspares st act h).not_leaves) hserved
    exact ih (hperforms.stage.current (hacts.stage_isSound hs) (hspares _ _ hmay) hthere hcurrent)

end Scene.ActSequence

end CoreBroker
