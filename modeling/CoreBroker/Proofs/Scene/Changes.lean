import CoreBroker.Proofs.Scene.Acts
import CoreBroker.Proofs.Scene.Sound
set_option autoImplicit false

/-!
# What the operations on registries and rosters do

Every operation under the guard of a registry, every change of a roster and everything a receiver does
is one act.
-/

namespace CoreBroker.Scene

variable {s s' : Scene} {b r : Nat}

/-! ## Boards on the stage -/

theorem stage_board {board : Board} (hboard : s.boards[b]? = some board) :
    s.stage.boards[b]? = some (board.registry, board.changes) := by
  simp [stage, hboard]

theorem board_of_stage {g : Registry Core} {changes : Channel Statistics}
    (hstage : s.stage.boards[b]? = some (g, changes)) :
    ∃ board, s.boards[b]? = some board ∧ board.registry = g ∧ board.changes = changes := by
  simp only [stage, List.getElem?_map, Option.map_eq_some_iff, Prod.mk.injEq] at hstage
  exact hstage

theorem roster_of_stage {members : List ProviderRef} {changes : Channel RosterChange}
    (hstage : s.stage.rosters[r]? = some (members, changes)) :
    ∃ roster, s.rosters[r]? = some roster ∧ roster.members = members ∧ roster.changes = changes := by
  simp only [stage, List.getElem?_map, Option.map_eq_some_iff, Prod.mk.injEq] at hstage
  exact hstage

theorem stage_modifyBoard {board : Board} (hboard : s.boards[b]? = some board)
    (f : Board → Board) :
    (s.modifyBoard b f).stage = s.stage.setBoard b ((f board).registry, (f board).changes) := by
  simp only [stage, modifyBoard, Stage.setBoard]
  rw [map_modify_eq_set hboard]

theorem stage_modifyRoster {roster : Roster} (hroster : s.rosters[r]? = some roster)
    (f : Roster → Roster) :
    (s.modifyRoster r f).stage =
      s.stage.setRoster r ((f roster).members, (f roster).changes) := by
  simp only [stage, modifyRoster, Stage.setRoster]
  rw [map_modify_eq_set hroster]

theorem stage_note (s : Scene) (e : Event) : (s.note e).stage = s.stage := rfl

theorem setBoard_setBoard (st : Stage) (b : Nat) (x y : Registry Core × Channel Statistics) :
    (st.setBoard b x).setBoard b y = st.setBoard b y := by
  simp only [Stage.setBoard, List.set_set]

theorem boards_setBoard {st : Stage} {x : Registry Core × Channel Statistics}
    (hboard : st.boards[b]? = some x) (y : Registry Core × Channel Statistics) :
    (st.setBoard b y).boards[b]? = some y := by
  have hlt : b < st.boards.length := (List.getElem?_eq_some_iff.mp hboard).1
  simp only [Stage.setBoard]
  rw [List.getElem?_set_self hlt]

/-! ## Changes of a registry -/

/-- A change of a registry before anything is said about it. -/
theorem changeRegistry_stage {board : Board} (hboard : s.boards[b]? = some board)
    (change : RegistryChange Core) (f : Registry Core → Registry Core) :
    (s.changeRegistry b change f).stage =
        s.stage.setBoard b (f board.registry, board.changes) ∧
      (s.changeRegistry b change f).story = .changed b change :: s.story ∧
      s.Precedes (s.changeRegistry b change f) := by
  have hlt : b < s.boards.length := (List.getElem?_eq_some_iff.mp hboard).1
  simp only [changeRegistry, hlt, if_true]
  refine ⟨?_, ?_, .of_eq (Nat.le_refl _) rfl rfl⟩
  · rw [stage_note, stage_modifyBoard hboard]
  · simp [story, note, modifyBoard, Event.isAboutCall]

theorem performs_change {board : Board} (hboard : s.boards[b]? = some board)
    {change : RegistryChange Core} {f : Registry Core → Registry Core}
    (hbecomes : board.registry.Becomes change (f board.registry))
    (hquiet : board.registry.isAnnounced change = false) :
    Performs (.changed b change) s (s.changeRegistry b change f) := by
  obtain ⟨hstage, hstory, hprecedes⟩ := changeRegistry_stage hboard change f
  refine ⟨hprecedes, ?_, hstory, fun core hcore => absurd hcore (by simp)⟩
  rw [hstage]
  have hact := Stage.Becomes.changed (stage_board hboard) hbecomes
  rwa [hquiet] at hact

/-- A change that is announced once something has been said about it. -/
theorem performs_announced_change {board : Board} (hboard : s.boards[b]? = some board)
    {change : RegistryChange Core} {f : Registry Core → Registry Core}
    (hbecomes : board.registry.Becomes change (f board.registry))
    (hannounced : board.registry.isAnnounced change = true)
    (haside : Aside (s.changeRegistry b change f) s') :
    Performs (.changed b change) s (s'.announceCounts b) := by
  obtain ⟨hstage, hstory, hprecedes⟩ := changeRegistry_stage hboard change f
  have hbefore : s'.stage.boards[b]? = some (f board.registry, board.changes) := by
    rw [haside.stage, hstage]
    exact boards_setBoard (stage_board hboard) _
  obtain ⟨after, hafter, hregistry, hchanges⟩ := board_of_stage hbefore
  refine ⟨?_, ?_, ?_, fun core hcore => absurd hcore (by simp)⟩
  · have hannounces : s'.Precedes (s'.announceCounts b) := .of_eq (Nat.le_refl _) rfl rfl
    exact (hprecedes.trans haside.toPrecedes).trans hannounces
  · have hact := Stage.Becomes.changed (stage_board hboard) hbecomes
    rw [hannounced] at hact
    unfold announceCounts
    rw [stage_modifyBoard hafter, haside.stage, hstage, setBoard_setBoard]
    simp only [hregistry, hchanges]
    exact hact
  · exact (haside.story.trans hstory)

theorem performs_enterRequest {g : Registry Core} {changes : Channel Statistics}
    (hstage : s.stage.boards[b]? = some (g, changes)) {q : Request Core}
    (hnew : ∀ p ∈ g.requests, p.id ≠ q.id) (hfresh : q.IsFresh) :
    Performs (.changed b (.entered q)) s (s.enterRequest b q) := by
  obtain ⟨board, hboard, rfl, -⟩ := board_of_stage hstage
  exact performs_announced_change hboard (.entered hnew hfresh) rfl
    ((aside_traceBoard _ _ _).trans (aside_report _ _ _ _))

theorem performs_assignCore {id : Nat} {core : Core} (hok : s.assignCore b id core = .ok s') :
    Performs (.changed b (.assigned id core)) s s' := by
  unfold assignCore at hok
  cases hboard : s.boards[b]? with
  | none => simp [hboard] at hok
  | some board =>
    cases hassign : board.registry.assign id core with
    | error reason => simp [hboard, hassign] at hok
    | ok registry =>
      simp only [hboard, hassign, Except.ok.injEq] at hok
      rw [← hok]
      exact performs_announced_change hboard (.assigned hassign) rfl
        ((aside_traceBoard _ _ _).trans (aside_report _ _ _ _))

/-- Once it has been assigned a core, a request waits no more. -/
theorem Performs.not_waits {id : Nat} {core : Core}
    (hperforms : Performs (.changed b (.assigned id core)) s s') :
    ∃ g changes, s'.stage.boards[b]? = some (g, changes) ∧ ¬ g.Waits id := by
  have hstage := hperforms.stage
  generalize hafter : s'.stage = after at hstage
  cases hstage with
  | changed hboard hbecomes =>
    cases hbecomes with
    | assigned hassign =>
      exact ⟨_, _, boards_setBoard hboard _, Registry.not_waits_of_assign hassign⟩

theorem not_waits_of_refused (hsound : s.stage.IsSound) {g : Registry Core}
    {changes : Channel Statistics} (hstage : s.stage.boards[b]? = some (g, changes)) {id : Nat}
    {core : Core} {reason : Fault Nat} (hrefused : s.assignCore b id core = .error reason) :
    ¬ g.Waits id := by
  obtain ⟨board, hboard, rfl, -⟩ := board_of_stage hstage
  obtain ⟨hids, hcoherent⟩ := hsound.requests hstage
  unfold assignCore at hrefused
  cases hassign : board.registry.assign id core with
  | ok registry => simp [hboard, hassign] at hrefused
  | error reason' => exact Registry.not_waits_of_refused hids hcoherent hassign

/-- Disposing of a request is one act, unless there is no such request. -/
theorem performs_disposeRequest {id : Nat} {q : Request Core}
    (hrequest : s.request? b id = some q) :
    (s.disposeRequest b id).1 = q.core ∧
      Performs (.changed b (.disposed id q.core)) s (s.disposeRequest b id).2 := by
  unfold request? at hrequest
  cases hboard : s.boards[b]? with
  | none => simp [hboard] at hrequest
  | some board =>
    have hget : board.registry.get? id = some q := by simpa [hboard] using hrequest
    simp only [disposeRequest, hboard, hget]
    cases hlisted : q.isListed with
    | true =>
      simp only [if_true, true_and]
      refine performs_announced_change hboard (.disposed hget) ?_
        ((aside_traceBoard _ _ _).trans (aside_report _ _ _ _))
      simp [Registry.isAnnounced, hget, hlisted]
    | false =>
      simp only [Bool.false_eq_true, if_false, true_and]
      refine performs_change hboard (.disposed hget) ?_
      simp [Registry.isAnnounced, hget, hlisted]

theorem disposeRequest_of_none {id : Nat} (hrequest : s.request? b id = none) :
    s.disposeRequest b id = (none, s) := by
  unfold request? at hrequest
  cases hboard : s.boards[b]? with
  | none => simp [disposeRequest, hboard]
  | some board =>
    have hget : board.registry.get? id = none := by simpa [hboard] using hrequest
    simp [disposeRequest, hboard, hget]

theorem performs_reserveRequest {g : Registry Core} {changes : Channel Statistics}
    (hstage : s.stage.boards[b]? = some (g, changes)) {q : Request Core}
    (hmem : q ∈ g.requests) (hcandidate : q.isCandidate .all = true) :
    Performs (.changed b (.reserved q.id)) s (s.reserveRequest b q.id) := by
  obtain ⟨board, hboard, rfl, -⟩ := board_of_stage hstage
  exact performs_change hboard (.reserved hmem hcandidate) rfl

theorem performs_unreserveRequest {g : Registry Core} {changes : Channel Statistics}
    (hstage : s.stage.boards[b]? = some (g, changes)) (id : Nat) :
    Performs (.changed b (.unreserved id)) s (s.unreserveRequest b id) := by
  obtain ⟨board, hboard, rfl, -⟩ := board_of_stage hstage
  exact performs_change hboard .unreserved rfl

theorem performs_takeCore {id : Nat} {core : Core} (htake : s.takeCore b id = (some core, s')) :
    Performs (.changed b (.taken id core)) s s' := by
  unfold takeCore at htake
  cases hboard : s.boards[b]? with
  | none => simp [hboard] at htake
  | some board =>
    cases hget : board.registry.get? id with
    | none => simp [hboard, hget] at htake
    | some q =>
      cases hcore : q.core with
      | none => simp [hboard, hget, hcore] at htake
      | some held =>
        simp only [hboard, hget, hcore, Option.bind_some, Prod.mk.injEq, Option.some.injEq] at htake
        obtain ⟨rfl, rfl⟩ := htake
        exact performs_change hboard (.taken hget hcore) rfl

/-! ## Receivers -/

variable {may : Stage → Act → Prop}

theorem modifyBoard_of_none (hboard : s.boards[b]? = none) (f : Board → Board) :
    s.modifyBoard b f = s := by
  simp only [modifyBoard, List.modify_eq_self (List.getElem?_eq_none_iff.mp hboard)]

theorem modifyRoster_of_none (hroster : s.rosters[r]? = none) (f : Roster → Roster) :
    s.modifyRoster r f = s := by
  simp only [modifyRoster, List.modify_eq_self (List.getElem?_eq_none_iff.mp hroster)]

/-- A change of the channel of a registry alone, by an act that stands for it. -/
theorem acts_modifyChanges {act : Act} (hmay : may s.stage act) (hevents : act.events = [])
    {f : Channel Statistics → Channel Statistics}
    (hact : ∀ g changes, s.stage.boards[b]? = some (g, changes) →
      s.stage.Becomes act (s.stage.setBoard b (g, f changes))) :
    ActSequence may s [] (s.modifyBoard b fun board => { board with changes := f board.changes }) := by
  cases hboard : s.boards[b]? with
  | none =>
    rw [modifyBoard_of_none hboard]
    exact .refl
  | some board =>
    have hstage := stage_modifyBoard hboard fun board => { board with changes := f board.changes }
    have hperforms : Performs act s
        (s.modifyBoard b fun board => { board with changes := f board.changes }) := by
      refine ⟨.of_eq (Nat.le_refl _) rfl rfl, ?_, ?_, fun core hcore => ?_⟩
      · rw [hstage]
        exact hact _ _ (stage_board hboard)
      · rw [hevents]
        rfl
      · rw [hcore] at hevents
        exact absurd hevents (List.cons_ne_nil _ _)
    rw [← hevents]
    exact hperforms.acts hmay

/-- A change of the channel of a roster alone, by an act that stands for it. -/
theorem acts_modifyRosterChanges {act : Act} (hmay : may s.stage act) (hevents : act.events = [])
    {f : Channel RosterChange → Channel RosterChange}
    (hact : ∀ members changes, s.stage.rosters[r]? = some (members, changes) →
      s.stage.Becomes act (s.stage.setRoster r (members, f changes))) :
    ActSequence may s []
      (s.modifyRoster r fun roster => { roster with changes := f roster.changes }) := by
  cases hroster : s.rosters[r]? with
  | none =>
    rw [modifyRoster_of_none hroster]
    exact .refl
  | some roster =>
    have hstage := stage_modifyRoster hroster
      fun roster => { roster with changes := f roster.changes }
    have hperforms : Performs act s
        (s.modifyRoster r fun roster => { roster with changes := f roster.changes }) := by
      refine ⟨.of_eq (Nat.le_refl _) rfl rfl, ?_, ?_, fun core hcore => ?_⟩
      · rw [hstage]
        refine hact _ _ ?_
        simp [stage, hroster]
      · rw [hevents]
        rfl
      · rw [hcore] at hevents
        exact absurd hevents (List.cons_ne_nil _ _)
    rw [← hevents]
    exact hperforms.acts hmay

theorem acts_drainBoard {receiver : Nat} (hmay : may s.stage (.looked b receiver)) :
    ActSequence may s [] (s.drainBoard b receiver) :=
  acts_modifyChanges hmay rfl fun _ changes hboard =>
    .looked hboard (changes.drain_attends receiver)

theorem acts_pollAllBoard {receiver : Nat} (hmay : may s.stage (.looked b receiver)) :
    ActSequence may s [] (s.modifyBoard b fun board =>
      { board with changes := (board.changes.pollAll receiver).2 }) :=
  acts_modifyChanges hmay rfl fun _ changes hboard =>
    .looked hboard (changes.pollAll_attends receiver)

theorem acts_unsubscribeBoard {receiver : Nat} (hmay : may s.stage (.left b receiver)) :
    ActSequence may s [] (s.unsubscribeBoard b receiver) :=
  acts_modifyChanges hmay rfl fun _ _ hboard => .left hboard

theorem acts_subscribeBoard (hmay : may s.stage (.joined b)) :
    ActSequence may s [] (s.subscribeBoard b).2 := by
  have hacts : ActSequence may s []
      (s.modifyBoard b fun board => { board with changes := board.changes.subscribe.2 }) :=
    acts_modifyChanges hmay rfl fun _ _ hboard => .joined hboard
  cases hboard : s.boards[b]? with
  | none =>
    simp only [subscribeBoard, hboard]
    exact .refl
  | some board =>
    have heq : (s.subscribeBoard b).2 =
        s.modifyBoard b fun board => { board with changes := board.changes.subscribe.2 } := by
      simp only [subscribeBoard, hboard, modifyBoard]
      congr 1
      refine List.ext_getElem? fun k => ?_
      by_cases hbk : b = k
      · subst hbk
        rw [List.getElem?_modify_eq, List.getElem?_modify_eq, hboard]
        rfl
      · rw [List.getElem?_modify_ne _ _ hbk, List.getElem?_modify_ne _ _ hbk]
    rw [heq]
    exact hacts

theorem acts_drainRoster {receiver : Nat} (hmay : may s.stage (.lookedAtRoster r receiver)) :
    ActSequence may s [] (s.drainRoster r receiver) :=
  acts_modifyRosterChanges hmay rfl fun _ changes hroster =>
    .lookedAtRoster hroster (changes.drain_attends receiver)

theorem acts_pollAllRoster {receiver : Nat} (hmay : may s.stage (.lookedAtRoster r receiver)) :
    ActSequence may s [] (s.modifyRoster r fun roster =>
      { roster with changes := (roster.changes.pollAll receiver).2 }) :=
  acts_modifyRosterChanges hmay rfl fun _ changes hroster =>
    .lookedAtRoster hroster (changes.pollAll_attends receiver)

theorem acts_unsubscribeRoster {receiver : Nat} (hmay : may s.stage (.leftRoster r receiver)) :
    ActSequence may s [] (s.unsubscribeRoster r receiver) :=
  acts_modifyRosterChanges hmay rfl fun _ _ hroster => .leftRoster hroster

theorem acts_subscribeRoster (hmay : may s.stage (.joinedRoster r)) :
    ActSequence may s [] (s.subscribeRoster r).2 := by
  have hacts : ActSequence may s []
      (s.modifyRoster r fun roster => { roster with changes := roster.changes.subscribe.2 }) :=
    acts_modifyRosterChanges hmay rfl fun _ _ hroster => .joinedRoster hroster
  cases hroster : s.rosters[r]? with
  | none =>
    simp only [subscribeRoster, hroster]
    exact .refl
  | some roster =>
    have heq : (s.subscribeRoster r).2 = s.modifyRoster r fun roster =>
        { roster with changes := roster.changes.subscribe.2 } := by
      simp only [subscribeRoster, hroster, modifyRoster]
      congr 1
      refine List.ext_getElem? fun k => ?_
      by_cases hrk : r = k
      · subst hrk
        rw [List.getElem?_modify_eq, List.getElem?_modify_eq, hroster]
        rfl
      · rw [List.getElem?_modify_ne _ _ hrk, List.getElem?_modify_ne _ _ hrk]
    rw [heq]
    exact hacts

/-! ## Members of a roster -/

theorem aside_reportMember (s : Scene) (sink : Trace.Sink) (deed id : String) :
    Aside s (s.reportMember sink deed id) :=
  (s.aside_trace _ _ _).trans (aside_report _ _ _ _)

theorem acts_addMember {p : ProviderRef} (hprovider : p ∈ s.stage.providers)
    (hmay : may s.stage (.came r p)) : ActSequence may s [] (s.addMember r p).2 := by
  unfold addMember
  cases hroster : s.rosters[r]? with
  | none => exact .refl
  | some roster =>
    have hstage : s.stage.rosters[r]? = some (roster.members, roster.changes) := by
      simp [stage, hroster]
    by_cases hhas : roster.has p.id = true
    · simp only [Roster.add?, hhas, if_true]
      exact .refl
    · have hnew : ∀ q ∈ roster.members, q.id ≠ p.id := by
        intro q hq hid
        exact hhas (List.any_eq_true.mpr ⟨q, hq, by simpa using hid⟩)
      simp only [Roster.add?, hhas, Bool.false_eq_true, if_false]
      have hperforms : Performs (.came r p) s (s.setRoster r
          (({ roster with members := roster.members ++ [p] } : Roster).announce
            { current := roster.members ++ [p], added := some p })) := by
        refine ⟨.of_eq (Nat.le_refl _) rfl rfl, ?_, rfl, fun core hcore => absurd hcore (by simp)⟩
        unfold setRoster
        rw [stage_modifyRoster hroster]
        exact .came _ hstage hnew hprovider
      exact (hperforms.andAside (aside_reportMember _ _ _ _)).acts hmay

theorem acts_removeMember {id : String} (hmay : ∀ p : ProviderRef, may s.stage (.went r p)) :
    ActSequence may s [] (s.removeMember r id).2 := by
  unfold removeMember
  cases hroster : s.rosters[r]? with
  | none => exact .refl
  | some roster =>
    have hstage : s.stage.rosters[r]? = some (roster.members, roster.changes) := by
      simp [stage, hroster]
    cases hfind : roster.members.find? (·.id == id) with
    | none =>
      simp only [Roster.remove?, hfind]
      exact .refl
    | some p =>
      have hid : p.id = id := by simpa using List.find?_some hfind
      subst hid
      simp only [Roster.remove?, hfind]
      have hperforms : Performs (.went r p) s (s.setRoster r
          (({ roster with members := roster.members.eraseP (·.id == p.id) } : Roster).announce
            { current := roster.members.eraseP (·.id == p.id), removed := some p })) := by
        refine ⟨.of_eq (Nat.le_refl _) rfl rfl, ?_, rfl, fun core hcore => absurd hcore (by simp)⟩
        unfold setRoster
        rw [stage_modifyRoster hroster]
        exact .went _ hstage
      exact (hperforms.andAside (aside_reportMember _ _ _ _)).acts (hmay p)

end CoreBroker.Scene
