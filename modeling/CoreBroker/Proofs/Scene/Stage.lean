import CoreBroker.Proofs.Channel.Receivers
import CoreBroker.Proofs.Registry.Candidates
import CoreBroker.Scene.Calls
import CoreBroker.Scene.Members
import CoreBroker.Scene.Requests
set_option autoImplicit false

/-!
# The stage of a scene

Most of what tasks do to the scene leaves the requests, the rosters and whoever listens to them as
they are.  The stage is what is left of a scene when everything else is taken away, and the story is
the journal without what only concerns requests for cores to providers.  The few acts that change the
stage or add to the story are listed here once; whatever else happens is aside.
-/

namespace CoreBroker

/-- The event is only about a request for a core to a provider. -/
def Event.isAboutCall : Event → Bool
  | .called _ | .issued _ | .failed _ | .panicked _ | .abandoned _ => true
  | _ => false

/-- The event neither makes a core nor changes a registry. -/
def Event.isRemark : Event → Bool
  | .disposed _ | .offered _ _ _ | .refused _ _ _ | .lost _ _ _ | .stopped _ => true
  | _ => false

/-- The registries and the rosters with their announcements, and the provider objects. -/
structure Stage where
  boards : List (Registry Core × Channel Statistics)
  rosters : List (List ProviderRef × Channel RosterChange)
  providers : List ProviderRef

namespace Stage

/-- The stage with one registry and its announcements replaced. -/
def setBoard (st : Stage) (b : Nat) (board : Registry Core × Channel Statistics) : Stage :=
  { st with boards := st.boards.set b board }

/-- The stage with one roster and its announcements replaced. -/
def setRoster (st : Stage) (r : Nat) (roster : List ProviderRef × Channel RosterChange) : Stage :=
  { st with rosters := st.rosters.set r roster }

/-- Some request of a registry still waits for a core. -/
def Waits (st : Stage) (b id : Nat) : Prop :=
  ∃ g changes, st.boards[b]? = some (g, changes) ∧ g.Waits id

theorem not_waits_of_board {st : Stage} {b id : Nat} {g : Registry Core}
    {changes : Channel Statistics} (hboard : st.boards[b]? = some (g, changes))
    (hdone : ¬ g.Waits id) : ¬ st.Waits b id := by
  rintro ⟨g', changes', hboard', hwaits⟩
  rw [hboard] at hboard'
  cases hboard'
  exact hdone hwaits

end Stage

namespace Scene

/-- The stage of a scene. -/
def stage (s : Scene) : Stage where
  boards := s.boards.map fun board => (board.registry, board.changes)
  rosters := s.rosters.map fun roster => (roster.members, roster.changes)
  providers := s.providers.map (·.ref)

/-- What happened, newest first, except what only concerns requests to providers. -/
def story (s : Scene) : List Event := s.journal.filter fun e => !e.isAboutCall

end Scene

/-- An act that changes the stage or adds to the story. -/
inductive Act where
  | remarked (e : Event)
  | minted (core : Core)
  | changed (board : Nat) (change : RegistryChange Core)
  /-- A receiver of a registry got something. -/
  | looked (board receiver : Nat)
  | left (board receiver : Nat)
  | joined (board : Nat)
  /-- A receiver of a roster got something. -/
  | lookedAtRoster (roster receiver : Nat)
  | leftRoster (roster receiver : Nat)
  | joinedRoster (roster : Nat)
  /-- A provider joined a roster. -/
  | came (roster : Nat) (p : ProviderRef)
  /-- A provider left a roster. -/
  | went (roster : Nat) (p : ProviderRef)
  /-- A registry and a roster were set up. -/
  | founded
  /-- A provider was set up. -/
  | enlisted (p : ProviderRef)

/-- What an act adds to the story. -/
def Act.events : Act → List Event
  | .remarked e => [e]
  | .minted core => [.minted core]
  | .changed board change => [.changed board change]
  | _ => []

/-- Whether a change of a registry is announced. -/
def Registry.isAnnounced (g : Registry Core) : RegistryChange Core → Bool
  | .entered _ | .assigned _ _ => true
  | .disposed id _ => (g.get? id).any (·.isListed)
  | .taken _ _ | .reserved _ | .unreserved _ => false

/-- What an act does to the stage. -/
inductive Stage.Becomes (st : Stage) : Act → Stage → Prop
  | remarked {e : Event} (hremark : e.isRemark = true) : Becomes st (.remarked e) st
  | minted {core : Core} : Becomes st (.minted core) st
  | changed {b : Nat} {change : RegistryChange Core} {g g' : Registry Core}
      {changes : Channel Statistics} (hboard : st.boards[b]? = some (g, changes))
      (hbecomes : g.Becomes change g') :
      Becomes st (.changed b change) (st.setBoard b
        (g', if g.isAnnounced change then (changes.announce g'.statistics).2 else changes))
  | looked {b r : Nat} {g : Registry Core} {changes after : Channel Statistics}
      (hboard : st.boards[b]? = some (g, changes)) (hattends : Channel.Attends r changes after) :
      Becomes st (.looked b r) (st.setBoard b (g, after))
  | left {b r : Nat} {g : Registry Core} {changes : Channel Statistics}
      (hboard : st.boards[b]? = some (g, changes)) :
      Becomes st (.left b r) (st.setBoard b (g, changes.unsubscribe r))
  | joined {b : Nat} {g : Registry Core} {changes : Channel Statistics}
      (hboard : st.boards[b]? = some (g, changes)) :
      Becomes st (.joined b) (st.setBoard b (g, changes.subscribe.2))
  | lookedAtRoster {i r : Nat} {members : List ProviderRef} {changes after : Channel RosterChange}
      (hroster : st.rosters[i]? = some (members, changes))
      (hattends : Channel.Attends r changes after) :
      Becomes st (.lookedAtRoster i r) (st.setRoster i (members, after))
  | leftRoster {i r : Nat} {members : List ProviderRef} {changes : Channel RosterChange}
      (hroster : st.rosters[i]? = some (members, changes)) :
      Becomes st (.leftRoster i r) (st.setRoster i (members, changes.unsubscribe r))
  | joinedRoster {i : Nat} {members : List ProviderRef} {changes : Channel RosterChange}
      (hroster : st.rosters[i]? = some (members, changes)) :
      Becomes st (.joinedRoster i) (st.setRoster i (members, changes.subscribe.2))
  | came {i : Nat} {p : ProviderRef} {members : List ProviderRef} {changes : Channel RosterChange}
      (change : RosterChange) (hroster : st.rosters[i]? = some (members, changes))
      (hnew : ∀ q ∈ members, q.id ≠ p.id) (hprovider : p ∈ st.providers) :
      Becomes st (.came i p)
        (st.setRoster i (members ++ [p], (changes.announce change).2))
  | went {i : Nat} {p : ProviderRef} {members : List ProviderRef} {changes : Channel RosterChange}
      (change : RosterChange) (hroster : st.rosters[i]? = some (members, changes)) :
      Becomes st (.went i p)
        (st.setRoster i (members.eraseP (·.id == p.id), (changes.announce change).2))
  | founded : Becomes st .founded
      { st with boards := st.boards ++ [({}, .new defaultChannelCapacity)]
                rosters := st.rosters ++ [([], .new defaultChannelCapacity)] }
  | enlisted {p : ProviderRef} (hserial : p.serial = st.providers.length) :
      Becomes st (.enlisted p) { st with providers := st.providers ++ [p] }

/-- No act takes a registry away. -/
theorem Stage.Becomes.length_boards_le {st st' : Stage} {act : Act} (h : st.Becomes act st') :
    st.boards.length ≤ st'.boards.length := by
  cases h with
  | founded => simp
  | _ => simp [Stage.setBoard, Stage.setRoster]

namespace Scene

/-- Numbers are not given out again, time does not go back, and what has fired stays fired. -/
structure Precedes (s s' : Scene) : Prop where
  serial : s.nextSerial ≤ s'.nextSerial
  now : s.now ≤ s'.now
  fired : s.fired ⊆ s'.fired

namespace Precedes

variable {s s₁ s₂ : Scene}

theorem refl (s : Scene) : Precedes s s := ⟨Nat.le_refl _, Nat.le_refl _, List.Subset.refl _⟩

theorem trans (h₁ : Precedes s s₁) (h₂ : Precedes s₁ s₂) : Precedes s s₂ :=
  ⟨Nat.le_trans h₁.serial h₂.serial, Nat.le_trans h₁.now h₂.now,
    List.Subset.trans h₁.fired h₂.fired⟩

/-- At most a number was given out. -/
theorem of_eq (hserial : s.nextSerial ≤ s₁.nextSerial) (hclock : s₁.clock = s.clock)
    (hfired : s₁.fired = s.fired) : Precedes s s₁ :=
  ⟨hserial, Nat.le_of_eq (congrArg Clock.steady hclock.symm), hfired ▸ List.Subset.refl _⟩

theorem isCancelled (h : Precedes s s₁) {t : Token} (hcancelled : s.isCancelled t = true) :
    s₁.isCancelled t = true := by
  simp only [Scene.isCancelled, Token.isCancelled, Bool.or_eq_true, List.any_eq_true,
    List.contains_iff_mem] at hcancelled ⊢
  rcases hcancelled with hown | ⟨ancestor, hancestor, hfired⟩
  · exact .inl (h.fired hown)
  · exact .inr ⟨ancestor, hancestor, h.fired hfired⟩

end Precedes

/-- Nothing happened to the stage, and nothing that belongs to the story. -/
structure Aside (s s' : Scene) : Prop extends Precedes s s' where
  stage : s'.stage = s.stage
  story : s'.story = s.story

/-- One act took place. -/
structure Performs (act : Act) (s s' : Scene) : Prop extends Precedes s s' where
  stage : s.stage.Becomes act s'.stage
  story : s'.story = act.events ++ s.story
  /-- A core that is made gets a number of its own. -/
  mint : ∀ core, act = .minted core →
    s.nextSerial ≤ core.serial ∧ core.serial < s'.nextSerial

/-- One scene came of another by acts that `may` allows on the stage as it is before them; `events`,
newest first, is what was added to the story. -/
inductive ActSequence (may : Stage → Act → Prop) (s : Scene) : List Event → Scene → Prop
  | refl : ActSequence may s [] s
  | aside {events : List Event} {s₁ s₂ : Scene} (hacts : ActSequence may s events s₁)
      (haside : Aside s₁ s₂) : ActSequence may s events s₂
  | act {events : List Event} {act : Act} {s₁ s₂ : Scene} (hacts : ActSequence may s events s₁)
      (hmay : may s₁.stage act) (hperforms : Performs act s₁ s₂) : ActSequence may s (act.events ++ events) s₂

namespace ActSequence

variable {may : Stage → Act → Prop} {s s₁ s₂ : Scene} {events events' : List Event}

theorem trans (h₁ : ActSequence may s events s₁) (h₂ : ActSequence may s₁ events' s₂) :
    ActSequence may s (events' ++ events) s₂ := by
  induction h₂ with
  | refl => exact h₁
  | aside _ haside ih => exact ih.aside haside
  | act _ hmay hperforms ih =>
    rw [List.append_assoc]
    exact ih.act hmay hperforms

theorem mono {may' : Stage → Act → Prop} (hmay : ∀ st act, may st act → may' st act)
    (hacts : ActSequence may s events s₁) : ActSequence may' s events s₁ := by
  induction hacts with
  | refl => exact .refl
  | aside _ haside ih => exact ih.aside haside
  | act _ hact hperforms ih => exact ih.act (hmay _ _ hact) hperforms

theorem story_eq (hacts : ActSequence may s events s₁) : s₁.story = events ++ s.story := by
  induction hacts with
  | refl => rfl
  | aside _ haside ih => rw [haside.story, ih]
  | act _ _ hperforms ih => rw [hperforms.story, ih, List.append_assoc]

theorem precedes (hacts : ActSequence may s events s₁) : s.Precedes s₁ := by
  induction hacts with
  | refl => exact .refl s
  | aside _ haside ih => exact ih.trans haside.toPrecedes
  | act _ _ hperforms ih => exact ih.trans hperforms.toPrecedes

theorem serial_le (hacts : ActSequence may s events s₁) : s.nextSerial ≤ s₁.nextSerial :=
  hacts.precedes.serial

theorem length_boards_le (hacts : ActSequence may s events s₁) :
    s.stage.boards.length ≤ s₁.stage.boards.length := by
  induction hacts with
  | refl => exact Nat.le_refl _
  | aside _ haside ih =>
    rw [haside.stage]
    exact ih
  | act _ _ hperforms ih => exact Nat.le_trans ih hperforms.stage.length_boards_le

/-- Every event belongs to an act that was allowed. -/
theorem of_mem_events (hacts : ActSequence may s events s₁) {e : Event} (he : e ∈ events) :
    ∃ st act, may st act ∧ e ∈ act.events := by
  induction hacts with
  | refl => exact absurd he List.not_mem_nil
  | aside _ _ ih => exact ih he
  | act _ hmay _ ih =>
    rcases List.mem_append.mp he with hnew | hold
    · exact ⟨_, _, hmay, hnew⟩
    · exact ih hold

/-- Whatever the acts tell is among the events. -/
theorem told (hacts : ActSequence may s events s₁) :
    ActSequence (fun st act => may st act ∧ act.events ⊆ events) s events s₁ := by
  induction hacts with
  | refl => exact .refl
  | aside _ haside ih => exact ih.aside haside
  | @act events act s₁ s₂ _ hmay hperforms ih =>
    have hbefore : ActSequence
      (fun st act' => may st act' ∧ act'.events ⊆ act.events ++ events) s events s₁ :=
      ih.mono fun st act' h => ⟨h.1, List.Subset.trans h.2 (List.subset_append_right _ _)⟩
    exact hbefore.act ⟨hmay, List.subset_append_left _ _⟩ hperforms

theorem keeps {P : Scene → Prop} (hacts : ActSequence may s events s₁)
    (haside : ∀ a b, Aside a b → P a → P b)
    (hact : ∀ act a b, may a.stage act → Performs act a b → P a → P b) (hs : P s) :
    P s₁ := by
  induction hacts with
  | refl => exact hs
  | aside _ h ih => exact haside _ _ h ih
  | act _ hmay hperforms ih => exact hact _ _ _ hmay hperforms ih

end ActSequence

end Scene

end CoreBroker
