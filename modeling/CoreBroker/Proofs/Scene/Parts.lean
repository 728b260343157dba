import CoreBroker.Proofs.Scene.Stage
set_option autoImplicit false

/-!
# One registry and one roster on the stage

What an act does to the whole stage is stated once; here is what it does to a single registry with its
announcements, and to a single roster.  Neither is ever taken away.
-/

namespace CoreBroker

namespace Act

/-- What an act does to the registry `b` and to its announcements. -/
inductive RegistryEffect (act : Act) (b : Nat) : Registry Core → Channel Statistics → Registry Core →
    Channel Statistics → Prop
  | kept {g : Registry Core} {changes : Channel Statistics} : RegistryEffect act b g changes g changes
  | changed {g g' : Registry Core} {changes : Channel Statistics} {change : RegistryChange Core}
      (hact : act = .changed b change) (hbecomes : g.Becomes change g') :
      RegistryEffect act b g changes g'
        (if g.isAnnounced change then (changes.announce g'.statistics).2 else changes)
  | looked {g : Registry Core} {changes after : Channel Statistics} {r : Nat}
      (hact : act = .looked b r) (hattends : Channel.Attends r changes after) :
      RegistryEffect act b g changes g after
  | left {g : Registry Core} {changes : Channel Statistics} {r : Nat} (hact : act = .left b r) :
      RegistryEffect act b g changes g (changes.unsubscribe r)
  | joined {g : Registry Core} {changes : Channel Statistics} (hact : act = .joined b) :
      RegistryEffect act b g changes g changes.subscribe.2

/-- What an act does to the roster `i` and to its announcements. -/
inductive RosterEffect (act : Act) (i : Nat) : List ProviderRef → Channel RosterChange →
    List ProviderRef → Channel RosterChange → Prop
  | kept {members : List ProviderRef} {changes : Channel RosterChange} :
      RosterEffect act i members changes members changes
  | announced {members members' : List ProviderRef} {changes : Channel RosterChange}
      (change : RosterChange) :
      RosterEffect act i members changes members' (changes.announce change).2
  | looked {members : List ProviderRef} {changes after : Channel RosterChange} {r : Nat}
      (hact : act = .lookedAtRoster i r) (hattends : Channel.Attends r changes after) :
      RosterEffect act i members changes members after
  | left {members : List ProviderRef} {changes : Channel RosterChange} {r : Nat}
      (hact : act = .leftRoster i r) :
      RosterEffect act i members changes members (changes.unsubscribe r)
  | joined {members : List ProviderRef} {changes : Channel RosterChange} :
      RosterEffect act i members changes members changes.subscribe.2

end Act

namespace Stage

variable {st st' : Stage} {act : Act}

theorem board_of_setBoard {b k : Nat} {g g₁ : Registry Core} {changes changes₁ : Channel Statistics}
    (hb : st.boards[b]? = some (g₁, changes₁)) (hk : st.boards[k]? = some (g, changes))
    {y : Registry Core × Channel Statistics} :
    (b = k ∧ g₁ = g ∧ changes₁ = changes ∧ (st.setBoard b y).boards[k]? = some y) ∨
      (st.setBoard b y).boards[k]? = some (g, changes) := by
  by_cases hbk : b = k
  · subst hbk
    rw [hb] at hk
    cases hk
    exact .inl ⟨rfl, rfl, rfl, List.getElem?_set_self (List.getElem?_eq_some_iff.mp hb).1⟩
  · exact .inr ((List.getElem?_set_ne hbk).trans hk)

theorem roster_of_setRoster {i k : Nat} {members members₁ : List ProviderRef}
    {changes changes₁ : Channel RosterChange} (hi : st.rosters[i]? = some (members₁, changes₁))
    (hk : st.rosters[k]? = some (members, changes)) {y : List ProviderRef × Channel RosterChange} :
    (i = k ∧ members₁ = members ∧ changes₁ = changes ∧ (st.setRoster i y).rosters[k]? = some y) ∨
      (st.setRoster i y).rosters[k]? = some (members, changes) := by
  by_cases hik : i = k
  · subst hik
    rw [hi] at hk
    cases hk
    exact .inl ⟨rfl, rfl, rfl, List.getElem?_set_self (List.getElem?_eq_some_iff.mp hi).1⟩
  · exact .inr ((List.getElem?_set_ne hik).trans hk)

theorem Becomes.registryEffect (hact : st.Becomes act st') {k : Nat} {g : Registry Core}
    {changes : Channel Statistics} (hk : st.boards[k]? = some (g, changes)) :
    ∃ g' changes', st'.boards[k]? = some (g', changes') ∧ act.RegistryEffect k g changes g' changes' := by
  cases hact with
  | changed hboard hbecomes =>
    rcases board_of_setBoard hboard hk with ⟨rfl, rfl, rfl, hk'⟩ | hk'
    · exact ⟨_, _, hk', .changed rfl hbecomes⟩
    · exact ⟨_, _, hk', .kept⟩
  | looked hboard hattends =>
    rcases board_of_setBoard hboard hk with ⟨rfl, rfl, rfl, hk'⟩ | hk'
    · exact ⟨_, _, hk', .looked rfl hattends⟩
    · exact ⟨_, _, hk', .kept⟩
  | left hboard =>
    rcases board_of_setBoard hboard hk with ⟨rfl, rfl, rfl, hk'⟩ | hk'
    · exact ⟨_, _, hk', .left rfl⟩
    · exact ⟨_, _, hk', .kept⟩
  | joined hboard =>
    rcases board_of_setBoard hboard hk with ⟨rfl, rfl, rfl, hk'⟩ | hk'
    · exact ⟨_, _, hk', .joined rfl⟩
    · exact ⟨_, _, hk', .kept⟩
  | founded =>
    have hlt := (List.getElem?_eq_some_iff.mp hk).1
    exact ⟨_, _, (List.getElem?_append_left hlt).trans hk, .kept⟩
  | _ => exact ⟨_, _, hk, .kept⟩

theorem Becomes.rosterEffect (hact : st.Becomes act st') {k : Nat} {members : List ProviderRef}
    {changes : Channel RosterChange} (hk : st.rosters[k]? = some (members, changes)) :
    ∃ members' changes', st'.rosters[k]? = some (members', changes') ∧
      act.RosterEffect k members changes members' changes' := by
  cases hact with
  | lookedAtRoster hroster hattends =>
    rcases roster_of_setRoster hroster hk with ⟨rfl, rfl, rfl, hk'⟩ | hk'
    · exact ⟨_, _, hk', .looked rfl hattends⟩
    · exact ⟨_, _, hk', .kept⟩
  | leftRoster hroster =>
    rcases roster_of_setRoster hroster hk with ⟨rfl, rfl, rfl, hk'⟩ | hk'
    · exact ⟨_, _, hk', .left rfl⟩
    · exact ⟨_, _, hk', .kept⟩
  | joinedRoster hroster =>
    rcases roster_of_setRoster hroster hk with ⟨rfl, rfl, rfl, hk'⟩ | hk'
    · exact ⟨_, _, hk', .joined⟩
    · exact ⟨_, _, hk', .kept⟩
  | came change hroster _ _ =>
    rcases roster_of_setRoster hroster hk with ⟨rfl, rfl, rfl, hk'⟩ | hk'
    · exact ⟨_, _, hk', .announced change⟩
    · exact ⟨_, _, hk', .kept⟩
  | went change hroster =>
    rcases roster_of_setRoster hroster hk with ⟨rfl, rfl, rfl, hk'⟩ | hk'
    · exact ⟨_, _, hk', .announced change⟩
    · exact ⟨_, _, hk', .kept⟩
  | founded =>
    have hlt := (List.getElem?_eq_some_iff.mp hk).1
    exact ⟨_, _, (List.getElem?_append_left hlt).trans hk, .kept⟩
  | _ => exact ⟨_, _, hk, .kept⟩

theorem Becomes.eq_of_remarked {e : Event} (hact : st.Becomes (.remarked e) st') : st' = st := by
  cases hact
  rfl

theorem Becomes.eq_of_minted {core : Core} (hact : st.Becomes (.minted core) st') : st' = st := by
  cases hact
  rfl

theorem Becomes.mem_providers (hact : st.Becomes act st') {p : ProviderRef} (hp : p ∈ st.providers) :
    p ∈ st'.providers := by
  cases hact with
  | enlisted _ => exact List.mem_append_left _ hp
  | _ => exact hp

end Stage

theorem Scene.ActSequence.mem_providers {may : Stage → Act → Prop} {s s' : Scene} {events : List Event}
    (hacts : Scene.ActSequence may s events s') {p : ProviderRef} (hp : p ∈ s.stage.providers) :
    p ∈ s'.stage.providers := by
  refine hacts.keeps (P := fun s => p ∈ s.stage.providers) ?_ ?_ hp
  · intro a b haside ha
    rw [haside.stage]
    exact ha
  · exact fun act a b _ hperforms ha => hperforms.stage.mem_providers ha

end CoreBroker
