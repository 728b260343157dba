import CoreBroker.Proofs.Scene.Story
set_option autoImplicit false

/-!
# Sound stages

What holds of every stage that was ever set up: every registry is what some changes have made of it, no
receiver is ahead of its channel, a roster has at most one provider to an id, and the serial number of a
provider is its place among all providers.
-/

namespace CoreBroker

namespace Stage

/-- What holds of every stage. -/
structure IsSound (st : Stage) : Prop where
  courses : ∀ e ∈ st.boards, ∃ changes, Registry.Course changes e.1
  boardChannels : ∀ e ∈ st.boards, e.2.Sound
  rosterChannels : ∀ e ∈ st.rosters, e.2.Sound
  ids : ∀ e ∈ st.rosters, (e.1.map (·.id)).Nodup
  members : ∀ e ∈ st.rosters, ∀ p ∈ e.1, p ∈ st.providers
  serials : ∀ (i : Nat) (p : ProviderRef), st.providers[i]? = some p → p.serial = i

variable {st st' : Stage} {act : Act}

/-- Two provider objects with the same serial number are the same object. -/
theorem IsSound.eq_of_serial (hst : st.IsSound) {p q : ProviderRef} (hp : p ∈ st.providers)
    (hq : q ∈ st.providers) (hserial : p.serial = q.serial) : p = q := by
  obtain ⟨i, hi⟩ := List.getElem?_of_mem hp
  obtain ⟨j, hj⟩ := List.getElem?_of_mem hq
  have hij : i = j := by rw [← hst.serials i p hi, ← hst.serials j q hj, hserial]
  rw [hij, hj] at hi
  exact Option.some.inj hi.symm

theorem IsSound.requests (hst : st.IsSound) {b : Nat} {g : Registry Core}
    {changes : Channel Statistics} (hboard : st.boards[b]? = some (g, changes)) :
    (g.requests.map (·.id)).Nodup ∧ ∀ r ∈ g.requests, r.IsCoherent := by
  obtain ⟨made, hcourse⟩ := hst.courses _ (List.mem_of_getElem? hboard)
  exact ⟨hcourse.registryHistory.ids, fun r hr => (hcourse.registryHistory.requests r hr).coherent⟩

theorem IsSound.setBoard (hst : st.IsSound) {b : Nat} {g : Registry Core}
    {changes : Channel Statistics} (hcourse : ∃ made, Registry.Course made g)
    (hsound : changes.Sound) : (st.setBoard b (g, changes)).IsSound where
  courses e he := by
    rcases List.mem_or_eq_of_mem_set he with he | rfl
    · exact hst.courses e he
    · exact hcourse
  boardChannels e he := by
    rcases List.mem_or_eq_of_mem_set he with he | rfl
    · exact hst.boardChannels e he
    · exact hsound
  rosterChannels := hst.rosterChannels
  ids := hst.ids
  members := hst.members
  serials := hst.serials

theorem IsSound.setRoster (hst : st.IsSound) {r : Nat} {members : List ProviderRef}
    {changes : Channel RosterChange} (hids : (members.map (·.id)).Nodup)
    (hmembers : ∀ p ∈ members, p ∈ st.providers) (hsound : changes.Sound) :
    (st.setRoster r (members, changes)).IsSound where
  courses := hst.courses
  boardChannels := hst.boardChannels
  rosterChannels e he := by
    rcases List.mem_or_eq_of_mem_set he with he | rfl
    · exact hst.rosterChannels e he
    · exact hsound
  ids e he := by
    rcases List.mem_or_eq_of_mem_set he with he | rfl
    · exact hst.ids e he
    · exact hids
  members e he := by
    rcases List.mem_or_eq_of_mem_set he with he | rfl
    · exact hst.members e he
    · exact hmembers
  serials := hst.serials

/-- A provider whose id nobody on a roster has can join it. -/
theorem nodup_ids_concat {members : List ProviderRef} {p : ProviderRef}
    (hids : (members.map (·.id)).Nodup) (hnew : ∀ q ∈ members, q.id ≠ p.id) :
    ((members ++ [p]).map (·.id)).Nodup := by
  rw [List.map_append, List.nodup_append]
  refine ⟨hids, List.nodup_singleton _, ?_⟩
  intro a ha b hb
  obtain ⟨q, hq, rfl⟩ := List.mem_map.mp ha
  rw [List.mem_singleton.mp hb]
  exact hnew q hq

/-- A new registry has no requests, and a new roster no members. -/
theorem IsSound.founded (hst : st.IsSound) :
    IsSound { st with boards := st.boards ++ [({}, .new defaultChannelCapacity)]
                      rosters := st.rosters ++ [([], .new defaultChannelCapacity)] } where
  courses := List.forall_mem_append.mpr
    ⟨hst.courses, List.forall_mem_singleton.mpr ⟨[], .start⟩⟩
  boardChannels := List.forall_mem_append.mpr
    ⟨hst.boardChannels, List.forall_mem_singleton.mpr (Channel.sound_new _)⟩
  rosterChannels := List.forall_mem_append.mpr
    ⟨hst.rosterChannels, List.forall_mem_singleton.mpr (Channel.sound_new _)⟩
  ids := List.forall_mem_append.mpr ⟨hst.ids, List.forall_mem_singleton.mpr List.nodup_nil⟩
  members := List.forall_mem_append.mpr
    ⟨hst.members, List.forall_mem_singleton.mpr fun _ hp => absurd hp List.not_mem_nil⟩
  serials := hst.serials

/-- A new provider has the next serial number. -/
theorem IsSound.enlisted (hst : st.IsSound) {p : ProviderRef}
    (hserial : p.serial = st.providers.length) :
    IsSound { st with providers := st.providers ++ [p] } where
  courses := hst.courses
  boardChannels := hst.boardChannels
  rosterChannels := hst.rosterChannels
  ids := hst.ids
  members e he q hq := List.mem_append_left _ (hst.members e he q hq)
  serials i q hq := by
    rcases Nat.lt_or_ge i st.providers.length with hlt | hge
    · rw [List.getElem?_append_left hlt] at hq
      exact hst.serials i q hq
    · rw [List.getElem?_append_right hge] at hq
      obtain ⟨hlt, hpq⟩ := List.getElem?_eq_some_iff.mp hq
      have hi : i - st.providers.length = 0 := by simpa using hlt
      have hqp : p = q := by simpa [hi] using hpq
      rw [← hqp, hserial]
      omega

/-- Every act keeps a stage sound. -/
theorem IsSound.becomes (hst : st.IsSound) (hact : st.Becomes act st') : st'.IsSound := by
  cases hact with
  | remarked _ => exact hst
  | minted => exact hst
  | @changed b change g g' changes hboard hbecomes =>
    have hmem := List.mem_of_getElem? hboard
    obtain ⟨made, hcourse⟩ := hst.courses _ hmem
    refine hst.setBoard ⟨_, hcourse.next hbecomes⟩ ?_
    split
    · exact Channel.sound_announce (hst.boardChannels _ hmem) _
    · exact hst.boardChannels _ hmem
  | looked hboard hattends =>
    have hmem := List.mem_of_getElem? hboard
    exact hst.setBoard (hst.courses _ hmem) (hattends.sound (hst.boardChannels _ hmem))
  | left hboard =>
    have hmem := List.mem_of_getElem? hboard
    exact hst.setBoard (hst.courses _ hmem)
      (Channel.sound_unsubscribe (hst.boardChannels _ hmem) _)
  | joined hboard =>
    have hmem := List.mem_of_getElem? hboard
    exact hst.setBoard (hst.courses _ hmem) (Channel.sound_subscribe (hst.boardChannels _ hmem))
  | lookedAtRoster hroster hattends =>
    have hmem := List.mem_of_getElem? hroster
    exact hst.setRoster (hst.ids _ hmem) (hst.members _ hmem)
      (hattends.sound (hst.rosterChannels _ hmem))
  | leftRoster hroster =>
    have hmem := List.mem_of_getElem? hroster
    exact hst.setRoster (hst.ids _ hmem) (hst.members _ hmem)
      (Channel.sound_unsubscribe (hst.rosterChannels _ hmem) _)
  | joinedRoster hroster =>
    have hmem := List.mem_of_getElem? hroster
    exact hst.setRoster (hst.ids _ hmem) (hst.members _ hmem)
      (Channel.sound_subscribe (hst.rosterChannels _ hmem))
  | came change hroster hnew hprovider =>
    have hmem := List.mem_of_getElem? hroster
    refine hst.setRoster (nodup_ids_concat (hst.ids _ hmem) hnew) ?_
      (Channel.sound_announce (hst.rosterChannels _ hmem) _)
    exact List.forall_mem_append.mpr ⟨hst.members _ hmem, List.forall_mem_singleton.mpr hprovider⟩
  | @went i p members changes change hroster =>
    have hmem := List.mem_of_getElem? hroster
    have hsublist : (members.eraseP (·.id == p.id)).Sublist members := List.eraseP_sublist
    refine hst.setRoster ((hst.ids _ hmem).sublist (hsublist.map _)) ?_
      (Channel.sound_announce (hst.rosterChannels _ hmem) _)
    exact fun q hq => hst.members _ hmem q (hsublist.subset hq)
  | founded => exact hst.founded
  | enlisted hserial => exact hst.enlisted hserial

end Stage

/-- What holds of every scene: its stage is sound, the story tells what was changed of every registry, and
a core that was made has a number of its own. -/
structure Scene.IsSound (s : Scene) : Prop where
  stage : s.stage.IsSound
  told : ∀ b g changes, s.stage.boards[b]? = some (g, changes) →
    Registry.Course (changesOf b s.story) g
  untold : ∀ b, s.stage.boards.length ≤ b → changesOf b s.story = []
  serials : ∀ core, .minted core ∈ s.story → core.serial < s.nextSerial
  once : ∀ core, s.story.count (.minted core) ≤ 1

namespace Scene

variable {s s' : Scene}

theorem IsSound.aside (hs : s.IsSound) (haside : s.Aside s') : s'.IsSound := by
  refine ⟨?_, ?_, ?_, ?_, ?_⟩
  · rw [haside.stage]
    exact hs.stage
  · rw [haside.stage, haside.story]
    exact hs.told
  · rw [haside.stage, haside.story]
    exact hs.untold
  · rw [haside.story]
    exact fun core hcore => Nat.lt_of_lt_of_le (hs.serials core hcore) haside.serial
  · rw [haside.story]
    exact hs.once

/-- Acts that add nothing to the story and change no request. -/
theorem told_of_setBoard (hs : s.IsSound) {b : Nat} {g : Registry Core}
    {changes after : Channel Statistics} (hboard : s.stage.boards[b]? = some (g, changes)) :
    (∀ k g' changes', (s.stage.setBoard b (g, after)).boards[k]? = some (g', changes') →
      Registry.Course (changesOf k s.story) g') ∧
    ∀ k, (s.stage.setBoard b (g, after)).boards.length ≤ k → changesOf k s.story = [] := by
  constructor
  · intro k g' changes' hk
    by_cases hbk : b = k
    · subst hbk
      have hlt : b < s.stage.boards.length := (List.getElem?_eq_some_iff.mp hboard).1
      simp only [Stage.setBoard, List.getElem?_set_self hlt, Option.some.injEq, Prod.mk.injEq] at hk
      rw [← hk.1]
      exact hs.told b g changes hboard
    · simp only [Stage.setBoard, List.getElem?_set_ne hbk] at hk
      exact hs.told k g' changes' hk
  · intro k hk
    simp only [Stage.setBoard, List.length_set] at hk
    exact hs.untold k hk

/-- Every act keeps the story and the registries in line. -/
theorem IsSound.told_of_performs (hs : s.IsSound) {act : Act} (hperforms : Performs act s s') :
    (∀ b g changes, s'.stage.boards[b]? = some (g, changes) →
      Registry.Course (changesOf b s'.story) g) ∧
    ∀ b, s'.stage.boards.length ≤ b → changesOf b s'.story = [] := by
  have hstory := hperforms.story
  have hbecomes := hperforms.stage
  rw [hstory]
  generalize s'.stage = after at hbecomes
  cases hbecomes with
  | remarked hremark =>
    simp only [Act.events, List.singleton_append, changesOf_remark hremark]
    exact ⟨hs.told, hs.untold⟩
  | minted =>
    simp only [Act.events, List.singleton_append, changesOf_minted]
    exact ⟨hs.told, hs.untold⟩
  | @changed b change g g' changes hboard hchange =>
    have hlt : b < s.stage.boards.length := (List.getElem?_eq_some_iff.mp hboard).1
    simp only [Act.events, List.singleton_append]
    constructor
    · intro k g'' changes'' hk
      by_cases hbk : b = k
      · subst hbk
        simp only [Stage.setBoard, List.getElem?_set_self hlt, Option.some.injEq,
          Prod.mk.injEq] at hk
        rw [changesOf_changed, ← hk.1]
        exact (hs.told b g changes hboard).next hchange
      · simp only [Stage.setBoard, List.getElem?_set_ne hbk] at hk
        rw [changesOf_changed_ne hbk]
        exact hs.told k g'' changes'' hk
    · intro k hk
      simp only [Stage.setBoard, List.length_set] at hk
      rw [changesOf_changed_ne (by omega)]
      exact hs.untold k hk
  | looked hboard _ => exact told_of_setBoard hs hboard
  | left hboard => exact told_of_setBoard hs hboard
  | joined hboard => exact told_of_setBoard hs hboard
  | founded =>
    constructor
    · intro k g changes hk
      rcases Nat.lt_or_ge k s.stage.boards.length with hlt | hge
      · rw [List.getElem?_append_left hlt] at hk
        exact hs.told k g changes hk
      · rw [List.getElem?_append_right hge, List.getElem?_singleton] at hk
        split at hk
        · simp only [Option.some.injEq, Prod.mk.injEq] at hk
          rw [← hk.1]
          show Registry.Course (changesOf k s.story) {}
          rw [hs.untold k hge]
          exact .start
        · exact absurd hk (by simp)
    · intro k hk
      refine hs.untold k ?_
      simp only [List.length_append] at hk
      omega
  | lookedAtRoster _ _ => exact ⟨hs.told, hs.untold⟩
  | leftRoster _ => exact ⟨hs.told, hs.untold⟩
  | joinedRoster _ => exact ⟨hs.told, hs.untold⟩
  | came _ _ _ _ => exact ⟨hs.told, hs.untold⟩
  | went _ _ => exact ⟨hs.told, hs.untold⟩
  | enlisted _ => exact ⟨hs.told, hs.untold⟩

/-- What makes a core is the act of making it. -/
theorem minted_of_mem_events {act : Act} {core : Core} {st st' : Stage}
    (hbecomes : st.Becomes act st') (hmem : .minted core ∈ act.events) : act = .minted core := by
  cases hbecomes with
  | remarked hremark =>
    rw [Act.events, List.mem_singleton] at hmem
    rw [← hmem] at hremark
    exact absurd hremark Bool.false_ne_true
  | minted =>
    rw [Act.events, List.mem_singleton, Event.minted.injEq] at hmem
    rw [hmem]
  | changed _ _ => simp [Act.events] at hmem
  | _ => exact absurd hmem List.not_mem_nil

theorem IsSound.performs (hs : s.IsSound) {act : Act} (hperforms : Performs act s s') :
    s'.IsSound := by
  obtain ⟨htold, huntold⟩ := hs.told_of_performs hperforms
  refine ⟨hs.stage.becomes hperforms.stage, htold, huntold, ?_, ?_⟩
  · intro core hcore
    rw [hperforms.story] at hcore
    rcases List.mem_append.mp hcore with hnew | hold
    · exact (hperforms.mint core (minted_of_mem_events hperforms.stage hnew)).2
    · exact Nat.lt_of_lt_of_le (hs.serials core hold) hperforms.serial
  · intro core
    rw [hperforms.story, List.count_append]
    by_cases hnew : .minted core ∈ act.events
    · have hact := minted_of_mem_events hperforms.stage hnew
      have hbound := (hperforms.mint core hact).1
      have hold : s.story.count (.minted core) = 0 := by
        rw [List.count_eq_zero]
        exact fun hmem => absurd (hs.serials core hmem) (by omega)
      rw [hold, hact]
      simp [Act.events]
    · rw [List.count_eq_zero.mpr hnew, Nat.zero_add]
      exact hs.once core

theorem ActSequence.isSound {may : Stage → Act → Prop} {events : List Event}
    (hacts : ActSequence may s events s') (hs : s.IsSound) : s'.IsSound :=
  hacts.keeps (P := IsSound) (fun _ _ haside ha => ha.aside haside)
    (fun _ _ _ _ hperforms ha => ha.performs hperforms) hs

end Scene

theorem Scene.ActSequence.stage_isSound {may : Stage → Act → Prop} {s s' : Scene} {events : List Event}
    (hacts : Scene.ActSequence may s events s') (hs : s.stage.IsSound) : s'.stage.IsSound := by
  refine hacts.keeps (P := fun s => s.stage.IsSound) ?_ ?_ hs
  · intro a b haside ha
    rw [haside.stage]
    exact ha
  · exact fun act a b _ hperforms ha => ha.becomes hperforms.stage

end CoreBroker
