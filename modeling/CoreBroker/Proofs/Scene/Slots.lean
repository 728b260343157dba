import CoreBroker.Proofs.Scene.Sound
set_option autoImplicit false

/-!
# Cores in requests

Whatever is put into the slot of a request is in the slot of some request until it is taken out or
disposed of with the request.
-/

namespace CoreBroker

/-- How many requests of a registry have the core in their slots. -/
def Registry.slots (g : Registry Core) (core : Core) : Nat :=
  g.requests.countP fun r => r.core == some core

namespace Stage

/-- How many requests have the core in their slots. -/
def slots (st : Stage) (core : Core) : Nat := (st.boards.map fun e => e.1.slots core).sum

/-- How often the request `id` of the registry `b` has the core in its slot. -/
def slot (st : Stage) (b id : Nat) (core : Core) : Nat :=
  match st.boards[b]? with
  | some (g, _) => g.requests.countP fun r => r.id == id && r.core == some core
  | none => 0

end Stage

namespace Registry

variable {g g' : Registry Core}

theorem slots_modify (hids : (g.requests.map (·.id)).Nodup) {r : Request Core}
    (hmem : r ∈ g.requests) (f : Request Core → Request Core) (core : Core) :
    (g.modify r.id f).slots core + (r.core == some core).toNat =
      g.slots core + ((f r).core == some core).toNat :=
  countP_replace hids hmem rfl f fun r => r.core == some core

/-- Changing requests apart from their slots. -/
theorem slots_modify_same (g : Registry Core) (id : Nat) {f : Request Core → Request Core}
    (hf : ∀ r, (f r).core = r.core) (core : Core) : (g.modify id f).slots core = g.slots core := by
  rw [slots, modify, List.countP_map]
  refine List.countP_congr fun r _ => ?_
  by_cases hid : r.id = id
  · simp [hid, hf]
  · simp [hid]

/-- A change of a registry fills or empties the slot that it says. -/
theorem slots_becomes (hids : (g.requests.map (·.id)).Nodup)
    (hcoherent : ∀ r ∈ g.requests, r.IsCoherent) {change : RegistryChange Core}
    (hbecomes : g.Becomes change g') (b : Nat) (core : Core) :
    g'.slots core + [Event.changed b change].countP (·.takes core) +
        [Event.changed b change].countP (·.closes core) =
      g.slots core + [Event.changed b change].countP (·.assigns core) := by
  simp only [countP_cons_toNat, List.countP_nil, Nat.zero_add]
  cases hbecomes with
  | @entered r _ hfresh =>
    simp [enter, slots, hfresh.core, Event.takes, Event.closes, Event.assigns]
  | @assigned _ id c hassign =>
    obtain ⟨r, r', hget, hr, rfl⟩ := assign_eq_ok hassign
    obtain ⟨hmem, rfl⟩ := get?_eq_some hget
    have hmodify := slots_modify hids hmem (fun _ => r') core
    have hempty : r.core = none := (hcoherent r hmem).core_of_assign hr
    have hfilled : r'.core = some c := by rw [Request.eq_of_assign hr]
    simpa [Event.takes, Event.closes, Event.assigns, hempty, hfilled] using hmodify
  | @taken r id c hget hcore =>
    obtain ⟨hmem, rfl⟩ := get?_eq_some hget
    have hmodify := slots_modify hids hmem (·.withoutCore) core
    have hempty : r.withoutCore.core = none := rfl
    simpa [empty, Event.takes, Event.closes, Event.assigns, hcore, hempty] using hmodify
  | @disposed r id hget =>
    obtain ⟨hmem, rfl⟩ := get?_eq_some hget
    have hmodify := slots_modify hids hmem (·.disposed) core
    have hempty : r.disposed.core = none := rfl
    simpa [dispose, Event.takes, Event.closes, Event.assigns, hempty] using hmodify
  | @reserved r _ _ =>
    have hsame := g.slots_modify_same r.id (f := fun r => { r with isReserved := true })
      (fun _ => rfl) core
    simpa [reserve, Event.takes, Event.closes, Event.assigns] using hsame
  | @unreserved id =>
    have hsame := g.slots_modify_same id (f := fun r => { r with isReserved := false })
      (fun _ => rfl) core
    simpa [unreserve, Event.takes, Event.closes, Event.assigns] using hsame

end Registry

namespace Stage

variable {st st' : Stage} {act : Act}

theorem slots_setBoard {b : Nat} {g : Registry Core} {changes : Channel Statistics}
    (hboard : st.boards[b]? = some (g, changes)) (g' : Registry Core)
    (after : Channel Statistics) (core : Core) :
    (st.setBoard b (g', after)).slots core + g.slots core = st.slots core + g'.slots core :=
  sum_map_set hboard (g', after) fun e => e.1.slots core

/-- An act fills or empties the slots that it says. -/
theorem Becomes.slots_eq (hst : st.IsSound) (hact : st.Becomes act st') (core : Core) :
    st'.slots core + act.events.countP (·.takes core) + act.events.countP (·.closes core) =
      st.slots core + act.events.countP (·.assigns core) := by
  have hannounced : ∀ {b : Nat} {g : Registry Core} {changes after : Channel Statistics},
      st.boards[b]? = some (g, changes) → (st.setBoard b (g, after)).slots core = st.slots core := by
    intro b g changes after hboard
    have hslots := slots_setBoard hboard g after core
    omega
  cases hact with
  | @remarked e hremark =>
    have htakes : e.takes core = false := by cases e <;> first | rfl | simp [Event.isRemark] at hremark
    have hcloses : e.closes core = false := by cases e <;> first | rfl | simp [Event.isRemark] at hremark
    have hassigns : e.assigns core = false := by cases e <;> first | rfl | simp [Event.isRemark] at hremark
    simp [Act.events, htakes, hcloses, hassigns]
  | minted => simp [Act.events, Event.takes, Event.closes, Event.assigns]
  | @changed b change g g' changes hboard hbecomes =>
    obtain ⟨hids, hcoherent⟩ := hst.requests hboard
    have hregistry := Registry.slots_becomes hids hcoherent hbecomes b core
    have hslots := slots_setBoard hboard g' (if g.isAnnounced change then
      (changes.announce g'.statistics).2 else changes) core
    simp only [Act.events]
    omega
  | looked hboard _ => simpa [Act.events] using hannounced hboard
  | left hboard => simpa [Act.events] using hannounced hboard
  | joined hboard => simpa [Act.events] using hannounced hboard
  | founded => simp [Act.events, slots, Registry.slots]
  | _ => rfl

end Stage

/-- Whatever is done fills or empties the slots that its events say. -/
theorem Scene.ActSequence.slots_eq {may : Stage → Act → Prop} {s s' : Scene} {events : List Event}
    (hs : s.stage.IsSound) (hacts : Scene.ActSequence may s events s') (core : Core) :
    s'.stage.slots core + events.countP (·.takes core) + events.countP (·.closes core) =
      s.stage.slots core + events.countP (·.assigns core) := by
  induction hacts with
  | refl => rfl
  | aside _ haside ih =>
    rw [haside.stage]
    exact ih
  | act hacts _ hperforms ih =>
    have hact := hperforms.stage.slots_eq (hacts.stage_isSound hs) core
    simp only [List.countP_append]
    omega

end CoreBroker
