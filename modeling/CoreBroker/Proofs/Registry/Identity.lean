import CoreBroker.Proofs.Runs.Keeping
import CoreBroker.Proofs.Scene.Parts
set_option autoImplicit false

/-!
# What a request is for good

A request is never taken out of the list of its registry, and whatever becomes of it, its number, its
preference and the time of its creation are those it was entered with.
-/

namespace CoreBroker

/-- The request is what it was, whatever has become of it. -/
structure Request.Lasts {κ : Type} (r r' : Request κ) : Prop where
  id : r'.id = r.id
  preference : r'.preference = r.preference
  createdAt : r'.createdAt = r.createdAt

namespace Request.Lasts

variable {κ : Type} {r r' r'' : Request κ}

theorem refl (r : Request κ) : r.Lasts r := ⟨rfl, rfl, rfl⟩

theorem trans (h : r.Lasts r') (h' : r'.Lasts r'') : r.Lasts r'' :=
  ⟨h'.id.trans h.id, h'.preference.trans h.preference, h'.createdAt.trans h.createdAt⟩

theorem age_le (h : r.Lasts r') {now later : Nat} (hle : now ≤ later) : r.age now ≤ r'.age later := by
  rw [age, age, h.createdAt]
  exact Nat.sub_le_sub_right hle _

end Request.Lasts

namespace Registry

variable {κ : Type} {g g' : Registry κ} {id : Nat}

theorem get?_modify {n : Nat} {f : Request κ → Request κ} (hf : ∀ r, r.id = n → (f r).id = n) :
    (g.modify n f).get? id = (g.get? id).map fun r => if r.id == n then f r else r := by
  have hid : ∀ r : Request κ, (if r.id == n then f r else r).id = r.id := fun r => by
    split
    · rename_i hn
      exact (hf r (eq_of_beq hn)).trans (eq_of_beq hn).symm
    · rfl
  simp only [get?, modify, List.find?_map]
  congr 2
  funext r
  simp only [Function.comp_apply, hid]

/-- One request of a registry is changed into what it was. -/
theorem lasts_modify {n : Nat} {f : Request κ → Request κ} {r : Request κ}
    (hf : ∀ r, r.id = n → (f r).id = n) (hget : g.get? id = some r)
    (hlasts : r.id = n → r.Lasts (f r)) :
    ∃ r', (g.modify n f).get? id = some r' ∧ r.Lasts r' := by
  refine ⟨if r.id == n then f r else r, by rw [get?_modify hf, hget, Option.map_some], ?_⟩
  split
  · rename_i hn
    exact hlasts (eq_of_beq hn)
  · exact .refl r

/-- No change of a registry changes what a request is. -/
theorem Becomes.lasts {change : RegistryChange κ} (hbecomes : g.Becomes change g') {r : Request κ}
    (hget : g.get? id = some r) : ∃ r', g'.get? id = some r' ∧ r.Lasts r' := by
  cases hbecomes with
  | entered hnew _ =>
    refine ⟨r, ?_, .refl r⟩
    unfold get? at hget ⊢
    rw [enter, List.find?_append, hget, Option.some_or]
  | @assigned _ n core hassign =>
    obtain ⟨q, q', hq, hassigned, rfl⟩ := assign_eq_ok hassign
    have hq' := Request.eq_of_assign hassigned
    have hqid : q'.id = n := by
      rw [hq']
      exact (get?_eq_some hq).2
    refine lasts_modify (fun _ _ => hqid) hget fun hn => ?_
    have hsame : r = q := by
      obtain rfl : id = n := (get?_eq_some hget).2.symm.trans hn
      exact Option.some.inj (hget.symm.trans hq)
    rw [hq', hsame]
    exact ⟨rfl, rfl, rfl⟩
  | taken _ _ => exact lasts_modify (fun _ h => h) hget fun _ => ⟨rfl, rfl, rfl⟩
  | disposed _ => exact lasts_modify (fun _ h => h) hget fun _ => ⟨rfl, rfl, rfl⟩
  | reserved _ _ => exact lasts_modify (fun _ h => h) hget fun _ => ⟨rfl, rfl, rfl⟩
  | unreserved => exact lasts_modify (fun _ h => h) hget fun _ => ⟨rfl, rfl, rfl⟩

end Registry

/-! ## On the stage and in runs -/

/-- The request `id` of the registry `b` is what `r` was. -/
def Stage.Bears (st : Stage) (b id : Nat) (r : Request Core) : Prop :=
  ∃ g changes r', st.boards[b]? = some (g, changes) ∧ g.get? id = some r' ∧ r.Lasts r'

namespace Scene

variable {s s' : Scene} {b id : Nat} {r : Request Core}

theorem request?_of_board {g : Registry Core} {changes : Channel Statistics}
    (hboard : s.stage.boards[b]? = some (g, changes)) : s.request? b id = g.get? id := by
  obtain ⟨board, hfound, rfl, -⟩ := board_of_stage hboard
  rw [request?, hfound, Option.bind_some]

theorem bears_iff : s.stage.Bears b id r ↔ ∃ r', s.request? b id = some r' ∧ r.Lasts r' := by
  constructor
  · rintro ⟨g, changes, r', hboard, hget, hlasts⟩
    exact ⟨r', (request?_of_board hboard).trans hget, hlasts⟩
  · rintro ⟨r', hrequest, hlasts⟩
    obtain ⟨board, hboard, hget⟩ := Option.bind_eq_some_iff.mp hrequest
    exact ⟨board.registry, board.changes, r', stage_board hboard, hget, hlasts⟩

/-- Whatever is done, a request is what it was. -/
theorem ActSequence.bears {may : Stage → Act → Prop} {events : List Event}
    (hacts : ActSequence may s events s') (hbears : s.stage.Bears b id r) : s'.stage.Bears b id r := by
  refine hacts.keeps (P := fun s => s.stage.Bears b id r) (fun _ _ haside h => ?_)
    (fun _ _ _ _ hperforms h => ?_) hbears
  · rw [haside.stage]
    exact h
  · obtain ⟨g, changes, r', hboard, hget, hlasts⟩ := h
    obtain ⟨g', changes', hboard', heffect⟩ := hperforms.stage.registryEffect hboard
    cases heffect with
    | changed _ hbecomes =>
      obtain ⟨r'', hget', hlasts'⟩ := hbecomes.lasts hget
      exact ⟨g', _, r'', hboard', hget', hlasts.trans hlasts'⟩
    | _ => exact ⟨_, _, r', hboard', hget, hlasts⟩

end Scene

/-- However a run goes on, a request is what it was. -/
theorem request_lasts {chance : Chance} {moves : List Move} {b id : Nat} {r : Request Core}
    (hrequest : (run chance moves).world.scene.request? b id = some r) (later : List Move) :
    ∃ r', (run chance (moves ++ later)).world.scene.request? b id = some r' ∧ r.Lasts r' := by
  refine Scene.bears_iff.mp (run_goes_on (P := fun c => c.world.scene.stage.Bears b id r)
    (Scene.bears_iff.mpr ⟨r, hrequest, .refl r⟩) ?_ later)
  intro c actor events w' _ htransition hbears
  obtain ⟨may, hacts⟩ := htransition.acts
  exact hacts.bears hbears

end CoreBroker
