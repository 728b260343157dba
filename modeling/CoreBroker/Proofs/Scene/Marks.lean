import CoreBroker.Proofs.Scene.Sound
set_option autoImplicit false

/-!
# Reserved requests

A request is reserved just while somebody holds a reservation of it.  Which requests of a stage are
reserved is told by the last event that reserved them or gave the reservation up.
-/

namespace CoreBroker

/-- Whether the event leaves the request `id` of the registry `b` reserved, if it says so. -/
def Event.marks? (b id : Nat) : Event → Option Bool
  | .changed board (.reserved n) => if board = b ∧ n = id then some true else none
  | .changed board (.unreserved n) => if board = b ∧ n = id then some false else none
  | _ => none

/-- Whether the events, newest first, leave the request reserved, if they say so. -/
def lastMark (b id : Nat) (events : List Event) : Option Bool := events.findSome? (·.marks? b id)

/-- The request `id` of the registry `b` is reserved. -/
def Stage.IsMarked (st : Stage) (b id : Nat) : Prop :=
  ∃ g changes, st.boards[b]? = some (g, changes) ∧
    ∃ r ∈ g.requests, r.id = id ∧ r.isReserved = true

section LastMark

variable {b id : Nat} {events events' : List Event}

theorem lastMark_append (b id : Nat) (events events' : List Event) :
    lastMark b id (events ++ events') = (lastMark b id events).or (lastMark b id events') :=
  List.findSome?_append

/-- Events that do not reserve the request do not leave it reserved. -/
theorem lastMark_ne_true (hnone : .changed b (.reserved id) ∉ events) :
    lastMark b id events ≠ some true := by
  intro hmark
  obtain ⟨e, he, hmarks⟩ := List.exists_of_findSome?_eq_some hmark
  unfold Event.marks? at hmarks
  split at hmarks
  · split at hmarks
    · rename_i hsame
      obtain ⟨rfl, rfl⟩ := hsame
      exact hnone he
    · exact absurd hmarks (by simp)
  · split at hmarks <;> exact absurd hmarks (by simp)
  · exact absurd hmarks (by simp)

theorem not_unreserved_of_lastMark (hmark : lastMark b id events = none) :
    .changed b (.unreserved id) ∉ events := by
  intro he
  have hnone := List.findSome?_eq_none_iff.mp hmark _ he
  simp [Event.marks?] at hnone

end LastMark

namespace Registry

variable {κ : Type} {g g' : Registry κ}

/-- A request of a changed registry that is reserved was so before, or is just being reserved. -/
theorem isReserved_of_becomes (hids : (g.requests.map (·.id)).Nodup) {change : RegistryChange κ}
    (hbecomes : g.Becomes change g') {r : Request κ} (hmem : r ∈ g'.requests)
    (hreserved : r.isReserved = true) : change = .reserved r.id ∨
      (change ≠ .unreserved r.id ∧ ∃ q ∈ g.requests, q.id = r.id ∧ q.isReserved = true) := by
  have hmodified : ∀ (n : Nat) (f : Request κ → Request κ),
      (∀ q ∈ g.requests, q.id = n → (f q).id = q.id ∧ (f q).isReserved = q.isReserved) →
      r ∈ (g.modify n f).requests → ∃ q ∈ g.requests, q.id = r.id ∧ q.isReserved = true := by
    intro n f hf hr
    obtain ⟨q, hq, rfl⟩ := mem_modify.mp hr
    refine ⟨q, hq, ?_⟩
    by_cases hn : q.id = n
    · have hqn : (q.id == n) = true := beq_iff_eq.mpr hn
      obtain ⟨hid, hsame⟩ := hf q hq hn
      rw [if_pos hqn] at hreserved ⊢
      exact ⟨hid.symm, hsame ▸ hreserved⟩
    · rw [if_neg (by simpa using hn)] at hreserved ⊢
      exact ⟨rfl, hreserved⟩
  cases hbecomes with
  | entered _ hfresh =>
    rcases List.mem_append.mp hmem with hold | hnew
    · exact .inr ⟨by simp, r, hold, rfl, hreserved⟩
    · rw [List.mem_singleton.mp hnew, hfresh.isReserved] at hreserved
      exact absurd hreserved Bool.false_ne_true
  | assigned hassign =>
    obtain ⟨q, q', hget, hq, rfl⟩ := assign_eq_ok hassign
    obtain ⟨hqmem, hqid⟩ := get?_eq_some hget
    refine .inr ⟨by simp, hmodified _ _ (fun p hp hid => ?_) hmem⟩
    rw [List.inj_on_of_nodup_map hids hp hqmem (hid.trans hqid.symm)]
    rw [Request.eq_of_assign hq]
    exact ⟨rfl, rfl⟩
  | taken _ _ => exact .inr ⟨by simp, hmodified _ (·.withoutCore) (fun _ _ _ => ⟨rfl, rfl⟩) hmem⟩
  | disposed _ => exact .inr ⟨by simp, hmodified _ (·.disposed) (fun _ _ _ => ⟨rfl, rfl⟩) hmem⟩
  | @reserved p hp _ =>
    by_cases hid : p.id = r.id
    · exact .inl (by rw [hid])
    · refine .inr ⟨by simp, ?_⟩
      obtain ⟨q, hq, rfl⟩ := mem_modify.mp hmem
      by_cases hqp : q.id = p.id
      · exact absurd (by simp [hqp]) hid
      · rw [if_neg (by simpa using hqp)] at hreserved ⊢
        exact ⟨q, hq, rfl, hreserved⟩
  | @unreserved n =>
    obtain ⟨q, hq, rfl⟩ := mem_modify.mp hmem
    by_cases hqn : q.id = n
    · rw [if_pos (by simpa using hqn)] at hreserved
      exact absurd hreserved Bool.false_ne_true
    · rw [if_neg (by simpa using hqn)] at hreserved ⊢
      exact .inr ⟨by simpa using fun h => hqn h.symm, q, hq, rfl, hreserved⟩

end Registry

namespace Stage

variable {st st' : Stage} {act : Act} {b id : Nat}

/-- Changing the announcements of a registry reserves nothing. -/
theorem isMarked_of_setBoard {k : Nat} {g : Registry Core} {changes after : Channel Statistics}
    (hboard : st.boards[k]? = some (g, changes)) (hmarked : (st.setBoard k (g, after)).IsMarked b id) :
    st.IsMarked b id := by
  obtain ⟨g', changes', hboard', hr⟩ := hmarked
  by_cases hkb : k = b
  · subst hkb
    have hlt : k < st.boards.length := (List.getElem?_eq_some_iff.mp hboard).1
    simp only [setBoard, List.getElem?_set_self hlt, Option.some.injEq, Prod.mk.injEq] at hboard'
    exact ⟨g, changes, hboard, hboard'.1 ▸ hr⟩
  · simp only [setBoard, List.getElem?_set_ne hkb] at hboard'
    exact ⟨g', changes', hboard', hr⟩

/-- A request that is reserved after an act was so before, unless the act reserves it. -/
theorem Becomes.isMarked (hst : st.IsSound) (hact : st.Becomes act st')
    (hmarked : st'.IsMarked b id) :
    lastMark b id act.events = some true ∨ (lastMark b id act.events = none ∧ st.IsMarked b id) := by
  cases hact with
  | remarked hremark =>
    refine .inr ⟨?_, hmarked⟩
    rw [Act.events, lastMark, List.findSome?_singleton]
    unfold Event.isRemark at hremark
    split at hremark <;> first | rfl | exact absurd hremark Bool.false_ne_true
  | minted => exact .inr ⟨rfl, hmarked⟩
  | @changed k change g g' changes hboard hbecomes =>
    rw [Act.events, lastMark, List.findSome?_singleton]
    obtain ⟨g₁, changes₁, hboard₁, r, hr, rfl, hreserved⟩ := hmarked
    by_cases hkb : k = b
    · subst hkb
      have hlt : k < st.boards.length := (List.getElem?_eq_some_iff.mp hboard).1
      simp only [setBoard, List.getElem?_set_self hlt, Option.some.injEq, Prod.mk.injEq] at hboard₁
      obtain ⟨rfl, -⟩ := hboard₁
      rcases Registry.isReserved_of_becomes (hst.requests hboard).1 hbecomes hr hreserved with
        rfl | ⟨hnot, hbefore⟩
      · exact .inl (by simp [Event.marks?])
      · by_cases hthis : change = .reserved r.id
        · exact .inl (by simp [Event.marks?, hthis])
        · refine .inr ⟨?_, g, changes, hboard, hbefore⟩
          unfold Event.marks?
          split
          · rename_i n heq
            cases heq
            exact if_neg fun h => hthis (by rw [h.2])
          · rename_i n heq
            cases heq
            exact if_neg fun h => hnot (by rw [h.2])
          · rfl
    · simp only [setBoard, List.getElem?_set_ne hkb] at hboard₁
      refine .inr ⟨?_, g₁, changes₁, hboard₁, r, hr, rfl, hreserved⟩
      unfold Event.marks?
      split
      · rename_i heq
        cases heq
        exact if_neg fun h => hkb h.1
      · rename_i heq
        cases heq
        exact if_neg fun h => hkb h.1
      · rfl
  | looked hboard _ => exact .inr ⟨rfl, isMarked_of_setBoard hboard hmarked⟩
  | left hboard => exact .inr ⟨rfl, isMarked_of_setBoard hboard hmarked⟩
  | joined hboard => exact .inr ⟨rfl, isMarked_of_setBoard hboard hmarked⟩
  | founded =>
    refine .inr ⟨rfl, ?_⟩
    obtain ⟨g, changes, hboard, hr⟩ := hmarked
    rcases Nat.lt_or_ge b st.boards.length with hlt | hge
    · rw [List.getElem?_append_left hlt] at hboard
      exact ⟨g, changes, hboard, hr⟩
    · rw [List.getElem?_append_right hge, List.getElem?_singleton] at hboard
      split at hboard
      · cases hboard
        obtain ⟨r, hr, -⟩ := hr
        exact absurd hr List.not_mem_nil
      · exact absurd hboard (by simp)
  | _ => exact .inr ⟨rfl, hmarked⟩

end Stage

/-- A request that is reserved afterwards was so before and has stayed so, unless the events leave it
reserved. -/
theorem Scene.ActSequence.isMarked {may : Stage → Act → Prop} {s s' : Scene} {events : List Event}
    (hs : s.stage.IsSound) (hacts : Scene.ActSequence may s events s') {b id : Nat}
    (hmarked : s'.stage.IsMarked b id) :
    lastMark b id events = some true ∨ (lastMark b id events = none ∧ s.stage.IsMarked b id) := by
  induction hacts with
  | refl => exact .inr ⟨rfl, hmarked⟩
  | aside _ haside ih => exact ih (haside.stage ▸ hmarked)
  | act hacts _ hperforms ih =>
    rw [lastMark_append]
    rcases hperforms.stage.isMarked (hacts.stage_isSound hs) hmarked with hnew | ⟨hnone, hbefore⟩
    · exact .inl (by rw [hnew]; rfl)
    · rw [hnone]
      exact ih hbefore

end CoreBroker
