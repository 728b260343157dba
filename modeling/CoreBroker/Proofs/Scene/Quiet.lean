import CoreBroker.Proofs.Registry.Availability
import CoreBroker.Proofs.Scene.Boards
import CoreBroker.Proofs.Scene.Notice
set_option autoImplicit false

/-!
# What happens unnoticed

While a receiver that its owner does not look at finds nothing, no request has been entered.  So whatever is
available meanwhile was available before, or its reservation was given up.
-/

namespace CoreBroker

/-- The act does not touch the receiver `r` of the registry `b`. -/
def Act.SparesReceiver (b r : Nat) : Act → Prop
  | .looked board receiver | .left board receiver => ¬ (board = b ∧ receiver = r)
  | _ => True

theorem Act.SparesReceiver.not_leaves {b r : Nat} {act : Act} (hspares : act.SparesReceiver b r) :
    ¬ act.LeavesBoard b r := by
  cases act <;> first | exact hspares | exact fun h => h

namespace Stage

variable {st st' : Stage} {act : Act} {b r : Nat}

/-- The receiver `r` of the registry `b` finds nothing. -/
def IsQuiet (st : Stage) (b r : Nat) : Prop := (st.board b).2.isReady r = false

/-- What a receiver that finds nothing after an act may have missed. -/
theorem Becomes.quiet (hst : st.IsSound) (hact : st.Becomes act st') (hspares : act.SparesReceiver b r)
    (hserved : st.ServesBoard b r) (hquiet : st'.IsQuiet b r) :
    st.IsQuiet b r ∧ ∀ q ∈ (st'.board b).1.candidates .all,
      q ∈ (st.board b).1.candidates .all ∨ act = .changed b (.unreserved q.id) := by
  obtain ⟨g, changes, hboard, hserves⟩ := hserved
  obtain ⟨g', changes', hboard', hregistry⟩ := hact.registryEffect hboard
  rw [IsQuiet, board_eq hboard'] at hquiet
  rw [IsQuiet, board_eq hboard, board_eq hboard']
  cases hregistry with
  | kept => exact ⟨hquiet, fun _ hq => .inl hq⟩
  | @changed _ _ change hchange hbecomes =>
    have hsound := hst.boardChannels _ (List.mem_of_getElem? hboard)
    -- An announcement would have made the receiver ready.
    cases hannounced : g.isAnnounced change with
    | true =>
      simp only [hannounced, if_true, Channel.isReady_announce hsound hserves] at hquiet
      exact absurd hquiet (by simp)
    | false =>
      rw [hannounced, if_neg Bool.false_ne_true] at hquiet
      obtain ⟨hids, hcoherent⟩ := hst.requests hboard
      refine ⟨hquiet, fun q hq => ?_⟩
      rcases hbecomes.candidate_before hids hcoherent hq with hold | rfl | rfl
      · exact .inl hold
      · exact absurd hannounced (by simp [Registry.isAnnounced])
      · exact .inr hchange
  | looked hlooked hattends =>
    rw [hlooked] at hspares
    exact ⟨hattends.isReady_eq (fun hr => hspares ⟨rfl, hr.symm⟩) ▸ hquiet, fun _ hq => .inl hq⟩
  | left hleft =>
    rw [hleft] at hspares
    exact ⟨Channel.isReady_unsubscribe_ne (fun hr => hspares ⟨rfl, hr.symm⟩) ▸ hquiet,
      fun _ hq => .inl hq⟩
  | joined _ => exact ⟨Channel.isReady_subscribe hserves ▸ hquiet, fun _ hq => .inl hq⟩

end Stage

namespace Scene

variable {s s' : Scene} {events : List Event} {may : Stage → Act → Prop} {b r : Nat}

/-- Whatever is done, a candidate was one before, or was entered, or its reservation was given up. -/
theorem ActSequence.candidate_before (hacts : ActSequence may s events s') (hs : s.IsSound) {q : Request Core}
    (hq : q ∈ (s'.stage.board b).1.candidates .all) : q ∈ (s.stage.board b).1.candidates .all ∨
      .changed b (.entered q) ∈ events ∨ .changed b (.unreserved q.id) ∈ events := by
  induction hacts with
  | refl => exact .inl hq
  | aside _ haside ih => exact ih (haside.stage ▸ hq)
  | @act events act s₁ s₂ hacts _ hperforms ih =>
    have hsound := hacts.isSound hs
    have heffect := hperforms.stage.boardEffect b
    generalize s₂.stage.board b = after at hq heffect
    have hearlier : q ∈ (s₁.stage.board b).1.candidates .all →
        q ∈ (s.stage.board b).1.candidates .all ∨ .changed b (.entered q) ∈ act.events ++ events ∨
          .changed b (.unreserved q.id) ∈ act.events ++ events := fun hbetween =>
      (ih hbetween).imp_right fun h => h.imp (List.mem_append_right _) (List.mem_append_right _)
    cases heffect with
    | kept _ _ => exact hearlier hq
    | @changed change g' hact hbecomes =>
      have hcourse := hsound.course b
      rcases hbecomes.candidate_before hcourse.registryHistory.ids
        (fun p hp => (hcourse.registryHistory.requests p hp).coherent) hq with hold | rfl | rfl
      · exact hearlier hold
      · exact .inr (.inl (by simp [hact, Act.events]))
      · exact .inr (.inr (by simp [hact, Act.events]))

/-- What a receiver that finds nothing after something was done may have missed. -/
theorem ActSequence.quiet (hacts : ActSequence may s events s') (hs : s.stage.IsSound)
    (hspares : ∀ st act, may st act → act.SparesReceiver b r) (hserved : s.stage.ServesBoard b r)
    (hquiet : s'.stage.IsQuiet b r) : s.stage.IsQuiet b r ∧
      ∀ q ∈ (s'.stage.board b).1.candidates .all, q ∈ (s.stage.board b).1.candidates .all ∨
        .changed b (.unreserved q.id) ∈ events := by
  -- As with calm registries, what is known of the end is carried back to the beginning.
  induction hacts with
  | refl => exact ⟨hquiet, fun _ hq => .inl hq⟩
  | aside _ haside ih =>
    rw [haside.stage] at hquiet ⊢
    exact ih hquiet
  | act hacts hmay hperforms ih =>
    have hthere := hacts.servesBoard (fun st act h => (hspares st act h).not_leaves) hserved
    obtain ⟨hbetween, hlast⟩ := hperforms.stage.quiet (hacts.stage_isSound hs) (hspares _ _ hmay)
      hthere hquiet
    obtain ⟨hbefore, hfirst⟩ := ih hbetween
    refine ⟨hbefore, fun q hq => ?_⟩
    rcases hlast q hq with hq | hgivenUp
    · exact (hfirst q hq).imp_right fun h => List.mem_append_right _ h
    · exact .inr (List.mem_append_left _ (by rw [hgivenUp]; exact List.mem_singleton_self _))

end Scene

end CoreBroker
