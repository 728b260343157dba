import CoreBroker.Proofs.Channel.Sending
import CoreBroker.Proofs.Scene.Sound
set_option autoImplicit false

/-!
# The board of one registry

Seen from one registry an act either changes it, or leaves its requests alone and announces nothing of
it.  A registry that is not set up yet is taken to be there already, empty and with nobody listening, so
that nothing has to be said about where a registry begins.
-/

namespace CoreBroker

namespace Stage

variable {st st' : Stage} {act : Act}

/-- A registry and its announcements; one that is not set up yet is empty, and nobody listens. -/
def board (st : Stage) (b : Nat) : Registry Core × Channel Statistics :=
  (st.boards[b]?).getD ({}, .new defaultChannelCapacity)

theorem board_eq {b : Nat} {x : Registry Core × Channel Statistics} (hb : st.boards[b]? = some x) :
    st.board b = x := by
  rw [board, hb]
  rfl

theorem board_setBoard_self {b : Nat} {x : Registry Core × Channel Statistics}
    (hb : b < st.boards.length) : (st.setBoard b x).board b = x :=
  board_eq (List.getElem?_set_self hb)

theorem board_setBoard_ne {b k : Nat} {x : Registry Core × Channel Statistics} (hkb : k ≠ b) :
    (st.setBoard k x).board b = st.board b := by
  simp only [board, setBoard, List.getElem?_set_ne hkb]

theorem board_founded (st : Stage) (b : Nat) :
    Stage.board { st with boards := st.boards ++ [({}, .new defaultChannelCapacity)]
                          rosters := st.rosters ++ [([], .new defaultChannelCapacity)] } b =
      st.board b := by
  rcases Nat.lt_trichotomy b st.boards.length with hlt | rfl | hgt
  · simp only [board, List.getElem?_append_left hlt]
  · simp [board]
  · have hnone : st.boards[b]? = none := List.getElem?_eq_none_iff.mpr (Nat.le_of_lt hgt)
    have hbeyond : b - st.boards.length ≠ 0 := Nat.sub_ne_zero_of_lt hgt
    simp only [board, hnone, List.getElem?_append_right (Nat.le_of_lt hgt),
      List.getElem?_singleton, hbeyond, if_false]

/-- What an act does to a board, given the board before it and after it. -/
inductive BoardEffect (act : Act) (b : Nat) (g : Registry Core) (c : Channel Statistics) :
    Registry Core × Channel Statistics → Prop
  /-- The registry was changed, and the counts were announced if that calls for it. -/
  | changed {change : RegistryChange Core} {g' : Registry Core} (hact : act = .changed b change)
      (hbecomes : g.Becomes change g') :
      BoardEffect act b g c (g', if g.isAnnounced change then (c.announce g'.statistics).2 else c)
  /-- The requests are as they were, and nothing was announced. -/
  | kept {c' : Channel Statistics} (hevents : changesOf b act.events = [])
      (hannounces : c.Announces [] c') : BoardEffect act b g c (g, c')

theorem Becomes.boardEffect (hact : st.Becomes act st') (b : Nat) :
    BoardEffect act b (st.board b).1 (st.board b).2 (st'.board b) := by
  have hsame : ∀ {k : Nat} {g : Registry Core} {changes after : Channel Statistics},
      st.boards[k]? = some (g, changes) → changesOf b act.events = [] → changes.Announces [] after →
      BoardEffect act b (st.board b).1 (st.board b).2 ((st.setBoard k (g, after)).board b) := by
    intro k g changes after hboard hevents hannounces
    by_cases hkb : k = b
    · subst hkb
      rw [board_setBoard_self (List.getElem?_eq_some_iff.mp hboard).1, board_eq hboard]
      exact .kept hevents hannounces
    · rw [board_setBoard_ne hkb]
      exact .kept hevents .refl
  cases hact with
  | remarked hremark => exact .kept (changesOf_remark hremark b []) .refl
  | @changed k change g g' changes hboard hbecomes =>
    by_cases hkb : k = b
    · subst hkb
      rw [board_setBoard_self (List.getElem?_eq_some_iff.mp hboard).1, board_eq hboard]
      exact .changed rfl hbecomes
    · rw [board_setBoard_ne hkb]
      exact .kept (changesOf_changed_ne hkb change []) .refl
  | looked hboard hattends => exact hsame hboard rfl (.looked .refl hattends)
  | left hboard => exact hsame hboard rfl (.left .refl _)
  | joined hboard => exact hsame hboard rfl (.joined .refl)
  | founded =>
    rw [board_founded]
    exact .kept rfl .refl
  | _ => exact .kept rfl .refl

end Stage

namespace Scene.IsSound

variable {s : Scene}

/-- A registry is what the changes that the story tells of it have made of it. -/
theorem course (hs : s.IsSound) (b : Nat) :
    Registry.Course (changesOf b s.story) (s.stage.board b).1 := by
  cases hboard : s.stage.boards[b]? with
  | some x =>
    rw [Stage.board_eq hboard]
    exact hs.told b x.1 x.2 hboard
  | none =>
    rw [Stage.board, hboard, hs.untold b (List.getElem?_eq_none_iff.mp hboard)]
    exact .start

end Scene.IsSound

end CoreBroker
