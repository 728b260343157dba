import CoreBroker.Proofs.Dedicated.Settling
import CoreBroker.Proofs.Runs.Announcements
import CoreBroker.Proofs.Runs.Onsets
import CoreBroker.Proofs.Runs.Resting
set_option autoImplicit false

/-!
# Dedicated fulfillers come to rest

The loop of a dedicated fulfiller has no end, and nothing in the loop itself keeps it from going round for
ever.  What keeps it is that each of its rests lasts until something happens that it waits for: counts are
published, its shutdown is fired, or its delay has passed.  As long as none of this happens it goes to few
points, whoever else does whatever in between, and then it rests.  A loop whose delay is zero never rests.
-/

namespace CoreBroker

/-! ## Where nothing is published -/

/-- Lists that have grown twice and are as they were have not grown at all. -/
theorem eq_of_grown {α : Type} {before between after values values' : List α}
    (hbetween : between = before ++ values) (hafter : after = between ++ values')
    (hsame : after = before) : between = before ∧ after = between := by
  rw [hbetween, List.append_assoc] at hafter
  have hnone : values ++ values' = [] := List.append_right_eq_self.mp (hafter.symm.trans hsame)
  obtain ⟨rfl, rfl⟩ := List.append_eq_nil_iff.mp hnone
  rw [List.append_nil] at hbetween hafter
  exact ⟨hbetween, hafter.trans (by rw [hbetween, List.append_nil])⟩

namespace Scene

variable {may : Stage → Act → Prop} {s s' : Scene} {events : List Event} {b r : Nat}

/-- An act after which nothing is published, and which does not touch a receiver, leaves it what it
finds. -/
theorem Performs.boardReady_eq (hs : s.IsSound) {act : Act} (hperforms : Performs act s s')
    (hspares : act.SparesReceiver b r) (hserved : s.stage.ServesBoard b r)
    (hsilent : published b s'.story = published b s.story) : s'.boardReady b r = s.boardReady b r := by
  obtain ⟨g, changes, hboard, hserves⟩ := hserved
  obtain ⟨g', changes', hboard', heffect⟩ := hperforms.stage.registryEffect hboard
  rw [Scene.boardReady_eq, Scene.boardReady_eq, hboard, hboard', Option.any_some, Option.any_some]
  cases heffect with
  | kept => rfl
  | @changed _ _ change hact hbecomes =>
    subst hact
    have hcourse := hs.course b
    rw [Stage.board_eq hboard] at hcourse
    rw [hperforms.story, published, published, Act.events, List.singleton_append, changesOf_changed,
      hcourse.counted_cons hbecomes] at hsilent
    cases hannounced : g.isAnnounced change with
    | true =>
      have hlength := congrArg List.length hsilent
      rw [hannounced, if_pos rfl, List.length_reverse, List.length_reverse, List.length_cons] at hlength
      exact absurd hlength (Nat.succ_ne_self _)
    | false => rfl
  | looked hact hattends =>
    subst hact
    exact hattends.isReady_eq fun hr => hspares ⟨rfl, hr.symm⟩
  | left hact =>
    subst hact
    exact Channel.isReady_unsubscribe_ne fun hr => hspares ⟨rfl, hr.symm⟩
  | joined _ => exact Channel.isReady_subscribe hserves

/-- Whatever is done without publishing anything or touching a receiver leaves it what it finds. -/
theorem ActSequence.boardReady_eq (hacts : ActSequence may s events s') (hs : s.IsSound)
    (hspares : ∀ st act, may st act → act.SparesReceiver b r) (hserved : s.stage.ServesBoard b r)
    (hsilent : published b s'.story = published b s.story) : s'.boardReady b r = s.boardReady b r := by
  induction hacts with
  | refl => rfl
  | aside _ haside ih =>
    rw [haside.story] at hsilent
    rw [Scene.boardReady_congr haside.stage]
    exact ih hsilent
  | act hacts hmay hperforms ih =>
    obtain ⟨values, -, hbetween⟩ := hacts.announces hs b
    obtain ⟨values', -, hafter⟩ := hperforms.announces (hacts.isSound hs) b
    obtain ⟨hfirst, hlast⟩ := eq_of_grown hbetween hafter hsilent
    have hthere := hacts.servesBoard (fun st act h => (hspares st act h).not_leaves) hserved
    exact (hperforms.boardReady_eq (hacts.isSound hs) (hspares _ _ hmay) hthere hlast).trans (ih hfirst)

end Scene

namespace World

variable {chance : Chance} {w w' : World} {actor : Option Task} {events : List Event} {i : Nat}

theorem Transitions.published_grows (hw : w.IsSound) (htransitions : Transitions chance actor w events w')
    (b : Nat) : ∃ values, published b w'.scene.story = published b w.scene.story ++ values := by
  induction htransitions with
  | refl => exact ⟨[], (List.append_nil _).symm⟩
  | next htransitions htransition ih =>
    obtain ⟨values, hbetween⟩ := ih
    obtain ⟨may, hacts⟩ := htransition.acts
    obtain ⟨values', -, hafter⟩ := hacts.announces (htransitions.isSound hw).scene b
    exact ⟨values ++ values', by rw [hafter, hbetween, List.append_assoc]⟩

/-- What others do without publishing anything leaves the loop of a dedicated fulfiller where it is, and
its receiver what it finds. -/
theorem Transitions.leaves_dedicated (hw : w.IsSound) (hattended : w.IsAttended)
    (htransitions : Transitions chance actor w events w') (hactor : actor ≠ some (.dedicated i))
    {f : Dedicated} (hf : w.dedicated[i]? = some f) (hgoesOn : f.isOver = false)
    (hsilent : published f.board w'.scene.story = published f.board w.scene.story) :
    ∃ f', w'.dedicated[i]? = some f' ∧ f'.bare = f.bare ∧
      w'.scene.boardReady f.board f.receiver = w.scene.boardReady f.board f.receiver := by
  induction htransitions with
  | refl => exact ⟨f, hf, rfl, rfl⟩
  | @next _ _ w₁ w₂ htransitions htransition ih =>
    obtain ⟨values, hbetween⟩ := htransitions.published_grows hw f.board
    obtain ⟨values', hafter⟩ := htransition.transitions.published_grows (htransitions.isSound hw) f.board
    obtain ⟨hfirst, hlast⟩ := eq_of_grown hbetween hafter hsilent
    obtain ⟨f₁, hf₁, hbare₁, hready₁⟩ := ih hfirst
    have hattended₁ := htransitions.isAttended hw hattended
    cases htransition.dedicatedTransition (htransitions.isSound hw) i with
    | acts hthis _ _ _ _ => exact absurd hthis hactor
    | stays _ hsame =>
      obtain ⟨f₂, hf₂, hbare₂⟩ := exists_of_map_eq hsame.symm hf₁
      refine ⟨f₂, hf₂, hbare₂.symm.trans hbare₁, ?_⟩
      obtain ⟨may, hacts, hspares⟩ :=
        htransition.doneBy.sparesDedicatedReceiver hattended₁.toIsApart hf₁ hactor
      have hserved := hattended₁.dedicated i f₁ hf₁ (by rw [Dedicated.eq_of_bare hbare₁]; exact hgoesOn)
      rw [Dedicated.eq_of_bare hbare₁] at hspares hserved
      exact (hacts.boardReady_eq (htransitions.isSound hw).scene hspares hserved hlast).trans hready₁
    | starts _ hnone _ _ _ _ =>
      rw [hnone] at hf₁
      exact absurd hf₁ (by simp)

/-- Where the loop of the dedicated fulfiller `i` is. -/
def pointOf (w : World) (i : Nat) : Option DedicatedPoint := w.dedicated[i]?.map (·.point)

/-- How many of the moves take the loop of the dedicated fulfiller `i` to another point. -/
def shifts (chance : Chance) (i : Nat) : World → List Move → Nat
  | _, [] => 0
  | w, m :: later =>
    (if (w.perform chance m).pointOf i = w.pointOf i then 0 else 1)
      + shifts chance i (w.perform chance m) later

theorem pointOf_eq {f : Dedicated} (hf : w.dedicated[i]? = some f) : w.pointOf i = some f.point := by
  rw [pointOf, hf]
  rfl

/-- The loop of the dedicated fulfiller `i`, which was `f` and had at most `n` points to go to, has gone to so
many other points and has that many fewer to go to. -/
def HasAdvanced (w : World) (i : Nat) (f : Dedicated) (shifted n : Nat) : Prop :=
  ∃ f', w.dedicated[i]? = some f' ∧ f.Lasts f' ∧ ∃ k, f'.IsWithin w.scene k ∧ shifted + k ≤ n

/-- A step of the loop of a dedicated fulfiller that can take one. -/
theorem perform_dedicated (chance : Chance) {f : Dedicated} {r : Dedicated × Scene}
    (hf : w.dedicated[i]? = some f) (hstep : f.step i w.scene = some r) :
    (w.perform chance (.step (.dedicated i))).dedicated[i]? = some r.1 ∧
      (w.perform chance (.step (.dedicated i))).scene = r.2 := by
  have htaken : w.step chance (.dedicated i) =
      some { w with scene := r.2, dedicated := w.dedicated.set i r.1 } := by
    simp only [step, hf, hstep, Option.map_some]
  rw [perform_step_of_some htaken]
  exact ⟨List.getElem?_set_self (List.getElem?_eq_some_iff.mp hf).1, rfl⟩

end World

/-! ## One move -/

/-- Between one moment of a run and another nothing happens that a dedicated fulfiller waits for: nothing is
published of its registry, no time passes, and its shutdown is not fired. -/
structure Chronicle.LeavesAlone (c : Chronicle) (f : Dedicated) (c' : Chronicle) : Prop where
  published : published f.board c'.world.scene.story = published f.board c.world.scene.story
  now : c'.world.scene.now = c.world.scene.now
  live : c'.world.scene.isCancelled f.shutdown = false

namespace Dedicated

variable {f f' : Dedicated} {s s' : Scene}

theorem Same.lasts (h : f.Same f') : f.Lasts f' := by
  unfold Same at h
  unfold Lasts
  rw [h]

theorem Lasts.findsNone_iff (h : f.Lasts f') : f'.FindsNone s ↔ f.FindsNone s := by
  rw [h]
  rfl

/-- What is available is told by the story, so where nothing was told of the registry nothing has become
available. -/
theorem FindsNone.later (hs : s.IsSound) (hs' : s'.IsSound) (hnone : f.FindsNone s)
    (hnow : s'.now = s.now)
    (hchanges : changesOf f.board s'.story = changesOf f.board s.story) : f.FindsNone s' := by
  have hsame : (s'.stage.board f.board).1 = (s.stage.board f.board).1 := by
    rw [(hs'.course f.board).eq_replay, (hs.course f.board).eq_replay, hchanges]
  unfold FindsNone
  rw [hsame, hnow]
  exact hnone

/-- A loop that has no request to serve is not over. -/
theorem IsWithin.not_isOver {n : Nat} (hwithin : f.IsWithin s n) : f.isOver = false := by
  obtain ⟨k, hk, -⟩ := hwithin
  cases hpoint : f.point with
  | ended => simp [hpoint, DedicatedPoint.toRest?] at hk
  | panicked => simp [hpoint, DedicatedPoint.toRest?] at hk
  | _ => simp [isOver, hpoint]

theorem IsWithin.isSome {n : Nat} (hwithin : f.IsWithin s n) : f.point.toRest?.isSome = true := by
  obtain ⟨k, hk, -⟩ := hwithin
  rw [hk]
  rfl

/-- The sink of a fulfiller, and whatever does not stir its loop, leave it as much to do as before. -/
theorem IsWithin.of_bare {n : Nat} (hwithin : f.IsWithin s n) (hbare : f'.bare = f.bare)
    (hready : s'.boardReady f.board f.receiver = s.boardReady f.board f.receiver)
    (hnow : s'.now = s.now) : f'.IsWithin s' n := by
  obtain ⟨k, hk, hle⟩ := hwithin
  have hstirred : f'.isStirred s' = f.isStirred s := by
    rw [eq_of_bare hbare]
    simp only [isStirred, isDue, hready, hnow]
  rw [eq_of_bare hbare] at hstirred ⊢
  exact ⟨k, hk, by rwa [hstirred]⟩

end Dedicated

section Run

variable (chance : Chance) (moves : List Move)

theorem run_channel {b : Nat} {board : Board}
    (hboard : (run chance moves).world.scene.boards[b]? = some board) :
    board.changes.Fits ∧ board.changes.Sound ∧ board.changes.isOpen = true := by
  have hsent := run_sent chance moves b
  rw [Stage.board_eq (Scene.stage_board hboard)] at hsent
  exact ⟨hsent.fits (Channel.fits_new _), hsent.sound (Channel.sound_new _), hsent.isOpen_eq⟩

/-- In every run it is settled for every loop that rests when it is to look again. -/
theorem run_isTimed {i : Nat} {f : Dedicated} (hf : (run chance moves).world.dedicated[i]? = some f) :
    f.IsTimed (run chance moves).world.scene.now := by
  induction moves using List.reverseRecOn generalizing f with
  | nil => exact absurd hf (by simp [run])
  | append_singleton moves m ih =>
    have hprecedes := run_precedes chance moves [m]
    rw [run_concat] at hf hprecedes ⊢
    cases World.dedicatedMove chance (run_isSound chance moves) m i with
    | acts _ _ hf' hstep _ =>
      obtain rfl := Option.some.inj (hf.symm.trans hf')
      exact Dedicated.step_isTimed hstep
    | stays _ hsame =>
      obtain ⟨g, hg, hbare⟩ := exists_of_map_eq hsame hf
      have htimed := (ih hg).later hprecedes.now
      rw [Dedicated.eq_of_bare hbare]
      exact htimed
    | starts _ _ hf' _ hpoint =>
      obtain rfl := Option.some.inj (hf.symm.trans hf')
      exact Dedicated.isTimed_of_not_idle (by simp [hpoint]) _

variable {chance moves} {i n : Nat} {f : Dedicated}

theorem run_seeks (hf : (run chance moves).world.dedicated[i]? = some f)
    (hlive : (run chance moves).world.scene.isCancelled f.shutdown = false)
    (hnone : f.FindsNone (run chance moves).world.scene)
    (hwithin : f.IsWithin (run chance moves).world.scene n) {r : Dedicated × Scene}
    (hstep : f.step i (run chance moves).world.scene = some r) :
    f.Seeks i (run chance moves).world.scene r :=
  Dedicated.step_seeks ((run_isSound chance moves).dedicated f (List.mem_of_getElem? hf)) hlive hnone
    hwithin.isSome hstep

theorem run_lasts_of_step (hf : (run chance moves).world.dedicated[i]? = some f) {r : Dedicated × Scene}
    (hstep : f.step i (run chance moves).world.scene = some r) : f.Lasts r.1 := by
  have hw := run_isSound chance moves
  obtain ⟨events, hsteps⟩ :=
    Dedicated.step_steps hw.scene.stage (hw.dedicated f (List.mem_of_getElem? hf)) hstep
  exact hsteps.flow.same.lasts

theorem run_within (hf : (run chance moves).world.dedicated[i]? = some f)
    (hlive : (run chance moves).world.scene.isCancelled f.shutdown = false)
    (hnone : f.FindsNone (run chance moves).world.scene) (hdelay : f.settings.remoteDelay ≠ some 0)
    (hwithin : f.IsWithin (run chance moves).world.scene n) {r : Dedicated × Scene}
    (hstep : f.step i (run chance moves).world.scene = some r) :
    (r.1 = f ∧ r.1.IsWithin r.2 n) ∨ (r.1.point ≠ f.point ∧ ∃ m < n, r.1.IsWithin r.2 m) :=
  (run_seeks hf hlive hnone hwithin hstep).isWithin hdelay
    (Scene.boardReady_drainBoard fun _ hboard => run_channel chance moves hboard) hwithin

theorem own_step_advances (hf : (run chance moves).world.dedicated[i]? = some f)
    (hlive : (run chance moves).world.scene.isCancelled f.shutdown = false)
    (hnone : f.FindsNone (run chance moves).world.scene) (hdelay : f.settings.remoteDelay ≠ some 0)
    (hwithin : f.IsWithin (run chance moves).world.scene n) {w : World}
    (hw : w = (run chance moves).world.perform chance (.step (.dedicated i))) :
    w.HasAdvanced i f (if w.pointOf i = (run chance moves).world.pointOf i then 0 else 1) n := by
  cases hstep : f.step i (run chance moves).world.scene with
  | none =>
    have hidle : (run chance moves).world.step chance (.dedicated i) = none := by
      simp [World.step, hf, hstep]
    rw [hw, World.perform_step_of_none hidle, if_pos rfl]
    exact ⟨f, hf, rfl, n, hwithin, Nat.le_of_eq (Nat.zero_add n)⟩
  | some r =>
    obtain ⟨hr, hscene⟩ := World.perform_dedicated chance hf hstep
    rw [← hw] at hr hscene
    refine ⟨r.1, hr, run_lasts_of_step hf hstep, ?_⟩
    rw [World.pointOf_eq hr, World.pointOf_eq hf, hscene]
    rcases run_within hf hlive hnone hdelay hwithin hstep with
      ⟨hsame, hwithin'⟩ | ⟨hother, k, hlt, hwithin'⟩
    · exact ⟨n, hwithin', by rw [hsame, if_pos rfl, Nat.zero_add]⟩
    · refine ⟨k, hwithin', ?_⟩
      rw [if_neg fun h => hother (Option.some.inj h)]
      omega

theorem others_advance (hf : (run chance moves).world.dedicated[i]? = some f)
    (hwithin : f.IsWithin (run chance moves).world.scene n) {m : Move}
    (hactor : m.actor ≠ some (.dedicated i)) {w : World}
    (hw : w = (run chance moves).world.perform chance m)
    (hsilent : published f.board w.scene.story = published f.board (run chance moves).world.scene.story)
    (hnow : w.scene.now = (run chance moves).world.scene.now) :
    w.HasAdvanced i f (if w.pointOf i = (run chance moves).world.pointOf i then 0 else 1) n := by
  have hsound := run_isSound chance moves
  obtain ⟨events, htransitions⟩ : ∃ events,
    World.Transitions chance m.actor (run chance moves).world events w :=
    hw ▸ World.perform_transitions hsound m
  obtain ⟨f', hf', hbare, hready⟩ := htransitions.leaves_dedicated hsound (run_isAttended chance moves) hactor
    hf hwithin.not_isOver hsilent
  have hsame : f' = { f with sink := f'.sink } := Dedicated.eq_of_bare hbare
  refine ⟨f', hf', ?_, n, hwithin.of_bare hbare hready hnow, ?_⟩
  · unfold Dedicated.Lasts
    rw [hsame]
  · rw [World.pointOf_eq hf', World.pointOf_eq hf, hsame, if_pos rfl, Nat.zero_add]

/-- Whatever the next move is, if nothing happens that the loop waits for then it stays where it is, or goes
to another point and has less to do. -/
theorem move_advances (hf : (run chance moves).world.dedicated[i]? = some f)
    (hdelay : f.settings.remoteDelay ≠ some 0) (hnone : f.FindsNone (run chance moves).world.scene)
    (hwithin : f.IsWithin (run chance moves).world.scene n) {m : Move}
    (halone : (run chance moves).LeavesAlone f (run chance (moves ++ [m]))) :
    (run chance (moves ++ [m])).world.HasAdvanced i f
      (if (run chance (moves ++ [m])).world.pointOf i = (run chance moves).world.pointOf i
        then 0 else 1) n := by
  have hw : (run chance (moves ++ [m])).world = (run chance moves).world.perform chance m := by
    rw [run_concat]
  have hlive : (run chance moves).world.scene.isCancelled f.shutdown = false :=
    Bool.eq_false_iff.mpr fun hcancelled =>
      Bool.eq_false_iff.mp halone.live ((run_precedes chance moves [m]).isCancelled hcancelled)
  by_cases hmove : m = .step (.dedicated i)
  · subst hmove
    exact own_step_advances hf hlive hnone hdelay hwithin hw
  · have hactor : m.actor ≠ some (.dedicated i) := fun hactor => hmove (by
      cases m with
      | step t => exact congrArg _ (Option.some.inj hactor)
      | _ => exact absurd hactor (by simp [Move.actor]))
    exact others_advance hf hwithin hactor hw halone.published halone.now

/-! ## Every run -/

/-- What does not happen between two moments of a run happens neither before nor after any moment in
between. -/
theorem Chronicle.LeavesAlone.split (sooner rest : List Move)
    (halone : (run chance moves).LeavesAlone f (run chance (moves ++ (sooner ++ rest)))) :
    (run chance moves).LeavesAlone f (run chance (moves ++ sooner)) ∧
      (run chance (moves ++ sooner)).LeavesAlone f (run chance (moves ++ (sooner ++ rest))) := by
  obtain ⟨hsilent, hnow, hlive⟩ := halone
  rw [← List.append_assoc] at hsilent hnow hlive ⊢
  obtain ⟨values, -, hbetween⟩ := run_announces chance moves sooner f.board
  obtain ⟨values', -, hafter⟩ := run_announces chance (moves ++ sooner) rest f.board
  obtain ⟨hfirst, hlast⟩ := eq_of_grown hbetween hafter hsilent
  have hearly := run_precedes chance moves sooner
  have hlate := run_precedes chance (moves ++ sooner) rest
  have hbetweenNow := Nat.le_antisymm (hnow ▸ hlate.now) hearly.now
  exact ⟨⟨hfirst, hbetweenNow, Bool.eq_false_iff.mpr fun hcancelled =>
    Bool.eq_false_iff.mp hlive (hlate.isCancelled hcancelled)⟩, ⟨hlast, hnow.trans hbetweenNow.symm, hlive⟩⟩

/-- Whatever the next moves are, if nothing happens that the loop waits for, each time it goes to another
point it has less to do. -/
theorem moves_advance {later : List Move} (hf : (run chance moves).world.dedicated[i]? = some f)
    (hdelay : f.settings.remoteDelay ≠ some 0)
    (hnone : Throughout chance (fun w => f.FindsNone w.scene) moves later)
    (halone : (run chance moves).LeavesAlone f (run chance (moves ++ later)))
    (hwithin : f.IsWithin (run chance moves).world.scene n) :
    (run chance (moves ++ later)).world.HasAdvanced i f
      ((run chance moves).world.shifts chance i later) n := by
  induction later generalizing moves f n with
  | nil =>
    rw [List.append_nil]
    exact ⟨f, hf, rfl, n, hwithin, Nat.le_of_eq (Nat.zero_add n)⟩
  | cons m later ih =>
    obtain ⟨hfirst, hrest⟩ := Chronicle.LeavesAlone.split [m] later halone
    obtain ⟨f₁, hf₁, hlasts₁, k₁, hwithin₁, hle₁⟩ := move_advances hf hdelay hnone.first hwithin hfirst
    have hsame : moves ++ ([m] ++ later) = moves ++ [m] ++ later := (List.append_assoc _ _ _).symm
    rw [hsame] at hrest
    have hnone₁ : Throughout chance (fun w => f₁.FindsNone w.scene) (moves ++ [m]) later := by
      intro sooner rest hsplit
      have hthere := hnone (m :: sooner) rest (by rw [hsplit]; rfl)
      rw [hlasts₁.findsNone_iff]
      simpa using hthere
    have hrest₁ : (run chance (moves ++ [m])).LeavesAlone f₁ (run chance (moves ++ [m] ++ later)) :=
      ⟨hlasts₁.board ▸ hrest.published, hrest.now, hlasts₁.shutdown ▸ hrest.live⟩
    obtain ⟨f₂, hf₂, hlasts₂, k₂, hwithin₂, hle₂⟩ :=
      ih hf₁ (hlasts₁.settings ▸ hdelay) hnone₁ hrest₁ hwithin₁
    rw [show moves ++ m :: later = moves ++ [m] ++ later from hsame]
    refine ⟨f₂, hf₂, hlasts₁.trans hlasts₂, k₂, hwithin₂, ?_⟩
    rw [World.shifts, ← run_concat]
    omega

/-- A loop with no request to serve that cannot go on rests, or is held up. -/
theorem run_stands (hf : (run chance moves).world.dedicated[i]? = some f)
    (hlive : (run chance moves).world.scene.isCancelled f.shutdown = false)
    (hwithin : f.IsWithin (run chance moves).world.scene n)
    (hblocked : f.step i (run chance moves).world.scene = none) :
    f.IsResting (run chance moves).world.scene ∨ f.IsHeldUp i (run chance moves).world.scene := by
  obtain ⟨g, changes, hstage, -⟩ :=
    (run_isAttended chance moves).dedicated i f hf hwithin.not_isOver
  obtain ⟨board, hboard, -, -⟩ := Scene.board_of_stage hstage
  exact Dedicated.stands hboard hlive hwithin.isSome (run_isTimed chance moves hf) hblocked

/-- So many steps of the loop of the dedicated fulfiller `i`, with nothing in between. -/
def ownSteps (i n : Nat) : List Move := List.replicate n (.step (.dedicated i))

/-- After a step of its own a loop still has no request to serve and was not shut down. -/
theorem run_own_step (hf : (run chance moves).world.dedicated[i]? = some f)
    (hlive : (run chance moves).world.scene.isCancelled f.shutdown = false)
    (hnone : f.FindsNone (run chance moves).world.scene)
    (hwithin : f.IsWithin (run chance moves).world.scene n) {r : Dedicated × Scene}
    (hstep : f.step i (run chance moves).world.scene = some r) {later : Chronicle}
    (hlater : later = run chance (moves ++ [.step (.dedicated i)])) :
    later.world.dedicated[i]? = some r.1 ∧ later.world.scene = r.2 ∧
      later.world.scene.isCancelled r.1.shutdown = false ∧ r.1.FindsNone later.world.scene := by
  obtain ⟨hnow, hfired, hchanges⟩ := (run_seeks hf hlive hnone hwithin hstep).still
  obtain ⟨hr, hscene⟩ := World.perform_dedicated chance hf hstep
  rw [← run_concat, ← hlater] at hr hscene
  have hlasts := run_lasts_of_step hf hstep
  refine ⟨hr, hscene, ?_, hlasts.findsNone_iff.mpr (hnone.later (run_isSound chance moves).scene
    (hlater ▸ run_isSound chance _).scene ?_ ?_)⟩
  · rw [hlasts.shutdown, hscene, Scene.isCancelled, hfired]
    exact hlive
  · rw [hscene]
    exact hnow
  · rw [hscene]
    exact hchanges f.board

/-- Left to itself a loop with no request to serve rests as soon as it has nothing left to do, unless it is
held up. -/
theorem rests_alone (hf : (run chance moves).world.dedicated[i]? = some f)
    (hdelay : f.settings.remoteDelay ≠ some 0)
    (hlive : (run chance moves).world.scene.isCancelled f.shutdown = false)
    (hnone : f.FindsNone (run chance moves).world.scene)
    (hwithin : f.IsWithin (run chance moves).world.scene n)
    (hfree : ∀ k f', (run chance (moves ++ ownSteps i k)).world.dedicated[i]? = some f' →
      ¬ f'.IsHeldUp i (run chance (moves ++ ownSteps i k)).world.scene) :
    ∃ k ≤ n, ∃ f', (run chance (moves ++ ownSteps i k)).world.dedicated[i]? = some f' ∧ f.Lasts f' ∧
      f'.IsResting (run chance (moves ++ ownSteps i k)).world.scene := by
  induction n using Nat.strongRecOn generalizing moves f with
  | ind n ih =>
    have hmore : ∀ k, moves ++ ownSteps i (k + 1) = moves ++ [.step (.dedicated i)] ++ ownSteps i k :=
      fun k => by rw [ownSteps, List.replicate_succ, List.append_assoc]; rfl
    have hhere : moves ++ ownSteps i 0 = moves := List.append_nil moves
    cases hstep : f.step i (run chance moves).world.scene with
    | none =>
      have hresting := (run_stands hf hlive hwithin hstep).resolve_right
        (by simpa only [hhere] using hfree 0 f (by rw [hhere]; exact hf))
      exact ⟨0, Nat.zero_le n, f, by rw [hhere]; exact hf, rfl, by rw [hhere]; exact hresting⟩
    | some r =>
      obtain ⟨hr, hscene, hlive', hnone'⟩ := run_own_step hf hlive hnone hwithin hstep rfl
      have hlasts := run_lasts_of_step hf hstep
      rcases run_within hf hlive hnone hdelay hwithin hstep with ⟨hsame, hwithin'⟩ | ⟨-, m, hlt, hwithin'⟩
      · -- It has joined a queue, so it is held up there.
        have hstuck := (run_seeks hf hlive hnone hwithin hstep).step_of_queued (by rw [hsame])
        rw [← hscene] at hstuck hwithin'
        rcases run_stands hr hlive' hwithin' hstuck with hresting | hheld
        · obtain ⟨lookAgainAt, hidle, -, -⟩ := hresting.idle
          exact absurd hidle (Dedicated.step_not_idle (by rw [← hsame]; exact hidle) hstep)
        · exact absurd hheld (hfree 1 r.1 hr)
      · rw [← hscene] at hwithin'
        obtain ⟨k, hk, f', hf', hlasts', hresting⟩ := ih m hlt hr (hlasts.settings ▸ hdelay) hlive' hnone'
          hwithin' fun k f' hf' => by
            rw [← hmore] at hf' ⊢
            exact hfree (k + 1) f' hf'
        rw [← hmore] at hf' hresting
        exact ⟨k + 1, by omega, f', hf', hlasts.trans hlasts', hresting⟩

/-- What becomes of the loop of the dedicated fulfiller `i`, which was `f` after the moves `moves`, in the
course of the moves `later` and after them. -/
structure Settles (chance : Chance) (moves later : List Move) (i : Nat) (f : Dedicated) : Prop where
  /-- It goes to few other points. -/
  few : (run chance moves).world.shifts chance i later ≤ 5
  /-- If it cannot go on it rests, or it is held up. -/
  stands : (run chance (moves ++ later)).world.step chance (.dedicated i) = none →
    ∃ f', (run chance (moves ++ later)).world.dedicated[i]? = some f' ∧ f.Lasts f' ∧
      (f'.IsResting (run chance (moves ++ later)).world.scene ∨
        f'.IsHeldUp i (run chance (moves ++ later)).world.scene)
  /-- If it takes a step and stays at its point it has joined a queue, and others have to do something before
  it can take another one. -/
  queues : ∀ w, (run chance (moves ++ later)).world.step chance (.dedicated i) = some w →
    w.pointOf i = (run chance (moves ++ later)).world.pointOf i → w.step chance (.dedicated i) = none
  /-- Left to itself it rests after a few steps more, unless it is held up. -/
  rests : (∀ k f', (run chance (moves ++ later ++ ownSteps i k)).world.dedicated[i]? = some f' →
      ¬ f'.IsHeldUp i (run chance (moves ++ later ++ ownSteps i k)).world.scene) →
    ∃ k ≤ 5, ∃ f', (run chance (moves ++ later ++ ownSteps i k)).world.dedicated[i]? = some f' ∧
      f.Lasts f' ∧ f'.IsResting (run chance (moves ++ later ++ ownSteps i k)).world.scene

/-- At the head of its loop a fulfiller is near its rest: it has no core when it begins. -/
theorem isWithin_of_head {s : Scene} (hsound : f.IsSound)
    (hhead : f.point = .starting ∨ ∃ lookAgainAt, f.point = .idle lookAgainAt) : f.IsWithin s 5 := by
  have hround : ∀ {n : Nat}, f.roundLength ≤ n → (if f.isStirred s then f.roundLength else 0) ≤ n :=
    fun hle => by
      split
      · exact hle
      · exact Nat.zero_le _
  rcases hhead with hpoint | ⟨lookAgainAt, hpoint⟩
  · have hcores : f.cores = [] := by
      rw [Dedicated.cores_eq_core (Dedicated.spare_eq_none hsound (by simp [hpoint])), hpoint]
      rfl
    have hshort := hround (Nat.le_of_eq (if_pos hcores : f.roundLength = 2))
    exact ⟨2, by rw [hpoint]; rfl, by omega⟩
  · have hshort := hround f.roundLength_le_four
    exact ⟨0, by rw [hpoint]; rfl, by omega⟩

/-- In every run a dedicated fulfiller at the head of its loop that has no request to serve comes to rest:
whatever other tasks and the client do, if nothing is published of its registry, its shutdown is not fired and
no time passes, its loop goes to at most five points, and then it waits for just these things.  This takes a
delay that is not zero. -/
theorem dedicated_settles {later : List Move} (hf : (run chance moves).world.dedicated[i]? = some f)
    (hhead : f.point = .starting ∨ ∃ lookAgainAt, f.point = .idle lookAgainAt)
    (hdelay : f.settings.remoteDelay ≠ some 0)
    (hnone : Throughout chance (fun w => f.FindsNone w.scene) moves later)
    (halone : (run chance moves).LeavesAlone f (run chance (moves ++ later))) :
    Settles chance moves later i f := by
  obtain ⟨f', hf', hlasts, k, hwithin, hle⟩ :=
    moves_advance hf hdelay hnone halone
      (isWithin_of_head ((run_isSound chance moves).dedicated f (List.mem_of_getElem? hf)) hhead)
  have hlive : (run chance (moves ++ later)).world.scene.isCancelled f'.shutdown = false :=
    hlasts.shutdown ▸ halone.live
  have hnone' : f'.FindsNone (run chance (moves ++ later)).world.scene :=
    hlasts.findsNone_iff.mpr hnone.last
  refine ⟨by omega, fun hblocked => ?_, fun w hstep hsame => ?_, fun hfree => ?_⟩
  · have hstuck : f'.step i (run chance (moves ++ later)).world.scene = none := by
      simpa [World.step, hf'] using hblocked
    exact ⟨f', hf', hlasts, run_stands hf' hlive hwithin hstuck⟩
  · simp only [World.step, hf', Option.map_eq_some_iff] at hstep
    obtain ⟨r, hloop, rfl⟩ := hstep
    have hthere := List.getElem?_set_self (a := r.1) (List.getElem?_eq_some_iff.mp hf').1
    simp only [World.pointOf, hthere, hf', Option.map_some, Option.some.injEq] at hsame
    have hstuck := (run_seeks hf' hlive hnone' hwithin hloop).step_of_queued hsame
    simp only [World.step, hthere, hstuck, Option.map_none]
  · obtain ⟨n, hn, f'', hf'', hlasts', hresting⟩ :=
      rests_alone hf' (hlasts.settings ▸ hdelay) hlive hnone' hwithin hfree
    exact ⟨n, by omega, f'', hf'', hlasts.trans hlasts', hresting⟩

/-- In no run a loop that is to look again after no time ever rests. -/
theorem undelayed_never_rests (hf : (run chance moves).world.dedicated[i]? = some f)
    (hdelay : f.settings.remoteDelay = some 0) : ¬ f.IsResting (run chance moves).world.scene :=
  Dedicated.not_isResting_of_undelayed hdelay (run_isTimed chance moves hf)

/-- So without a request to serve it can always take another step, unless it is held up. -/
theorem undelayed_goes_on (hf : (run chance moves).world.dedicated[i]? = some f)
    (hdelay : f.settings.remoteDelay = some 0)
    (hlive : (run chance moves).world.scene.isCancelled f.shutdown = false)
    (hwithin : f.IsWithin (run chance moves).world.scene n)
    (hfree : ¬ f.IsHeldUp i (run chance moves).world.scene) :
    ((run chance moves).world.step chance (.dedicated i)).isSome = true := by
  cases hstep : f.step i (run chance moves).world.scene with
  | some r => simp [World.step, hf, hstep]
  | none =>
    rcases run_stands hf hlive hwithin hstep with hresting | hheld
    · exact absurd hresting (undelayed_never_rests hf hdelay)
    · exact absurd hheld hfree

end Run

/-- What holds after every beginning of the moves `later` holds throughout. -/
theorem throughout_of_take {chance : Chance} {P : World → Prop} {before later : List Move}
    (h : ∀ n < later.length + 1, P (run chance (before ++ later.take n)).world) :
    Throughout chance P before later := by
  intro sooner rest hsplit
  have htake := h sooner.length (by rw [hsplit, List.length_append]; omega)
  rwa [hsplit, List.take_left] at htake

/-- A core comes too late for its request and is kept; what was published of the request meanwhile is still
to be received. -/
def keptCoreRun : List Move :=
  [Move.found, .enlist "P" "p" (.scripted [{ course := .core }] { free := 0 }),
    .dedicated 0 0 ⟨0, "p"⟩ { remoteDelay := some 1000 }, .begin (.create 0 .requireLocal 1 [] none false),
    .step (.errand 1), .step (.errand 1)] ++ ownSteps 0 3 ++
  [Move.begin (.dispose 0 2), .step (.errand 7)] ++ ownSteps 0 2

/-- The loop wakes up and asks the core, and has to wait until a snapshot that was taken meanwhile is given
up. -/
def snapshotMoves : List Move :=
  ownSteps 0 1 ++ [Move.begin (.ask 0 (.snapshot .all) none), .step (.errand 9)] ++ ownSteps 0 2 ++
    [Move.dropSnapshot ⟨10, 0, []⟩] ++ ownSteps 0 1

/-- There the loop goes to three points, and then rests. -/
theorem dedicated_settles_snapshot : ∃ f, (run .plain keptCoreRun).world.dedicated[0]? = some f ∧
    f.point = .idle (some 1000) ∧ f.spare.isSome = true ∧
    (run .plain keptCoreRun).world.shifts .plain 0 snapshotMoves = 3 ∧
    (run .plain (keptCoreRun ++ snapshotMoves)).world.step .plain (.dedicated 0) = none ∧
    Settles .plain keptCoreRun snapshotMoves 0 f := by
  have hthere : (run .plain keptCoreRun).world.dedicated[0]?.any (fun f =>
      f.point == .idle (some 1000) && f.spare.isSome && f.settings.remoteDelay != some 0 &&
      decide (∀ n < snapshotMoves.length + 1,
        f.FindsNone (run .plain (keptCoreRun ++ snapshotMoves.take n)).world.scene) &&
      published f.board (run .plain (keptCoreRun ++ snapshotMoves)).world.scene.story ==
        published f.board (run .plain keptCoreRun).world.scene.story &&
      (run .plain (keptCoreRun ++ snapshotMoves)).world.scene.now ==
        (run .plain keptCoreRun).world.scene.now &&
      !(run .plain (keptCoreRun ++ snapshotMoves)).world.scene.isCancelled f.shutdown) = true := by
    decide +kernel
  have hshifts : (run .plain keptCoreRun).world.shifts .plain 0 snapshotMoves = 3 := by decide +kernel
  have hblocked : ((run .plain (keptCoreRun ++ snapshotMoves)).world.step .plain
      (.dedicated 0)).isNone = true := by decide +kernel
  obtain ⟨f, hf, hall⟩ := (Option.any_eq_true _ _).mp hthere
  simp only [Bool.and_eq_true, beq_iff_eq, bne_iff_ne, decide_eq_true_eq, Bool.not_eq_true'] at hall
  obtain ⟨⟨⟨⟨⟨⟨hpoint, hspare⟩, hdelay⟩, hnone⟩, hsilent⟩, hnow⟩, hlive⟩ := hall
  exact ⟨f, hf, hpoint, hspare, hshifts, Option.isNone_iff_eq_none.mp hblocked,
    dedicated_settles hf (.inr ⟨_, hpoint⟩) hdelay (throughout_of_take hnone) ⟨hsilent, hnow, hlive⟩⟩

/-! ## A delay of zero -/

/-- A fulfiller without requests that is to look again after no time has come to rest. -/
def undelayedRun : List Move :=
  [Move.found, .enlist "P" "p" (.scripted [] { free := 0 }),
    .dedicated 0 0 ⟨0, "p"⟩ { remoteDelay := some 0 }] ++ ownSteps 0 2

theorem undelayedRun_goes_back :
    ((run .plain undelayedRun).world.perform .plain (.step (.dedicated 0))).perform .plain
      (.step (.dedicated 0)) = (run .plain undelayedRun).world := by with_unfolding_all rfl

/-- From there the loop goes back and forth between two worlds. -/
theorem undelayedRun_alternates (n : Nat) :
    (run .plain (undelayedRun ++ ownSteps 0 n)).world = (run .plain undelayedRun).world ∨
      (run .plain (undelayedRun ++ ownSteps 0 n)).world =
        (run .plain undelayedRun).world.perform .plain (.step (.dedicated 0)) := by
  induction n with
  | zero => exact .inl rfl
  | succ n ih =>
    have hnext : undelayedRun ++ ownSteps 0 (n + 1) =
        undelayedRun ++ ownSteps 0 n ++ [.step (.dedicated 0)] := by
      rw [ownSteps, List.replicate_succ', List.append_assoc]
      rfl
    rw [hnext, run_concat]
    rcases ih with hhere | hthere
    · exact .inr (by rw [hhere])
    · exact .inl (by rw [hthere, undelayedRun_goes_back])

/-- Each of these steps takes the loop to another point. -/
theorem undelayedRun_shifts (n : Nat) :
    (run .plain undelayedRun).world.shifts .plain 0 (ownSteps 0 n) = n ∧
      ((run .plain undelayedRun).world.perform .plain (.step (.dedicated 0))).shifts .plain 0
        (ownSteps 0 n) = n := by
  have hother : ((run .plain undelayedRun).world.perform .plain (.step (.dedicated 0))).pointOf 0 ≠
      (run .plain undelayedRun).world.pointOf 0 := by decide +kernel
  induction n with
  | zero => exact ⟨rfl, rfl⟩
  | succ n ih =>
    have hnext : ownSteps 0 (n + 1) = .step (.dedicated 0) :: ownSteps 0 n := List.replicate_succ
    rw [hnext, World.shifts, World.shifts, undelayedRun_goes_back, if_neg hother, if_neg hother.symm,
      ih.1, ih.2]
    exact ⟨Nat.add_comm 1 n, Nat.add_comm 1 n⟩

/-- The settings are accepted and no request is there to serve, but left to itself the loop goes to another
point with every step, for ever, though its registry does not change, its shutdown is not fired and no time
passes. -/
theorem undelayed_loop_never_settles : ∃ f, (run .plain undelayedRun).world.dedicated[0]? = some f ∧
    f.settings.check = none ∧ f.point = .idle (some 0) ∧
    ∀ n, f.FindsNone (run .plain (undelayedRun ++ ownSteps 0 n)).world.scene ∧
      (run .plain undelayedRun).LeavesAlone f (run .plain (undelayedRun ++ ownSteps 0 n)) ∧
      ((run .plain (undelayedRun ++ ownSteps 0 n)).world.step .plain (.dedicated 0)).isSome = true ∧
      (run .plain undelayedRun).world.shifts .plain 0 (ownSteps 0 n) = n := by
  have hboth : (run .plain undelayedRun).world.dedicated[0]?.any (fun f =>
      f.settings.check.isNone && f.point == .idle (some 0) &&
      [(run .plain undelayedRun).world,
          (run .plain undelayedRun).world.perform .plain (.step (.dedicated 0))].all fun w =>
        decide (f.FindsNone w.scene) &&
        published f.board w.scene.story == published f.board (run .plain undelayedRun).world.scene.story &&
        w.scene.now == (run .plain undelayedRun).world.scene.now &&
        !w.scene.isCancelled f.shutdown && (w.step .plain (.dedicated 0)).isSome) = true := by
    decide +kernel
  obtain ⟨f, hf, hall⟩ := (Option.any_eq_true _ _).mp hboth
  rw [Bool.and_eq_true, Bool.and_eq_true, Option.isNone_iff_eq_none, beq_iff_eq, List.all_eq_true] at hall
  obtain ⟨⟨hcheck, hpoint⟩, hworlds⟩ := hall
  refine ⟨f, hf, hcheck, hpoint, fun n => ?_⟩
  have hthere := hworlds (run .plain (undelayedRun ++ ownSteps 0 n)).world
    (by simpa using undelayedRun_alternates n)
  simp only [Bool.and_eq_true, beq_iff_eq, decide_eq_true_eq, Bool.not_eq_true'] at hthere
  obtain ⟨⟨⟨⟨hnone, hsilent⟩, hnow⟩, hlive⟩, hturns⟩ := hthere
  exact ⟨hnone, ⟨hsilent, hnow, hlive⟩, hturns, (undelayedRun_shifts n).1⟩

end CoreBroker
