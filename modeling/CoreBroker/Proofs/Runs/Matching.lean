import CoreBroker.Proofs.Runs.Onsets
import CoreBroker.Proofs.Speculative.Lending
import CoreBroker.Proofs.Speculative.Serving
set_option autoImplicit false

/-!
# Matching loses nothing

A pass sees the requests twice: it counts them before it asks held cores whether they work, and looks at
them again when it assigns the cores.  In between requests may come and go.  In every run the requests that
are there then are served in the order of their creation, and each core that is left over goes back to the
obtainment it was taken from, which has been waiting for it.
-/

namespace CoreBroker

theorem Speculative.Borrows.of_bare {f f' : Speculative} {me : Nat} (hlending : f.IsLending me)
    (hbare : f'.bare = f.bare)
    (hguard : f.guard.holder = some (.speculative me) → f'.guard.holder = some (.speculative me)) :
    f.Borrows me f' := by
  rw [Speculative.eq_of_bare hbare]
  exact .of_same hlending rfl rfl hguard

/-- Whatever happens, the obtainments of a fulfiller wait for the cores that its pass has taken. -/
theorem World.Transition.isLending {chance : Chance} {w w' : World} {actor : Option Task}
    {events : List Event} {i : Nat} (hw : w.IsSound) (h : w.Transition chance actor events w')
    (hbefore : ∀ f, w.speculative[i]? = some f → f.IsLending i) {f : Speculative}
    (hf : w'.speculative[i]? = some f) : f.IsLending i := by
  rcases h.speculativeTransition hw i with ⟨-, hg, hf', htakes, -⟩ | ⟨-, hsame, hguard⟩ |
    ⟨-, -, hf', -, -, -, -, hpoint, -⟩
  · obtain rfl := Option.some.inj (hf.symm.trans hf')
    have hids := (hw.speculative _ (List.mem_of_getElem? hg)).ids
    rcases htakes with hstep | ⟨a, -, hstep⟩
    · exact (Speculative.step_borrows hids (hbefore _ hg) hstep).lending
    · exact (Speculative.stepAttempt_borrows hids (hbefore _ hg) hstep).lending
  · obtain ⟨g, hg, hbare⟩ := exists_of_map_eq hsame hf
    exact (Speculative.Borrows.of_bare (hbefore g hg) hbare (hguard g f hg hf)).lending
  · obtain rfl := Option.some.inj (hf.symm.trans hf')
    exact .elsewhere (by rw [hpoint]; rfl)

/-- The pass of the fulfiller `i` has taken this core out of an obtainment, which is as `o` but for it. -/
def World.HasOnLoan (w : World) (i : Nat) (entry : Ready) (o : Obtainment Core) : Prop :=
  ∃ f, w.speculative[i]? = some f ∧ entry ∈ f.point.lent ∧
    f.states.get? entry.1 = some { o with phase := .idle }

section Run

variable (chance : Chance) {moves : List Move} {i : Nat} {f : Speculative}

theorem run_isLending (hf : (run chance moves).world.speculative[i]? = some f) : f.IsLending i := by
  refine run_keeps chance (P := fun c => ∀ f, c.world.speculative[i]? = some f → f.IsLending i)
    ?_ ?_ moves f hf
  · exact fun f hf => absurd hf (by simp)
  · exact fun c actor events w' hsound htransition hbefore f hf =>
      htransition.isLending hsound hbefore hf

/-- A core on loan was taken out of an obtainment by some move, and nobody has touched the obtainment
since. -/
theorem run_lends (hf : (run chance moves).world.speculative[i]? = some f) {entry : Ready}
    (hentry : entry ∈ f.point.lent) :
    ∃ earlier m later f₀ o, moves = earlier ++ m :: later ∧
      (run chance earlier).world.speculative[i]? = some f₀ ∧ f₀.states.get? entry.1 = some o ∧
      o.phase = .holding entry.2 ∧
      Throughout chance (·.HasOnLoan i entry o) (earlier ++ [m]) later := by
  induction moves using List.reverseRecOn generalizing f with
  | nil => exact absurd hf (by simp [run])
  | append_singleton moves m ih =>
    have hsound := run_isSound chance moves
    -- Either the core was on loan before the last move, or that move has taken it.
    have hgoesOn : ∀ {g : Speculative}, (run chance moves).world.speculative[i]? = some g →
        g.states.Lends g.point.lent f.states entry →
        ∃ earlier m' later f₀ o, moves ++ [m] = earlier ++ m' :: later ∧
          (run chance earlier).world.speculative[i]? = some f₀ ∧ f₀.states.get? entry.1 = some o ∧
          o.phase = .holding entry.2 ∧
          Throughout chance (·.HasOnLoan i entry o) (earlier ++ [m']) later := by
      intro g hg hlends
      cases hlends with
      | still hlent hsame =>
        obtain ⟨earlier, m', later, f₀, o, rfl, hf₀, hget, hphase, hsince⟩ := ih hg hlent
        refine ⟨earlier, m', later ++ [m], f₀, o, by simp, hf₀, hget, hphase, hsince.concat ?_⟩
        obtain ⟨g', hg', -, hidle⟩ := hsince.last
        rw [List.append_assoc, List.singleton_append] at hg'
        obtain rfl := Option.some.inj (hg.symm.trans hg')
        refine ⟨f, ?_, hentry, hsame.trans hidle⟩
        simpa using hf
      | @taken o hget hphase hafter =>
        exact ⟨moves, m, [], g, o, rfl, hg, hget, hphase, throughout_nil ⟨f, hf, hentry, hafter⟩⟩
    rw [run_concat] at hf
    cases World.speculativeMove chance hsound m i with
    | @acts g g' _ hg hg' hstep _ =>
      obtain rfl := Option.some.inj (hf.symm.trans hg')
      have hids := (hsound.speculative g (List.mem_of_getElem? hg)).ids
      exact hgoesOn hg ((Speculative.step_borrows hids (run_isLending chance hg) hstep).lends _ hentry)
    | @tries g g' a _ hg _ hg' hstep _ =>
      obtain rfl := Option.some.inj (hf.symm.trans hg')
      have hids := (hsound.speculative g (List.mem_of_getElem? hg)).ids
      exact hgoesOn hg
        ((Speculative.stepAttempt_borrows hids (run_isLending chance hg) hstep).lends _ hentry)
    | stays _ hsame =>
      obtain ⟨g, hg, hbare⟩ := exists_of_map_eq hsame hf
      rw [Speculative.eq_of_bare hbare] at hentry
      refine hgoesOn hg (.still hentry ?_)
      rw [Speculative.eq_of_bare hbare]
    | starts _ _ hg _ _ _ hpoint =>
      obtain rfl := Option.some.inj (hf.symm.trans hg)
      rw [hpoint] at hentry
      exact absurd hentry List.not_mem_nil

end Run

/-! ## Matching -/

/-- What comes of matching cores with the requests that wait, oldest first: as many requests are served as
there are both, in order and with one announcement each, and nothing else is done to any request. -/
structure Speculative.MatchesInOrder (f : Speculative) (waiting : List (Request Core)) (s : Scene)
    (ready : List Ready) (matched : Matched) : Prop where
  pending : matched.pending = waiting.length - min ready.length waiting.length
  leftovers : matched.leftovers = ready.drop (min ready.length waiting.length)
  /-- The first core goes to the first request, the second to the second, and so on. -/
  served : ∀ pair ∈ waiting.zip ready, matched.scene.request? f.board pair.1.id =
    some { pair.1 with isAssigned := true, core := some pair.2.2, phase := .fulfilled }
  others : ∀ b id, (b = f.board → id ∉ (waiting.take ready.length).map (·.id)) →
    matched.scene.request? b id = s.request? b id
  /-- Every core that is passed to a request is taken. -/
  told : matched.scene.story =
    handings f.board ((waiting.zip ready).map fun pair => (pair.1.id, pair.2.2)) ++ s.story
  published : ∃ values : List Statistics, values.length = min ready.length waiting.length ∧
    published f.board matched.scene.story = published f.board s.story ++ values ∧
    (matched.scene.stage.board f.board).2 = (s.stage.board f.board).2.announceAll values

namespace Speculative

variable {f : Speculative} {s : Scene} {board : Board}

/-- With the guard of the registry, candidates are served in order. -/
theorem assign_matchesInOrder (hs : s.IsSound)
    (hboard : s.stage.boards[f.board]? = some (board.registry, board.changes)) (ready : List Ready) :
    f.MatchesInOrder (board.registry.candidates f.constraint) s ready
      (f.assign s ((board.registry.candidates f.constraint).map (·.id)) ready) := by
  obtain ⟨hids, -⟩ := hs.stage.requests hboard
  have hwait : ∀ r ∈ board.registry.candidates f.constraint,
      r ∈ board.registry.requests ∧ r.isWaiting = true := fun r hr => by
    obtain ⟨hmem, hcandidate⟩ := Registry.mem_candidates.mp hr
    exact ⟨hmem, Request.isWaiting_of_isCandidate hcandidate⟩
  have hnodup : ((board.registry.candidates f.constraint).map (·.id)).Nodup :=
    hids.sublist (List.filter_sublist.map _)
  obtain ⟨hpending, hleftovers, hserves⟩ := f.assign_serves _ ready hs hboard hnodup hwait
  generalize board.registry.candidates f.constraint = waiting at *
  generalize f.assign s (waiting.map (·.id)) ready = matched at *
  generalize hentries : (waiting.zip ready).map (fun pair => (pair.1.id, pair.2.2)) = entries at *
  have hkeys : entries.map (·.1) = (waiting.take ready.length).map (·.id) := by
    rw [← hentries, ← map_fst_zip_eq_take, List.map_map, List.map_map]
    rfl
  have hentriesNodup : (entries.map (·.1)).Nodup :=
    hkeys ▸ hnodup.sublist ((List.take_sublist _ _).map _)
  have hafter : matched.scene.stage.boards[f.board]? = some (board.registry.serveAll entries,
      board.changes.announceAll (board.registry.countsOf entries)) := by
    rw [hserves.stage]
    exact Scene.boards_setBoard hboard _
  refine ⟨by omega, ?_, fun pair hpair => ?_, fun b id hother => ?_, hentries ▸ hserves.story,
    board.registry.countsOf entries, ?_, hserves.published, ?_⟩
  · rw [hleftovers]
    rcases Nat.le_total ready.length waiting.length with hle | hle
    · rw [Nat.min_eq_left hle, List.drop_length, List.drop_of_length_le hle]
    · rw [Nat.min_eq_right hle]
  · have hentry : (pair.1.id, pair.2.2) ∈ entries := hentries ▸ List.mem_map_of_mem hpair
    have hget := Registry.get?_of_mem hids (hwait _ (List.of_mem_zip hpair).1).1
    rw [Scene.request?_of_board hafter, Registry.get?_serveAll_of_mem hentriesNodup hentry, hget]
    rfl
  · by_cases hb : b = f.board
    · subst hb
      rw [Scene.request?_of_board hafter, Scene.request?_of_board hboard]
      exact Registry.get?_serveAll_of_not_mem (hkeys ▸ hother rfl)
    · rw [Scene.request?_eq_stage, Scene.request?_eq_stage, hserves.stage, Stage.setBoard,
        List.getElem?_set_ne (Ne.symm hb)]
  · rw [Registry.length_countsOf, ← hentries, List.length_map, List.length_zip, Nat.min_comm]
  · rw [Stage.board_eq hafter, Stage.board_eq hboard]

/-- All that is out on loan can be put back, so the pass disposes of nothing for it. -/
theorem finishPass_of_restored (chance : Chance) (me : Nat) {ready : List Ready} {discarded : List Core}
    {leftovers : List Ready}
    (hleftovers : (f.assign s ((board.registry.candidates f.constraint).map (·.id)) ready).leftovers =
      leftovers) (hnone : (f.states.restoreCores leftovers).2 = []) :
    f.finishPass chance me ready discarded board s =
      let matched := f.assign s ((board.registry.candidates f.constraint).map (·.id)) ready
      let sized := (f.putBack leftovers).rebalance chance me (matched.scene.leave f.board)
        matched.pending discarded
      sized.1.leave.disposeInTurn sized.2.1 .discarding .idle sized.2.2 := by
  subst hleftovers
  rw [finishPass_resizes, resize, hnone, List.append_nil]

end Speculative

/-- The core of an entry was taken out of the obtainment `o` by a move of the run and has been with the
pass of the fulfiller `i` ever since; the obtainment has waited for it. -/
def WasTakenFrom (chance : Chance) (moves : List Move) (i : Nat) (entry : Ready)
    (o : Obtainment Core) : Prop :=
  ∃ earlier m later f, moves = earlier ++ m :: later ∧
    (run chance earlier).world.speculative[i]? = some f ∧ f.states.get? entry.1 = some o ∧
    o.phase = .holding entry.2 ∧ Throughout chance (·.HasOnLoan i entry o) (earlier ++ [m]) later

section Run

variable (chance : Chance) {moves : List Move}

/-- In every run the cores that a pass has left over can all be put back, and the obtainment that a core was
taken from is then exactly what it was before. -/
theorem restoreCores_of_lent {i : Nat} {f : Speculative}
    (hf : (run chance moves).world.speculative[i]? = some f) {leftovers : List Ready}
    (hsub : leftovers.Sublist f.point.lent) :
    (f.states.restoreCores leftovers).2 = [] ∧ ∀ entry ∈ leftovers, ∃ o,
      WasTakenFrom chance moves i entry o ∧
        (f.putBack leftovers).states.get? entry.1 = some o := by
  obtain ⟨hnone, -, hput⟩ := ((run_isLending chance hf).await.sublist hsub).restoreCores
  refine ⟨hnone, fun entry hentry => ?_⟩
  obtain ⟨earlier, m, later, f₀, o, hsplit, hf₀, hget, hphase, hsince⟩ :=
    run_lends chance hf (hsub.subset hentry)
  obtain ⟨g, hg, -, hidle⟩ := hsince.last
  have hmoves : earlier ++ [m] ++ later = moves := by simp [hsplit]
  rw [hmoves] at hg
  obtain rfl := Option.some.inj (hf.symm.trans hg)
  refine ⟨o, ⟨earlier, m, later, f₀, hsplit, hf₀, hget, hphase, hsince⟩, ?_⟩
  have hback := hput entry hentry _ hidle
  rwa [← hphase] at hback

/-- Matching is in the order of creation and loses nothing.  Whatever cores a fulfiller has when it gets the
guard of its registry, they go to the requests that then wait, unreserved and admitted by its constraint,
the oldest first; no core is refused, each assignment is announced, every other request stays as it is, and
the cores that are left over are the last ones, in order.  If they are those of a pass, each of them goes
back into the obtainment it was taken from, whatever has happened since the requests were counted, and
nothing is disposed of but what was put aside. -/
theorem matching_loses_nothing (f : Speculative) (ready : List Ready) {t : Task} {board : Board}
    {s : Scene} (hentered : (run chance moves).world.scene.enter f.board t = .entered board s) :
    let waiting := board.registry.requests.filter fun r =>
      r.isListed && !r.isAssigned && !r.isReserved && f.constraint.admits r.preference
    let matched := f.assign s (waiting.map (·.id)) ready
    board.registry.requests.map (·.id) =
        ((changesOf f.board s.story).filterMap (·.enteredId?)).reverse ∧
      f.MatchesInOrder waiting s ready matched ∧
      ∀ i discarded, (run chance moves).world.speculative[i]? = some f →
        f.point = .matching ready discarded →
          (f.states.restoreCores matched.leftovers).2 = [] ∧
          (∀ entry ∈ matched.leftovers, ∃ o, WasTakenFrom chance moves i entry o ∧
            (f.putBack matched.leftovers).states.get? entry.1 = some o) ∧
          f.finishPass chance i ready discarded board s =
            let sized := (f.putBack matched.leftovers).rebalance chance i
              (matched.scene.leave f.board) matched.pending discarded
            sized.1.leave.disposeInTurn sized.2.1 .discarding .idle sized.2.2 := by
  intro waiting matched
  obtain ⟨haside, hfound, -, -⟩ := Scene.aside_of_entered hentered
  have hs := (run_isSound chance moves).scene.aside haside
  have hboard : s.stage.boards[f.board]? = some (board.registry, board.changes) := by
    rw [haside.stage]
    exact Scene.stage_board hfound
  have horder := (hs.told _ _ _ hboard).ids_eq
  have hmatches : f.MatchesInOrder waiting s ready matched :=
    Speculative.assign_matchesInOrder hs hboard ready
  refine ⟨horder, hmatches, fun i discarded hf hpoint => ?_⟩
  have hlent : f.point.lent = ready := by
    rw [hpoint]
    rfl
  have hsub : matched.leftovers.Sublist f.point.lent := by
    rw [hlent, hmatches.leftovers]
    exact List.drop_sublist _ _
  obtain ⟨hnone, hback⟩ := restoreCores_of_lent chance hf hsub
  exact ⟨hnone, hback, Speculative.finishPass_of_restored chance i rfl hnone⟩

end Run

/-! ## A request that goes while cores are probed -/

/-- Two providers bring a core each for two requests, and both cores are found to work; then the first
request is given up. -/
def shrunkDemand : List Move :=
  [Move.found, .enlist "P" "p" (.scripted [{ course := .core }] { free := 0 }), .add 0 0,
    .enlist "Q" "q" (.scripted [{ course := .core }] { free := 0 }), .add 0 1, .speculative 0 0 {},
    .begin (.create 0 .preferRemote 2 [] none true)] ++
  List.replicate 4 (Move.step (.errand 1)) ++ List.replicate 4 (Move.step (.speculative 0)) ++
  [Move.step (.attempt 0 5), .step (.attempt 0 5), .step (.attempt 0 8), .step (.attempt 0 8)] ++
  List.replicate 5 (Move.step (.speculative 0)) ++ [Move.giveUp (.request 0 2), .step (.errand 14)]

/-- The core of the first provider. -/
def firstCore : Core := ⟨10, "P", 1, "p", .immediate⟩

/-- The core of the second provider. -/
def secondCore : Core := ⟨11, "Q", 1, "q", .immediate⟩

/-- One core goes to the request that is left, and the other one back to its provider. -/
theorem matching_loses_nothing_shrunkDemand :
    ∃ f board s,
      (run .plain shrunkDemand).world.speculative[0]? = some f ∧
      f.point = SpeculativePoint.matching [("p", firstCore), ("q", secondCore)] [] ∧
      (run .plain shrunkDemand).world.scene.enter f.board (.speculative 0) = .entered board s ∧
      let matched := f.assign s ((board.registry.candidates f.constraint).map (·.id))
        [("p", firstCore), ("q", secondCore)]
      matched.pending = 0 ∧ matched.leftovers = [("q", secondCore)] ∧
        (matched.scene.request? f.board 3).bind (·.core) = some firstCore ∧
        ∃ o, WasTakenFrom .plain shrunkDemand 0 ("q", secondCore) o ∧
          (f.putBack matched.leftovers).states.get? "q" = some o := by
  have hthere : (run .plain shrunkDemand).world.speculative[0]?.any (fun f => f.board == 0 &&
      f.point == .matching [("p", firstCore), ("q", secondCore)] [] &&
        f.constraint == .localPreferredAndRemote) = true := by
    decide +kernel
  have hfree : (run .plain shrunkDemand).world.scene.boards[0]?.any (fun board =>
      board.guard.holder == none &&
        (board.registry.candidates .localPreferredAndRemote).map (·.id) == [3]) = true := by
    decide +kernel
  obtain ⟨f, hf, hfacts⟩ := (Option.any_eq_true _ _).mp hthere
  obtain ⟨board, hboard, hguard⟩ := (Option.any_eq_true _ _).mp hfree
  simp only [Bool.and_eq_true, beq_iff_eq] at hfacts hguard
  obtain ⟨⟨hzero, hpoint⟩, hconstraint⟩ := hfacts
  obtain ⟨s, hentered⟩ := Scene.exists_entered_of_free (t := .speculative 0) (hzero ▸ hboard) hguard.1
  obtain ⟨r, hwaiting, hr⟩ : ∃ r, (board.registry.requests.filter fun r => r.isListed &&
      !r.isAssigned && !r.isReserved && f.constraint.admits r.preference) = [r] ∧ r.id = 3 := by
    rw [← hconstraint] at hguard
    exact List.map_eq_singleton_iff.mp hguard.2
  have hloses := matching_loses_nothing .plain f [("p", firstCore), ("q", secondCore)] hentered
  rw [hwaiting] at hloses
  obtain ⟨-, hmatches, hback⟩ := hloses
  obtain ⟨-, hput, -⟩ := hback 0 [] hf hpoint
  refine ⟨f, board, s, hf, hpoint, hentered, ?_⟩
  rw [show board.registry.candidates f.constraint = [r] from hwaiting]
  refine ⟨hmatches.pending, hmatches.leftovers, ?_, ?_⟩
  · rw [← hr, hmatches.served (r, ("p", firstCore)) List.mem_cons_self]
    rfl
  · exact hput ("q", secondCore) (hmatches.leftovers ▸ List.mem_singleton_self _)

end CoreBroker
