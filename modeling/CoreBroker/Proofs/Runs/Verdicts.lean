import CoreBroker.Proofs.Registry.Ownership
import CoreBroker.Proofs.Registry.Verdicts
import CoreBroker.Proofs.Runs.Onsets
import CoreBroker.Proofs.Speculative.Serving
set_option autoImplicit false

/-!
# Offers and their answers

A core is passed to a request through a reservation or under a snapshot.  In every run the answer is what
the history of the registry asks for.  A refusal leaves no trace in any registry and the core comes back;
once a request has taken a core, whoever waits for it is told so, at whatever time.
-/

namespace CoreBroker

theorem published_remarks {remarks : List Event} (hremarks : ∀ e ∈ remarks, e.isRemark = true)
    (b : Nat) (events : List Event) : published b (remarks ++ events) = published b events := by
  induction remarks with
  | nil => rfl
  | cons e remarks ih =>
    rw [List.cons_append, published_remark (hremarks e List.mem_cons_self)]
    exact ih fun e he => hremarks e (List.mem_cons_of_mem _ he)

namespace Scene

variable {s s' : Scene} {b id : Nat} {r : Request Core}

theorem exists_board_of_request (hrequest : s.request? b id = some r) :
    ∃ g changes, s.stage.boards[b]? = some (g, changes) ∧ r ∈ g.requests ∧ r.id = id := by
  obtain ⟨board, hboard, hget⟩ := Option.bind_eq_some_iff.mp hrequest
  obtain ⟨hmem, hid⟩ := Registry.get?_eq_some hget
  exact ⟨_, _, stage_board hboard, hmem, hid⟩

/-- Whoever asks a sound scene to assign a core to a request gets the answer of the request. -/
theorem IsSound.assignCore_eq_error (hs : s.IsSound) (hrequest : s.request? b id = some r)
    {reason : Fault Nat} (hverdict : r.verdict = some reason) (core : Core) :
    s.assignCore b id core = .error reason := by
  obtain ⟨board, hboard, hget⟩ := Option.bind_eq_some_iff.mp hrequest
  have hcoherent := (hs.stage.requests (stage_board hboard)).2 r (Registry.get?_eq_some hget).1
  simp only [assignCore, hboard, Registry.assign, hget, hcoherent.assign_of_verdict hverdict core]

/-- A request that takes a core is otherwise as it was, and so is every other request. -/
theorem IsSound.assignCore_eq_ok (hs : s.IsSound) (hrequest : s.request? b id = some r)
    (hverdict : r.verdict = none) (core : Core) :
    ∃ s', s.assignCore b id core = .ok s' ∧ s'.story = .changed b (.assigned id core) :: s.story ∧
      s'.request? b id = some (r.served core) ∧
      ∀ b' id', (b' = b → id' ≠ id) → s'.request? b' id' = s.request? b' id' := by
  obtain ⟨g, changes, hboard, hmem, rfl⟩ := exists_board_of_request hrequest
  obtain ⟨s', hok, -, hstory, hstage, -⟩ := hs.assignCore_of_isWaiting hboard hmem
    (Request.verdict_eq_none_iff.mp hverdict) core
  have hafter := hstage ▸ boards_setBoard hboard _
  refine ⟨s', hok, hstory, ?_, fun b' id' hother => ?_⟩
  · rw [request?_of_board hafter, Registry.get?_serve_self, ← request?_of_board hboard, hrequest]
    rfl
  · by_cases hb : b' = b
    · subst hb
      rw [request?_of_board hafter, request?_of_board hboard,
        Registry.get?_serve_ne g (hother rfl)]
    · rw [request?_eq_stage, request?_eq_stage, hstage, Stage.setBoard,
        List.getElem?_set_ne (Ne.symm hb)]

/-- A request that was assigned a core has its completion signal at fulfilled. -/
theorem IsSound.fulfilled_of_assigned (hs : s.IsSound)
    {core : Core}
    (hassigned : .changed b (.assigned id core) ∈ s.story) :
    ∃ r, s.request? b id = some r ∧ r.isAssigned = true ∧ r.phase = .fulfilled := by
  have hpos : 0 < (changesOf b s.story).countP (·.assigns id) :=
    Registry.wasServed_iff.mp ⟨core, mem_changesOf.mpr hassigned⟩
  obtain ⟨g, changes, hboard, r, hmem, rfl, hflag⟩ := (hs.isFulfilled_iff b id).mpr hpos
  obtain ⟨hids, hcoherent⟩ := hs.stage.requests hboard
  refine ⟨r, ?_, hflag, ?_⟩
  · rw [Scene.request?_of_board hboard, Registry.get?_of_mem hids hmem]
  · rw [(hcoherent r hmem).phase, Request.impliedPhase, if_pos hflag]

theorem Aside.request? (haside : Aside s s') (b id : Nat) : s'.request? b id = s.request? b id := by
  rw [request?_eq_stage, request?_eq_stage, haside.stage]

end Scene

namespace World

variable {w w' : World} {b id : Nat} {r : Request Core} {core : Core}

/-- A core that was offered has come back and has left no trace: lists, slots, completion signals,
reservations and counts of all registries are as they were, and nothing was published. -/
structure HasBack (w : World) (core : Core) (w' : World) : Prop where
  back : core ∈ w'.hand
  stage : w'.scene.stage = w.scene.stage
  requests : ∀ b id, w'.scene.request? b id = w.scene.request? b id
  published : ∀ b, published b w'.scene.story = published b w.scene.story

/-- A request has taken a core and is otherwise as it was, as is every other request. -/
structure HasServed (w : World) (b id : Nat) (core : Core) (w' : World) : Prop where
  request : ∃ r, w.scene.request? b id = some r ∧ w'.scene.request? b id = some (r.served core)
  others : ∀ b' id', (b' = b → id' ≠ id) → w'.scene.request? b' id' = w.scene.request? b' id'

/-- What the offer of a core to a request has come to, by the answer. -/
def Answered (w : World) (b id : Nat) (core : Core) : Option (Fault Nat) → World → Prop
  | none, w' => w.HasServed b id core w'
  | some _, w' => w.HasBack core w'

/-- The reply to whoever has passed a core through a reservation. -/
def replyTo (core : Core) : Option (Fault Nat) → Reply
  | none => .accepted
  | some reason => .refused ⟨core, reason⟩

/-- What is aside makes no difference to a request that has taken a core. -/
theorem HasServed.of_aside {s s' s₁ : Scene} (haside : w.scene.Aside s)
    (hrequest : w.scene.request? b id = some r) (hserved : s₁.request? b id = some (r.served core))
    (hothers : ∀ b' id', (b' = b → id' ≠ id) → s₁.request? b' id' = s.request? b' id')
    (hafter : s₁.Aside s') (hw' : w'.scene = s') : w.HasServed b id core w' where
  request := ⟨r, hrequest, by rw [hw', hafter.request?, hserved]⟩
  others b' id' hother := by rw [hw', hafter.request?, hothers b' id' hother, haside.request?]

/-- A core that comes back with a remark about it leaves no trace. -/
theorem HasBack.of_remarks {s s' : Scene} {events : List Event} (haside : w.scene.Aside s)
    (hstage : s'.stage = s.stage) (hstory : s'.story = events ++ s.story)
    (hremarks : ∀ e ∈ events, e.isRemark = true) {w₁ : World} (hscene : w₁.scene = s') :
    w.HasBack core (w₁.receiveCore core) := by
  have hback : s'.Aside (w₁.receiveCore core).scene :=
    hscene ▸ ClientStep.aside_receiveCore w₁ core
  have hsame : (w₁.receiveCore core).scene.stage = w.scene.stage :=
    hback.stage.trans (hstage.trans haside.stage)
  refine ⟨by simp [receiveCore], hsame, fun b id => ?_, fun b => ?_⟩
  · rw [Scene.request?_eq_stage, Scene.request?_eq_stage, hsame]
  · rw [hback.story, hstory, haside.story, published_remarks hremarks]

/-! ## Both ways to pass a core -/

/-- With the guard of the registry, a call that passes a core through a reservation ends with the answer
of the request. -/
theorem stepErrand_assign (hw : w.IsSound) {lock : Lock} {n : Nat} {board : Board} {s : Scene}
    (hrequest : w.scene.request? lock.board lock.request = some r) (core : Core)
    (hentered : w.scene.enter lock.board (.errand n) = .entered board s) :
    ∃ w', w.stepErrand n (.assign lock core) = some (.finish (replyTo core r.verdict) w') ∧
      w.Answered lock.board lock.request core r.verdict w' ∧
      (r.verdict = none →
        .changed lock.board (.assigned lock.request core) ∈ w'.scene.story) := by
  obtain ⟨haside, -⟩ := Scene.aside_of_entered hentered
  have hs := hw.scene.aside haside
  have hrequest' := (haside.request? _ _).trans hrequest
  simp only [stepErrand, underGuard, hentered, withScene]
  cases hverdict : r.verdict with
  | none =>
    obtain ⟨s', hok, hstory, hserved, hothers⟩ := hs.assignCore_eq_ok hrequest' hverdict core
    have hleft := s'.aside_leave lock.board
    simp only [hok]
    refine ⟨_, rfl, .of_aside haside hrequest hserved hothers hleft rfl, fun _ => ?_⟩
    rw [show (World.leave _ lock.board).scene = s'.leave lock.board from rfl, hleft.story, hstory]
    exact List.mem_cons_self
  | some reason =>
    simp only [hs.assignCore_eq_error hrequest' hverdict core]
    have hnoted := (s.performs_note
      (show (Event.refused lock.board lock.request core).isRemark = true from rfl)).story
    have hleft := (s.note (.refused lock.board lock.request core)).aside_leave lock.board
    refine ⟨_, rfl, .of_remarks haside hleft.stage (hleft.story.trans hnoted) ?_ rfl,
      fun h => absurd h (by simp)⟩
    simp [Act.events, Event.isRemark]

/-- A call that passes a core under a snapshot ends with the answer of the request. -/
theorem assignUnder_answered (hw : w.IsSound) {snapshot : Snapshot}
    (hrequest : w.scene.request? snapshot.board id = some r) (core : Core) :
    ((w.letGo core).assignUnder snapshot id core).1 = r.verdict ∧
      w.Answered snapshot.board id core r.verdict ((w.letGo core).assignUnder snapshot id core).2 ∧
      (r.verdict = none → .changed snapshot.board (.assigned id core) ∈
        ((w.letGo core).assignUnder snapshot id core).2.scene.story) := by
  have hnoted := w.scene.performs_note
    (show (Event.offered snapshot.board id core).isRemark = true from rfl)
  have hs := hw.scene.performs hnoted
  have hrequest' : (w.scene.note (.offered snapshot.board id core)).request? snapshot.board id =
      some r := hrequest
  simp only [assignUnder, letGo]
  cases hverdict : r.verdict with
  | none =>
    obtain ⟨s', hok, hstory, hserved, hothers⟩ := hs.assignCore_eq_ok hrequest' hverdict core
    simp only [hok]
    refine ⟨trivial, .of_aside (.refl _) hrequest hserved hothers (.refl _) rfl, fun _ => ?_⟩
    exact hstory ▸ List.mem_cons_self
  | some reason =>
    simp only [hs.assignCore_eq_error hrequest' hverdict core]
    have htwice := (Scene.performs_note (w.scene.note (.offered snapshot.board id core))
      (show (Event.refused snapshot.board id core).isRemark = true from rfl)).story
    have hstage : ((w.scene.note (.offered snapshot.board id core)).note
      (.refused snapshot.board id core)).stage = w.scene.stage := rfl
    rw [hnoted.story, ← List.append_assoc] at htwice
    refine ⟨trivial, .of_remarks (.refl _) hstage htwice ?_ rfl,
      fun h => absurd h (by simp)⟩
    simp [Act.events, Event.isRemark]

/-! ## Requests that were assigned a core -/

/-- The step of an errand is what its move comes to. -/
theorem perform_errand (chance : Chance) (hw : w.IsOrderly) {n : Nat} {x : Errand}
    (hmem : (n, x) ∈ w.errands) {p : Progress} (hstep : w.stepErrand n x = some p) :
    w.perform chance (.step (.errand n)) = conclude n x p := by
  have hfind : w.errands.find? (·.1 == n) = some (n, x) := find?_key hw.errands hmem
  refine perform_step_of_some ?_
  simp only [step, hfind, hstep, Option.map_some]

/-- What an errand has told stays told when what its step came to is taken over. -/
theorem mem_story_conclude (hw : w.IsSound) {n : Nat} {x : Errand} (hmem : (n, x) ∈ w.errands)
    {p : Progress} (hstep : w.stepErrand n x = some p) {e : Event} (he : e ∈ p.world.scene.story) :
    e ∈ (conclude n x p).scene.story := by
  obtain ⟨events, hclient, herrands⟩ := stepErrand_isClientStep hw hmem hstep
  cases p with
  | goOn x' w₁ => exact he
  | finish reply w₁ =>
    have hover := (hclient.finished hw.orderly hmem herrands).orderly hw.orderly
    have hkept : ∀ w₂ : World, w₂.IsOrderly → e ∈ w₂.scene.story →
        e ∈ (w₂.settleStake x).scene.story := fun w₂ horderly hmem => by
      obtain ⟨_, hsettled⟩ := settleStake_clientStep horderly (some (.errand n)) x
      rw [hsettled.acts.story_eq]
      exact List.mem_append_right _ hmem
    simp only [conclude]
    split
    · exact hkept _ ⟨hover.errands, hover.errandsBelow, hover.locks, hover.locksBelow,
        hover.lockBoards, hover.fresh⟩ he
    · exact hkept _ hover he

/-- How waiting for a request ends is up to its completion signal first, and to the token then. -/
theorem settled?_of_request (hrequest : w.scene.request? b id = some r) (token : Token) :
    w.settled? b id token = match r.phase with
      | .fulfilled => some (.ok ())
      | .disposed => some (.error (.requestDisposed id))
      | .pending => if w.scene.isCancelled token then some (.error .cancelled) else none := by
  obtain ⟨_, _, _, _, _, _, phase, _, _⟩ := r
  cases phase <;> simp only [settled?, hrequest]

/-- Whoever waits for a request that was assigned a core is told that it was fulfilled, whether or not the
token has fired. -/
theorem settled?_of_assigned (hw : w.IsSound)
    (hassigned : .changed b (.assigned id core) ∈ w.scene.story) (token : Token) :
    w.settled? b id token = some (.ok ()) := by
  obtain ⟨r, hrequest, -, hphase⟩ := hw.scene.fulfilled_of_assigned hassigned
  rw [settled?_of_request hrequest, hphase]

/-- Whoever waits for the request is told that it was fulfilled, whatever token it has brought. -/
def TellsFulfilled (w : World) (b id : Nat) : Prop :=
  ∀ n token, w.stepErrand n (.wait b id token false) = some (.finish .fulfilled w)

end World

section Run

variable (chance : Chance) {moves : List Move} {b id : Nat}

/-- Once a request was assigned a core, whoever waits for it is told so however the run goes on. -/
theorem run_tellsFulfilled {m : Move} {core : Core}
    (hassigned : .changed b (.assigned id core) ∈ (run chance (moves ++ [m])).world.scene.story)
    (later : List Move) : (run chance (moves ++ m :: later)).world.TellsFulfilled b id := by
  intro n token
  obtain ⟨events, hstory⟩ := exists_story_eq chance (moves ++ [m]) later
  rw [List.append_assoc, List.singleton_append] at hstory
  have hsettled := World.settled?_of_assigned (run_isSound chance (moves ++ m :: later))
    (hstory ▸ List.mem_append_right events hassigned) token
  simp only [World.stepErrand, hsettled, Bool.false_eq_true, if_false]

/-- A rejection is exact and leaves no trace.  Whatever request of a registry is offered a core, and by
whichever call, it refuses it as already fulfilled just if it was ever assigned one, and as disposed of just
if it was removed while it was pending.  The core that is refused comes back and is all that comes of the
call; otherwise the request has taken it, and whoever waits for the request, then or later, is told that it
was fulfilled. -/
theorem rejection_is_exact {r : Request Core}
    (hrequest : (run chance moves).world.scene.request? b id = some r) (core : Core) :
    ∃ verdict, Registry.IsVerdict (changesOf b (run chance moves).world.scene.story) id verdict ∧
      (∀ reason, (run chance moves).world.scene.assignCore b id core = .error reason ↔
        verdict = some reason) ∧
      (∀ n lock board s, (n, Errand.assign lock core) ∈ (run chance moves).world.errands →
        lock.board = b → lock.request = id →
        (run chance moves).world.scene.enter b (.errand n) = .entered board s →
          ∃ w', (run chance moves).world.stepErrand n (.assign lock core) =
              some (.finish (World.replyTo core verdict) w') ∧
            (run chance moves).world.Answered b id core verdict w' ∧
            (verdict = none → ∀ later,
              (run chance (moves ++ Move.step (.errand n) :: later)).world.TellsFulfilled b id)) ∧
      ∀ snapshot ∈ (run chance moves).world.snapshots, snapshot.board = b →
        core ∈ (run chance moves).world.hand →
          (((run chance moves).world.letGo core).assignUnder snapshot id core).1 = verdict ∧
            (run chance moves).world.Answered b id core verdict
              (((run chance moves).world.letGo core).assignUnder snapshot id core).2 ∧
            (verdict = none → ∀ later,
              (run chance (moves ++ Move.assignUnder snapshot id core :: later)).world.TellsFulfilled
                b id) := by
  have hw := run_isSound chance moves
  obtain ⟨g, changes, hboard, hmem, hid⟩ := Scene.exists_board_of_request hrequest
  refine ⟨r.verdict, hid ▸ (hw.scene.told b g changes hboard).isVerdict hmem, fun reason => ?_, ?_, ?_⟩
  · cases hverdict : r.verdict with
    | none =>
      obtain ⟨s', hok, -⟩ := hw.scene.assignCore_eq_ok hrequest hverdict core
      simp [hok]
    | some reason' => simp [hw.scene.assignCore_eq_error hrequest hverdict core]
  · rintro n lock board s herrand rfl rfl hentered
    obtain ⟨w', hstep, hanswered, htold⟩ := World.stepErrand_assign hw hrequest core hentered
    refine ⟨w', hstep, hanswered, fun hverdict => ?_⟩
    have hassigned : Event.changed lock.board (.assigned lock.request core) ∈
        (run chance (moves ++ [Move.step (.errand n)])).world.scene.story := by
      rw [run_concat, World.perform_errand chance hw.orderly herrand hstep]
      exact World.mem_story_conclude hw herrand hstep (htold hverdict)
    exact run_tellsFulfilled chance hassigned
  · rintro snapshot hsnapshot rfl hhand
    obtain ⟨hverdict, hanswered, htold⟩ := World.assignUnder_answered hw hrequest core
    refine ⟨hverdict, hanswered, fun hnone => ?_⟩
    have hassigned : Event.changed snapshot.board (.assigned id core) ∈
        (run chance (moves ++ [Move.assignUnder snapshot id core])).world.scene.story := by
      rw [run_concat, World.perform, if_pos ⟨hhand, hsnapshot⟩]
      exact htold hnone
    exact run_tellsFulfilled chance hassigned

end Run

/-- A request is assigned a core, its core is taken, it is disposed of, and then the client gets a
snapshot and still has a core. -/
def servedAndGoneRun : List Move :=
  [.found, .begin (.create 0 .requireLocal 1 [] none false), .step (.errand 0), .step (.errand 0),
    .make "test" 1 .immediate, .make "test" 2 .immediate, .begin (.ask 0 (.snapshot .all) none),
    .step (.errand 4), .assignUnder ⟨5, 0, [1]⟩ 1 testCore, .dropSnapshot ⟨5, 0, [1]⟩, .take 0 1,
    .begin (.dispose 0 1), .step (.errand 6), .begin (.ask 0 (.snapshot .all) none),
    .step (.errand 7)]

/-- The request that is gone refuses the core as already fulfilled, and the client has it back. -/
theorem rejection_is_exact_servedAndGone :
    ((run .plain servedAndGoneRun).world.scene.request? 0 1).isSome ∧
      ∃ w', ((run .plain servedAndGoneRun).world.letGo ⟨3, "test", 2, "test", .immediate⟩).assignUnder
          ⟨8, 0, []⟩ 1 ⟨3, "test", 2, "test", .immediate⟩ = (some (.alreadyFulfilled 1), w') ∧
        (run .plain servedAndGoneRun).world.HasBack ⟨3, "test", 2, "test", .immediate⟩ w' := by
  obtain ⟨r, hrequest⟩ : ∃ r, (run .plain servedAndGoneRun).world.scene.request? 0 1 = some r :=
    Option.isSome_iff_exists.mp (by decide +kernel)
  obtain ⟨verdict, hverdict, -, -, hunder⟩ :=
    rejection_is_exact .plain hrequest ⟨3, "test", 2, "test", .immediate⟩
  have hserved : Registry.WasServed (changesOf 0 (run .plain servedAndGoneRun).world.scene.story) 1 :=
    ⟨testCore, by decide +kernel⟩
  obtain rfl := hverdict.fulfilled.mpr hserved
  obtain ⟨hanswer, hback, -⟩ := hunder ⟨8, 0, []⟩ (by decide +kernel) rfl (by decide +kernel)
  exact ⟨hrequest ▸ rfl, _, Prod.ext hanswer rfl, hback⟩

end CoreBroker
