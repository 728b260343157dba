import CoreBroker.Proofs.Runs.Announcements
import CoreBroker.Proofs.Runs.Resting
set_option autoImplicit false

/-!
# What a fulfiller at rest may overlook

A request becomes available when it is entered, which is announced, or when its reservation is given up,
which is not.  So a fulfiller that rests with nothing to receive has seen whatever is available, apart from
requests whose reservation was given up since it looked.
-/

namespace CoreBroker

/-- What the chronicle of a run says about how the requests of a registry become available. -/
structure Chronicle.Heralds (c : Chronicle) (b : Nat) : Prop where
  /-- The registry is what the changes told of it make of an empty one. -/
  registry : (c.world.scene.stage.board b).1 = .replay (changesOf b c.world.scene.story)
  /-- Its channel has announced just the counts to be published. -/
  sent : (Channel.new defaultChannelCapacity).Announces (published b c.world.scene.story)
    (c.world.scene.stage.board b).2
  /-- Whatever is available is listed by every snapshot whose constraint admits it. -/
  listed : ∀ constraint, (c.world.scene.stage.board b).1.candidates constraint =
    ((c.world.scene.stage.board b).1.candidates .all).filter (constraint.admits ·.preference)
  /-- A fulfiller finds a request just if one that it may serve is available. -/
  found : ∀ includeLocal remoteDelay now,
    (c.world.scene.stage.board b).1.hasNext includeLocal remoteDelay now =
      ((c.world.scene.stage.board b).1.candidates .all).any
        (·.isServable includeLocal remoteDelay now)
  /-- A request is available after a change and was not so before: either it was entered, and then the
  counts with it were published, or its reservation was given up, and then nothing was. -/
  opened : ∀ later change earlier r,
    changesOf b c.world.scene.story = later ++ change :: earlier →
    r ∈ (Registry.replay (change :: earlier)).candidates .all →
    r ∉ (Registry.replay earlier).candidates .all →
      (change = .entered r ∧ Registry.counted (change :: earlier) =
          (Registry.replay (change :: earlier)).tally :: Registry.counted earlier) ∨
        (change = .unreserved r.id ∧
          Registry.counted (change :: earlier) = Registry.counted earlier)

section Run

variable (chance : Chance) (moves : List Move) (b : Nat)

theorem run_heralds : (run chance moves).Heralds b := by
  have hcourse := (run_isSound chance moves).scene.course b
  refine ⟨hcourse.eq_replay, run_sent chance moves b, Registry.candidates_eq_filter _,
    Registry.hasNext_eq_any _, ?_⟩
  intro later change earlier r hsplit hopen hclosed
  rw [hsplit] at hcourse
  obtain ⟨g₀, g₁, hearlier, hbecomes⟩ := hcourse.before
  rw [← (hearlier.next hbecomes).eq_replay] at hopen ⊢
  rw [← hearlier.eq_replay] at hclosed
  exact hearlier.opens hbecomes hopen hclosed

/-- In every run a request becomes available only by being entered, after which the counts are published,
or by its reservation being given up, after which nothing is.  So a fulfiller that rests while its receiver
finds nothing has looked at the requests when it came to rest, and from every moment since then until now
just those have become available to it whose reservation was given up in between. -/
theorem openings_announced : (run chance moves).Heralds b ∧
    ∀ t r, (run chance moves).world.IsResting b r t →
      (run chance moves).world.scene.stage.IsQuiet b r →
        ∃ before after, moves = before ++ .step t :: after ∧
          (run chance before).world.ComesToRest b (run chance (before ++ [.step t])).world t ∧
          ∀ sooner later, after = sooner ++ later →
            World.Undisturbed (run chance (before ++ .step t :: sooner)).world
              ((run chance (before ++ .step t :: sooner)).world.news (run chance moves).world)
              (run chance moves).world b r t :=
  ⟨run_heralds chance moves b, fun _ _ hresting hquiet => run_rests chance moves hresting hquiet⟩

end Run

/-! ## A request that nobody is told of -/

/-- The only request is reserved, so that a fulfiller that looks for one finds none. -/
def withheldRun : List Move :=
  [.found, .enlist "P" "p" (.scripted [] { free := 0 }), .begin (.create 0 .requireLocal 1 [] none false),
    .step (.errand 0), .step (.errand 0), .begin (.ask 0 (.next true none) none), .step (.errand 2)]

/-- A fulfiller begins and comes to rest, and then the reservation is given up. -/
def strandedRun : List Move :=
  withheldRun ++ [Move.dedicated 0 0 ⟨0, "p"⟩ {}, .step (.dedicated 0), .step (.dedicated 0),
    .giveUp (.lock 3)]

/-- The request that was created in these runs. -/
def strandedRequest : Request Core :=
  { id := 1, preference := .requireLocal, createdAt := 0, createdWall := 1700000000000 }

theorem strandedRun_idle : ∃ f, (run .plain strandedRun).world.dedicated[0]? = some f ∧
    f.point = .idle none ∧ f.board = 0 ∧ f.receiver = 0 ∧ f.settings.servesLocal = true ∧
    f.offeredDelay = some 0 :=
  ⟨_, rfl, rfl, rfl, rfl, rfl, rfl⟩

theorem strandedRun_quiet : (run .plain strandedRun).world.scene.stage.IsQuiet 0 0 := by
  show ((run .plain strandedRun).world.scene.stage.board 0).2.isReady 0 = false
  decide +kernel

/-- The fulfiller of that run has looked when it came to rest, and was not disturbed since. -/
theorem stranded_undisturbed : ∃ before after, strandedRun = before ++ .step (.dedicated 0) :: after ∧
    (run .plain before).world.ComesToRest 0 (run .plain (before ++ [.step (.dedicated 0)])).world
      (.dedicated 0) ∧
    ∀ sooner later, after = sooner ++ later →
      World.Undisturbed (run .plain (before ++ .step (.dedicated 0) :: sooner)).world
        ((run .plain (before ++ .step (.dedicated 0) :: sooner)).world.news
          (run .plain strandedRun).world)
        (run .plain strandedRun).world 0 0 (.dedicated 0) := by
  obtain ⟨f, hf, hidle, hboard, hreceiver, -⟩ := strandedRun_idle
  obtain ⟨-, hrests⟩ := openings_announced .plain strandedRun 0
  exact hrests _ _ (.dedicated hf hidle hboard hreceiver) strandedRun_quiet

/-- A request may become available with nothing published, and a fulfiller may rest, with nothing to
receive, though a request that it may serve is available and it was told nothing since it began. -/
theorem openings_unannounced :
    (¬ ∀ chance moves b later change earlier r,
      changesOf b (run chance moves).world.scene.story = later ++ change :: earlier →
      r ∈ (Registry.replay (change :: earlier)).candidates .all →
      r ∉ (Registry.replay earlier).candidates .all →
        Registry.counted (change :: earlier) ≠ Registry.counted earlier) ∧
    ¬ ∀ chance before after (i : Nat) (f : Dedicated) q,
      (run chance before).world.dedicated[i]? = none →
      (run chance (before ++ after)).world.dedicated[i]? = some f → f.point = .idle none →
      (run chance (before ++ after)).world.scene.stage.IsQuiet f.board f.receiver →
      q ∈ ((run chance (before ++ after)).world.scene.stage.board f.board).1.candidates .all →
      q.isServable f.settings.servesLocal f.offeredDelay
          (run chance (before ++ after)).world.scene.now = true →
        published f.board (run chance before).world.scene.story ≠
          published f.board (run chance (before ++ after)).world.scene.story := by
  constructor
  · intro hclaim
    have hchanges : changesOf 0 (run .plain strandedRun).world.scene.story =
        [.unreserved 1, .reserved 1, .entered strandedRequest] := by decide +kernel
    exact hclaim _ _ _ [] _ _ strandedRequest hchanges (by decide +kernel) (by decide +kernel)
      (by decide +kernel)
  · intro hclaim
    obtain ⟨f, hf, hidle, hboard, hreceiver, hlocal, hdelay⟩ := strandedRun_idle
    have htold := hclaim .plain withheldRun _ 0 f strandedRequest rfl hf hidle
      (by rw [hboard, hreceiver]; exact strandedRun_quiet)
      (by rw [hboard]; decide +kernel) (by rw [hlocal, hdelay]; decide +kernel)
    rw [hboard] at htold
    exact htold (by decide +kernel)

end CoreBroker
