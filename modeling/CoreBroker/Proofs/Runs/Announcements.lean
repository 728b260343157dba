import CoreBroker.Proofs.Registry.Counts
import CoreBroker.Proofs.Runs.Keeping
import CoreBroker.Proofs.Scene.Boards
import Mathlib.Data.List.Chain
set_option autoImplicit false

/-!
# What is published of a registry

The counts of a registry are announced after every change of its live requests or of an assignment, and
after nothing else.  Whoever listens gets them in the order of the changes, so it can follow the counts
from one change to the next.
-/

namespace CoreBroker

namespace Registry.Course

variable {changes later earlier : List (RegistryChange Core)} {change : RegistryChange Core}
  {g : Registry Core}

/-- A course begins with a course. -/
theorem before (hcourse : Registry.Course (later ++ change :: earlier) g) :
    ∃ g₀ g₁, Registry.Course earlier g₀ ∧ g₀.Becomes change g₁ := by
  induction later generalizing g with
  | nil =>
    cases hcourse with
    | next hcourse hbecomes => exact ⟨_, _, hcourse, hbecomes⟩
  | cons newer later ih =>
    cases hcourse with
    | next hcourse _ => exact ih hcourse

end Registry.Course

/-- The counts to be published of a registry, oldest first: those after each change of which of its
requests are live or which of them were assigned a core. -/
def published (b : Nat) (events : List Event) : List Statistics :=
  (Registry.counted (changesOf b events)).reverse

namespace Scene

variable {may : Stage → Act → Prop} {s s' : Scene} {events : List Event}

/-- An act announces just the counts that are to be published. -/
theorem Performs.announces (hs : s.IsSound) {act : Act} (hperforms : Performs act s s') (b : Nat) :
    ∃ values, (s.stage.board b).2.Announces values (s'.stage.board b).2 ∧
      published b s'.story = published b s.story ++ values := by
  have heffect := hperforms.stage.boardEffect b
  rw [hperforms.story, published, published, changesOf_append]
  generalize s'.stage.board b = after at heffect
  cases heffect with
  | @changed change g' hact hbecomes =>
    have hevents : changesOf b act.events = [change] := by simp [hact, Act.events, changesOf]
    rw [hevents, List.singleton_append, (hs.course b).counted_cons hbecomes]
    cases hannounced : (s.stage.board b).1.isAnnounced change with
    | true => exact ⟨[g'.statistics], .announced .refl _, by simp⟩
    | false => exact ⟨[], .refl, by simp⟩
  | kept hevents hannounces => exact ⟨[], hannounces, by rw [hevents, List.nil_append, List.append_nil]⟩

/-- Whatever is done, just the counts that are to be published are announced. -/
theorem ActSequence.announces (hs : s.IsSound) (hacts : ActSequence may s events s') (b : Nat) :
    ∃ values, (s.stage.board b).2.Announces values (s'.stage.board b).2 ∧
      published b s'.story = published b s.story ++ values := by
  induction hacts with
  | refl => exact ⟨[], .refl, (List.append_nil _).symm⟩
  | aside _ haside ih =>
    rw [haside.stage, haside.story]
    exact ih
  | act hacts _ hperforms ih =>
    obtain ⟨values, hannounces, hpublished⟩ := ih
    obtain ⟨values', hsends', hpublished'⟩ := hperforms.announces (hacts.isSound hs) b
    exact ⟨values ++ values', hannounces.trans hsends', by
      rw [hpublished', hpublished, List.append_assoc]⟩

end Scene

/-- What the chronicle of a run says about the counts that were published of a registry. -/
structure Chronicle.Publishes (c : Chronicle) (b : Nat) : Prop where
  /-- The registry is what the changes told of it make of an empty one. -/
  registry : (c.world.scene.stage.board b).1 = .replay (changesOf b c.world.scene.story)
  /-- From its beginning the channel has announced just these counts, one after another. -/
  sent : (Channel.new defaultChannelCapacity).Announces (published b c.world.scene.story)
    (c.world.scene.stage.board b).2
  /-- A request entered, a core assigned, a live request disposed of: each has been followed by one
  value, the counts of the list as it then was, and no other change by any. -/
  changes : ∀ later change earlier,
    changesOf b c.world.scene.story = later ++ change :: earlier →
      Registry.counted (change :: earlier) =
        if (Registry.replay earlier).isAnnounced change then
          (Registry.replay (change :: earlier)).tally :: Registry.counted earlier
        else Registry.counted earlier
  /-- From one value to the next a request was created, fulfilled or removed, and the first is one such
  turn away from no requests at all. -/
  countStep : (Statistics.zero :: published b c.world.scene.story).IsChain Statistics.CountStep
  /-- The last value is what whoever asks for the counts is told. -/
  last : (published b c.world.scene.story).getLast?.getD .zero =
    (c.world.scene.stage.board b).1.statistics

/-- What is published between one chronicle and a later one, and what a receiver makes of it. -/
structure Chronicle.Informs (c c' : Chronicle) (b : Nat) (values : List Statistics) : Prop where
  published : published b c'.world.scene.story = published b c.world.scene.story ++ values
  sent : (c.world.scene.stage.board b).2.Announces values (c'.world.scene.stage.board b).2
  /-- A receiver that had got everything before and has not looked since gets just these values, in
  order. -/
  received : ∀ r < (c.world.scene.stage.board b).2.issued,
    (c'.world.scene.stage.board b).2.Serves r →
    (c'.world.scene.stage.board b).2.cursor r = (c.world.scene.stage.board b).2.sent →
    values.length ≤ defaultChannelCapacity →
      ((c'.world.scene.stage.board b).2.pollAll r).1 = values.map .value

section Run

variable (chance : Chance) (moves later : List Move) (b : Nat)

/-- What is announced between a run and what comes after it is what is published in between. -/
theorem run_announces : ∃ values, ((run chance moves).world.scene.stage.board b).2.Announces values
      ((run chance (moves ++ later)).world.scene.stage.board b).2 ∧
    published b (run chance (moves ++ later)).world.scene.story =
      published b (run chance moves).world.scene.story ++ values := by
  refine run_goes_on (P := fun c => ∃ values,
    ((run chance moves).world.scene.stage.board b).2.Announces values
        (c.world.scene.stage.board b).2 ∧
      published b c.world.scene.story =
        published b (run chance moves).world.scene.story ++ values)
    ⟨[], .refl, (List.append_nil _).symm⟩ ?_ later
  rintro c actor events w' hsound htransition ⟨values, hannounces, hpublished⟩
  obtain ⟨may, hacts⟩ := htransition.acts
  obtain ⟨values', hsends', hpublished'⟩ := hacts.announces hsound.scene b
  exact ⟨values ++ values', hannounces.trans hsends', by
    rw [Chronicle.after, hpublished', hpublished, List.append_assoc]⟩

theorem run_sent : (Channel.new defaultChannelCapacity).Announces
    (published b (run chance moves).world.scene.story)
      ((run chance moves).world.scene.stage.board b).2 := by
  obtain ⟨values, hannounces, hpublished⟩ := run_announces chance [] moves b
  rw [List.nil_append] at hannounces hpublished
  exact hpublished ▸ hannounces

theorem run_publishes : (run chance moves).Publishes b := by
  have hcourse := (run_isSound chance moves).scene.course b
  refine ⟨hcourse.eq_replay, run_sent chance moves b, ?_, ?_, ?_⟩
  · intro newer change earlier hsplit
    rw [hsplit] at hcourse
    obtain ⟨g₀, g₁, hearlier, hbecomes⟩ := hcourse.before
    rw [hearlier.counted_cons hbecomes, ← hearlier.eq_replay,
      ← (hearlier.next hbecomes).eq_replay, Registry.statistics_eq_tally]
  · have hchain := List.isChain_reverse.mpr hcourse.isChain_counted
    rw [List.reverse_append] at hchain
    exact hchain
  · rw [published, List.getLast?_reverse]
    exact hcourse.head_counted

/-- However a run goes on, whoever listens is told of every count that is published, in order. -/
theorem run_informs : ∃ values, (run chance moves).Informs (run chance (moves ++ later)) b values := by
  obtain ⟨values, hannounces, hpublished⟩ := run_announces chance moves later b
  have hstart := run_sent chance moves b
  have hlimit : ((run chance moves).world.scene.stage.board b).2.window.limit =
      defaultChannelCapacity := by
    rw [hstart.limit_eq]
    decide +kernel
  refine ⟨values, hpublished, hannounces, fun r hr hserves hcursor hlength => ?_⟩
  exact hannounces.received (hstart.fits (Channel.fits_new _)) hr hserves hcursor (hlimit ▸ hlength)

/-- In every run the values published of a registry are its counts after each creation, fulfilment and
removal, in the order in which these happened and made anew from the list, and nothing else is published:
neither a refused core, which is no change at all, nor a core taken out or a removal that was made before
is followed by a value.  However the run goes on, a receiver gets just what is published from then on. -/
theorem announcements_exact : (run chance moves).Publishes b ∧
    ∃ values, (run chance moves).Informs (run chance (moves ++ later)) b values :=
  ⟨run_publishes chance moves b, run_informs chance moves later b⟩

end Run

end CoreBroker
