import CoreBroker.Proofs.Runs.Moves
import CoreBroker.Proofs.Speculative.Sizing
set_option autoImplicit false

/-!
# Sizing in sixty-four bits

The number of providers that should be engaged is a sum in sixty-four bits, and no settings are refused
for their slack.  While the sum fits it is exact, so whoever has fewer providers engaged than there are
requests engages more.  Beyond that it starts again from nothing: a fulfiller with a very large slack
takes itself to be well supplied, and a request may wait beside an idle provider.
-/

namespace CoreBroker

namespace States

/-- The target is exact just while the sum fits. -/
theorem target_eq_add_iff {pending : Nat} (hpending : 0 < pending) (slack : Nat) :
    target pending slack = pending + slack ↔ pending + slack < UInt64.size := by
  rw [target, if_neg (Nat.ne_of_gt hpending)]
  constructor
  · intro hexact
    rw [← hexact]
    exact Nat.mod_lt _ (by decide)
  · exact Nat.mod_eq_of_lt

/-- Two numbers of sixty-four bits overflow at most once. -/
theorem target_of_overflow {pending slack : Nat} (hpending : pending < UInt64.size)
    (hslack : slack < UInt64.size) (hover : UInt64.size ≤ pending + slack) :
    target pending slack + UInt64.size = pending + slack := by
  have hnonzero : pending ≠ 0 := by omega
  rw [target, if_neg hnonzero, Nat.mod_eq_sub_mod hover, Nat.mod_eq_of_lt (by omega)]
  omega

end States

namespace Speculative

/-- The target is exact just while the sum of the demand and the slack fits in sixty-four bits.  Where
there is an idle provider and fewer are engaged than there are requests, more are engaged by rebalancing
just if the sum fits, or if what is left of it is more than are engaged already. -/
theorem sizing_exact_while_fits (f : Speculative) {pending : Nat} (hpending : 0 < pending)
    (hbounded : pending < UInt64.size) :
    (States.target pending f.settings.slack.toNat = pending + f.settings.slack.toNat ↔
        pending + f.settings.slack.toNat < UInt64.size) ∧
      ∀ (chance : Chance) (me : Nat) (s : Scene) (discarded : List Core), f.states.ids.Nodup →
        (∃ o ∈ f.states, o.isIdle = true) → f.states.countP (·.isEngaged) < pending →
          (f.states.countP (·.isEngaged) <
              (f.rebalance chance me s pending discarded).1.states.countP (·.isEngaged) ↔
            pending + f.settings.slack.toNat < UInt64.size ∨
              UInt64.size + f.states.countP (·.isEngaged) < pending + f.settings.slack.toNat) := by
  have hexact := States.target_eq_add_iff hpending f.settings.slack.toNat
  refine ⟨hexact, fun chance me s discarded hids hidle hfew => ?_⟩
  have hroom : f.states.countP (·.isEngaged) < f.states.length := by
    have hpos : 0 < f.states.idle.length := by
      obtain ⟨o, ho, hoidle⟩ := hidle
      rw [States.idle, List.length_map]
      exact List.length_pos_of_mem (List.mem_filter.mpr ⟨ho, hoidle⟩)
    have hsum := States.length_idle f.states
    omega
  rw [(rebalance_engaged chance hids me s pending discarded).1]
  by_cases hfits : pending + f.settings.slack.toNat < UInt64.size
  · have htarget := hexact.mpr hfits
    exact ⟨fun _ => .inl hfits, fun _ => by omega⟩
  · have htarget := States.target_of_overflow hbounded f.settings.slack.toNat_lt (Nat.not_lt.mp hfits)
    exact ⟨fun hmore => .inr (by omega), fun h => by omega⟩

end Speculative

/-! ## A slack that is too large -/

/-- The largest slack there is. -/
def boundlessSettings : SpeculativeSettings := { slack := 18446744073709551615 }

/-- A request waits beside the only provider of a fulfiller. -/
def boundlessRun : List Move :=
  [Move.found, .enlist "P" "p" (.scripted [] { free := 0 }), .add 0 0, .speculative 0 0 boundlessSettings,
    .begin (.create 0 .preferRemote 1 [] none false)] ++ List.replicate 5 (Move.step (.speculative 0)) ++
  [Move.step (.errand 1), .step (.errand 1)] ++ List.replicate 6 (Move.step (.speculative 0))

/-- For every fulfiller where its loop stands, which providers it tracks and whether it asks them, and how
many attempts are under way. -/
def World.engagements (w : World) : List (SpeculativePoint × List (String × Bool) × Nat) :=
  w.speculative.map fun f =>
    (f.point, f.states.map fun o => (o.provider.id, o.isEngaged), f.attempts.length)

/-- The settings are accepted, and one request and the slack come to nothing: the fulfiller waits for a
change while the request waits, and asks nobody. -/
theorem boundless_slack_engages_nobody :
    boundlessSettings.check = none ∧
      States.target 1 boundlessSettings.slack.toNat ≠ 1 + boundlessSettings.slack.toNat ∧
      (run .plain boundlessRun).world.engagements = [(.idle, [("p", false)], 0)] ∧
      ((run .plain boundlessRun).world.step .plain (.speculative 0)).isNone ∧
      (run .plain boundlessRun).world.scene.boards.map (·.registry.statistics) = [⟨0, 1, 0, 0⟩] := by
  decide +kernel

/-- A fulfiller with the largest slack that tracks an idle provider. -/
def boundlessFulfiller : Speculative where
  board := 0
  roster := 0
  settings := boundlessSettings
  shutdown := { number := 0 }
  requestReceiver := 0
  rosterReceiver := 0
  states := [.new ⟨0, "p"⟩]

/-- One request beside its idle provider is where the sum does not fit: nobody more is engaged. -/
theorem sizing_exact_while_fits_boundless :
    (0 < 1 ∧ 1 < UInt64.size) ∧
      States.target 1 boundlessFulfiller.settings.slack.toNat ≠
        1 + boundlessFulfiller.settings.slack.toNat ∧
      ¬ boundlessFulfiller.states.countP (·.isEngaged) <
        (boundlessFulfiller.rebalance .plain 0 {} 1 []).1.states.countP (·.isEngaged) := by
  have hbounds : 0 < 1 ∧ 1 < UInt64.size := by decide
  have hover : ¬ 1 + boundlessFulfiller.settings.slack.toNat < UInt64.size := by decide
  obtain ⟨hexact, hengages⟩ := boundlessFulfiller.sizing_exact_while_fits hbounds.1 hbounds.2
  have hmore := hengages .plain 0 {} [] (by decide) ⟨_, List.mem_cons_self, rfl⟩ (by decide)
  exact ⟨hbounds, hexact.not.mpr hover, hmore.not.mpr (by decide)⟩

end CoreBroker
