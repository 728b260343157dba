import CoreBroker.Proofs.Dedicated.Restraint
import CoreBroker.Proofs.Runs.ErrandGuarding
import CoreBroker.Proofs.Runs.MoveInversion
import CoreBroker.Proofs.Speculative.Restraint
set_option autoImplicit false

/-!
# What moves leave alone

Every move but the giving up of a snapshot leaves the guards alone that snapshots have, and what is
reserved while they have them.  And every move assigns cores only to requests that it may.
-/

namespace CoreBroker

namespace World

variable {chance : Chance} {w w' : World}

/-! ## Who assigns cores to which requests -/

/-- What a move may assign a core to: a dedicated fulfiller assigns one to the request that it has
reserved, a speculative one to requests that nobody has reserved, an errand to the request whose
reservation it was given, and the client to any request of a registry of which it keeps a snapshot. -/
inductive MayAssign (w : World) (b id : Nat) : Move → Prop
  | loop {i : Nat} {f : Dedicated} (hf : w.dedicated[i]? = some f) (hclaims : f.Claims b id) :
      MayAssign w b id (.step (.dedicated i))
  | pass {i : Nat} (hfree : w.scene.stage.marked b id = 0) : MayAssign w b id (.step (.speculative i))
  | errand {n : Nat} {e : Errand} (hmem : (n, e) ∈ w.errands) (hmay : e.MayAssign b id) :
      MayAssign w b id (.step (.errand n))
  | under {snapshot : Snapshot} {core : Core} (hmem : snapshot ∈ w.snapshots)
      (hboard : snapshot.board = b) : MayAssign w b id (.assignUnder snapshot id core)

theorem Spares.respectsGuards {who : Nat → Nat → Prop} (h : Spares none who w w') : RespectsGuards who w w' :=
  ⟨h.scene, .same h.snapshots, fun _ hlock => .inl (h.locks hlock), h.engaged⟩

theorem RespectsGuards.mono {who who' : Nat → Nat → Prop} (hwho : ∀ b id, who b id → who' b id)
    (h : RespectsGuards who w w') : RespectsGuards who' w w' :=
  ⟨h.scene.mono hwho, h.snapshotsKept, h.fresh, h.engaged⟩

theorem step_respectsGuards (hw : w.IsSound) (t : Task) :
    RespectsGuards (fun b id => w.MayAssign b id (.step t)) w ((w.step chance t).getD w) := by
  cases hstep : w.step chance t with
  | none => exact (Spares.refl w).respectsGuards
  | some w' =>
    show RespectsGuards _ w w'
    cases t with
    | dedicated i =>
      cases hf : w.dedicated[i]? with
      | none => simp [step, hf] at hstep
      | some f =>
        simp only [step, hf, Option.map_eq_some_iff] at hstep
        obtain ⟨⟨f', s⟩, hloop, rfl⟩ := hstep
        have hkeeps := (Dedicated.step_keeps hw.scene.stage hloop).mono fun b id hclaims =>
          MayAssign.loop hf hclaims
        exact ⟨hkeeps, .same rfl, fun _ h => .inl h, fun h => h⟩
    | speculative i =>
      cases hf : w.speculative[i]? with
      | none => simp [step, hf] at hstep
      | some f =>
        simp only [step, hf, Option.map_eq_some_iff] at hstep
        obtain ⟨⟨f', s⟩, hloop, rfl⟩ := hstep
        have hkeeps := (Speculative.step_keeps hw.scene.stage hloop).mono fun b id hfree =>
          (MayAssign.pass hfree : w.MayAssign b id (.step (.speculative i)))
        exact ⟨hkeeps, .same rfl, fun _ h => .inl h, fun h => h⟩
    | attempt i serial =>
      cases hf : w.speculative[i]? with
      | none => simp [step, hf] at hstep
      | some f =>
        cases hfind : f.attempts.find? (·.serial == serial) with
        | none => simp [step, hf, hfind] at hstep
        | some a =>
          simp only [step, hf, hfind, Option.map_eq_some_iff] at hstep
          obtain ⟨⟨f', s⟩, hattempt, rfl⟩ := hstep
          exact ⟨.of_boards (Speculative.stepAttempt_boards hattempt), .same rfl, fun _ h => .inl h,
            fun h => h⟩
    | errand serial =>
      cases hfind : w.errands.find? (·.1 == serial) with
      | none => simp [step, hfind] at hstep
      | some entry =>
        obtain ⟨n, x⟩ := entry
        have hmem : (n, x) ∈ w.errands := List.mem_of_find?_eq_some hfind
        have hn : n = serial := by simpa using List.find?_some hfind
        subst hn
        simp only [step, hfind, Option.map_eq_some_iff] at hstep
        obtain ⟨p, hprogress, rfl⟩ := hstep
        have hrespects := conclude_respectsGuards hmem (stepErrand_isClientStep hw hmem hprogress)
          (stepErrand_respects hw hmem hprogress)
        exact hrespects.mono fun b id hmay => .errand hmem hmay

/-- Every move that gives up no snapshot leaves alone what snapshots guard, and assigns cores to no
requests but those that it may. -/
theorem perform_drops_or_respectsGuards (chance : Chance) (hw : w.IsSound) (m : Move) :
    (∃ snapshot ∈ w.snapshots, w.perform chance m = w.dropSnapshot snapshot) ∨
      RespectsGuards (fun b id => w.MayAssign b id m) w (w.perform chance m) := by
  have houtcome := w.perform_outcome chance m
  generalize hw' : w.perform chance m = w' at houtcome ⊢
  suffices hrest : (∃ snapshot ∈ w.snapshots, w' = w.dropSnapshot snapshot) ∨ (∃ t, m = .step t) ∨
      Spares none (fun b id => w.MayAssign b id m) w w' by
    rcases hrest with hdropped | ⟨t, rfl⟩ | hspares
    · exact .inl hdropped
    · exact .inr (hw' ▸ step_respectsGuards hw t)
    · exact .inr hspares.respectsGuards
  cases houtcome with
  | unchanged => exact .inr (.inr (.refl w))
  | stepped _ => exact .inr (.inl ⟨_, rfl⟩)
  | droppedSnapshot hsnapshot => exact .inl ⟨_, hsnapshot, rfl⟩
  | abandoned errand => exact .inr (.inr (w.abandon_spares errand))
  | scenery _ _ hkeeps => exact .inr (.inr (.of_scene (hkeeps _ _) rfl rfl rfl))
  | begun hopening => exact .inr (.inr (w.send_spares (not_core_of_isOpening hopening).2.1))
  | called provider token =>
    exact .inr (.inr ((send_spares (w.withScene _) rfl).after rfl rfl rfl rfl))
  | probed _ token =>
    exact .inr (.inr ((send_spares ((w.letGo _).withScene _) rfl).after rfl rfl rfl rfl))
  | @taken board id core _ htake =>
    have hafter : (w.takeCore board id).2 = w' := congrArg Prod.snd htake
    exact .inr (.inr (hafter ▸ w.takeCore_spares board id))
  | givenUp stake => exact .inr (.inr (w.giveUp_spares stake))
  | made handle number liveness =>
    exact .inr (.inr ((receiveCore_spares (w.withScene _) _).after rfl rfl rfl rfl))
  | @offered lock core _ hlock => exact .inr (.inr (w.offer_spares hlock core))
  | @assignedUnder snapshot core request _ hsnapshot =>
    have hmay : w.MayAssign snapshot.board request (.assignUnder snapshot request core) :=
      .under hsnapshot rfl
    exact .inr (.inr (((w.letGo core).assignUnder_spares hw.scene.stage hmay core).after
      rfl rfl rfl rfl))
  | disposed _ => exact .inr (.inr (.of_boards (Scene.boards_disposeCore _ _) rfl rfl rfl))
  | droppedCore _ => exact .inr (.inr (.of_boards (Scene.boards_giveBackSlot _ _) rfl rfl rfl))
  | newDedicated _ hnew => exact .inr (.inr (w.newDedicated_spares hnew))
  | newSpeculative _ hnew => exact .inr (.inr (w.newSpeculative_spares hnew))
  | newBroker _ hnew =>
    exact .inr (.inr ((w.newBroker_spares hnew).trans (.of_boards rfl rfl rfl rfl)))
  | attached sink service => exact .inr (.inr (w.attachService_spares sink service))
  | collected errand => exact .inr (.inr (.of_boards rfl rfl rfl rfl))

end World

end CoreBroker
