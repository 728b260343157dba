import CoreBroker.Proofs.Registry.Reserved
import CoreBroker.Proofs.Scene.Changes
set_option autoImplicit false

/-!
# What is kept while somebody has a guard

A snapshot that has the guard of a registry keeps it until the snapshot is given up, and while it has the
guard no request of the registry is reserved.  This is stated for whoever has at most one guard, that of
the registry `own`, and assigns cores at most to the requests that `who` allows; for whatever else an
operation does it follows from what it leaves alone.
-/

namespace CoreBroker

/-- The request `id` of a registry has been assigned a core. -/
def Registry.Fulfils (g : Registry Core) (id : Nat) : Prop :=
  ∃ r ∈ g.requests, r.id = id ∧ r.isAssigned = true

/-- What happens to a board behind the backs of others.  `isOwn` says that whoever did it had the guard,
and `who` which requests it may have assigned cores to. -/
structure Board.Yields (isOwn : Prop) (who : Nat → Prop) (before after : Board) : Prop where
  held : ∀ n, ¬ isOwn → before.guard.holder = some (.snapshot n) →
    after.guard.holder = some (.snapshot n)
  marks : ∀ n, ¬ isOwn → before.guard.holder = some (.snapshot n) → ∀ id,
    after.registry.marked id ≤ before.registry.marked id
  assigned : ∀ id, ¬ who id → after.registry.Fulfils id → before.registry.Fulfils id

namespace Board.Yields

variable {isOwn : Prop} {who : Nat → Prop} {before after last : Board}

theorem refl (board : Board) : Yields isOwn who board board :=
  ⟨fun _ _ h => h, fun _ _ _ _ => Nat.le_refl _, fun _ _ h => h⟩

theorem trans (h₁ : Yields isOwn who before after) (h₂ : Yields isOwn who after last) :
    Yields isOwn who before last where
  held n hown hheld := h₂.held n hown (h₁.held n hown hheld)
  marks n hown hheld id :=
    Nat.le_trans (h₂.marks n hown (h₁.held n hown hheld) id) (h₁.marks n hown hheld id)
  assigned id hwho hafter := h₁.assigned id hwho (h₂.assigned id hwho hafter)

theorem of_registry (hregistry : after.registry = before.registry)
    (hheld : ∀ n, ¬ isOwn → before.guard.holder = some (.snapshot n) →
      after.guard.holder = some (.snapshot n)) : Yields isOwn who before after where
  held := hheld
  marks n _ _ id := by rw [hregistry]
  assigned id _ hafter := hregistry ▸ hafter

/-- Whoever has the guard does what it likes, as long as it assigns no cores. -/
theorem of_own (hown : isOwn) (hassigned : ∀ id, ¬ who id → after.registry.Fulfils id →
    before.registry.Fulfils id) : Yields isOwn who before after :=
  ⟨fun _ h _ => absurd hown h, fun _ h _ _ => absurd hown h, hassigned⟩

end Board.Yields

namespace Registry

variable {g : Registry Core}

/-- A request of a changed registry that was assigned a core was so before, unless the change did it. -/
theorem fulfils_of_modify {n id : Nat} {f : Request Core → Request Core}
    (hf : ∀ r, (f r).id = r.id ∧ (f r).isAssigned = r.isAssigned)
    (hafter : (g.modify n f).Fulfils id) : g.Fulfils id := by
  obtain ⟨q, hq, hid, hassigned⟩ := hafter
  obtain ⟨r, hr, rfl⟩ := mem_modify.mp hq
  refine ⟨r, hr, ?_⟩
  split at hid
  · rename_i hn
    rw [if_pos hn, (hf r).2] at hassigned
    exact ⟨(hf r).1.symm.trans hid, hassigned⟩
  · rename_i hn
    rw [if_neg hn] at hassigned
    exact ⟨hid, hassigned⟩

/-- Assigning a core to a request fulfils no other. -/
theorem fulfils_of_assign {g' : Registry Core} {n id : Nat} {core : Core}
    (hassign : g.assign n core = .ok g') (hne : id ≠ n) (hafter : g'.Fulfils id) : g.Fulfils id := by
  obtain ⟨r, r', hget, hr, rfl⟩ := assign_eq_ok hassign
  obtain ⟨-, rfl⟩ := get?_eq_some hget
  obtain ⟨q, hq, hid, hassigned⟩ := hafter
  obtain ⟨p, hp, rfl⟩ := mem_modify.mp hq
  by_cases hpid : p.id = r.id
  · rw [if_pos (beq_iff_eq.mpr hpid), Request.eq_of_assign hr] at hid
    exact absurd hid.symm hne
  · rw [if_neg (by simpa using hpid)] at hid hassigned
    exact ⟨p, hp, hid, hassigned⟩

/-- A request that somebody may look at has no core. -/
theorem not_fulfils_of_candidate (hids : (g.requests.map (·.id)).Nodup) {r : Request Core}
    (hmem : r ∈ g.requests) {c : Constraint} (hcandidate : r.isCandidate c = true) :
    ¬ g.Fulfils r.id := by
  rintro ⟨q, hq, hid, hassigned⟩
  rw [List.inj_on_of_nodup_map hids hq hmem hid] at hassigned
  simp [Request.isCandidate, hassigned] at hcandidate

/-- Entering a fresh request fulfils none. -/
theorem fulfils_of_enter {r : Request Core} (hfresh : r.IsFresh) {id : Nat}
    (hafter : (g.enter r).Fulfils id) : g.Fulfils id := by
  obtain ⟨q, hq, hid, hassigned⟩ := hafter
  rcases List.mem_append.mp hq with hold | hnew
  · exact ⟨q, hold, hid, hassigned⟩
  · rw [List.mem_singleton.mp hnew, hfresh.isAssigned] at hassigned
    exact absurd hassigned Bool.false_ne_true

end Registry

namespace Scene

/-- The registry `b` with its guard; one that is not set up yet is empty. -/
def boardAt (s : Scene) (b : Nat) : Board := (s.boards[b]?).getD {}

/-- The guard of the registry `b` is with the snapshot `n`. -/
def IsHeld (s : Scene) (b n : Nat) : Prop := (s.boardAt b).guard.holder = some (.snapshot n)

/-- `s'` came of `s` by somebody who had at most the guard of the registry `own` and assigned cores at
most to requests that `who` allows. -/
def Keeps (own : Option Nat) (who : Nat → Nat → Prop) (s s' : Scene) : Prop :=
  ∀ b, Board.Yields (own = some b) (who b) (s.boardAt b) (s'.boardAt b)

variable {s s' : Scene}

theorem boardAt_eq {b : Nat} {board : Board} (hboard : s.boards[b]? = some board) :
    s.boardAt b = board := by
  rw [boardAt, hboard]
  rfl

theorem boardAt_modifyBoard {b : Nat} {board : Board} (hboard : s.boards[b]? = some board)
    (f : Board → Board) : (s.modifyBoard b f).boardAt b = f board :=
  boardAt_eq (by simp [modifyBoard, hboard])

theorem board_stage (s : Scene) (b : Nat) :
    s.stage.board b = ((s.boardAt b).registry, (s.boardAt b).changes) := by
  cases hboard : s.boards[b]? with
  | some board => rw [boardAt_eq hboard, Stage.board_eq (stage_board hboard)]
  | none =>
    have hnone : s.stage.boards[b]? = none := by simp [stage, hboard]
    rw [boardAt, Stage.board, hboard, hnone]
    rfl

theorem IsSound.courseAt (hs : s.IsSound) (b : Nat) :
    Registry.Course (changesOf b s.story) (s.boardAt b).registry := by
  have hcourse := hs.course b
  rwa [board_stage] at hcourse

/-! ## Operations that leave the registries alone -/

section Boards

variable (s)

@[simp] theorem boards_fresh : s.fresh.2.boards = s.boards := rfl

@[simp] theorem boards_spawn (t : Task) : (s.spawn t).boards = s.boards := rfl

@[simp] theorem boards_fire (t : Token) : (s.fire t).boards = s.boards := rfl

@[simp] theorem boards_note (e : Event) : (s.note e).boards = s.boards := rfl

@[simp] theorem boards_report (level : Log.Level) (message : Phrase Nat)
    (fields : List (String × Phrase Nat)) : (s.report level message fields).boards = s.boards := by
  unfold report
  split <;> rfl

@[simp] theorem boards_trace (sink : Trace.Sink) (source : String) (message : Phrase Nat) :
    (s.trace sink source message).boards = s.boards := by
  cases sink with
  | nowhere => rfl
  | log => exact s.boards_report _ _ _
  | memory => rfl

@[simp] theorem boards_giveBackSlot (c : Core) : (s.giveBackSlot c).boards = s.boards := by
  unfold giveBackSlot
  split <;> rfl

@[simp] theorem boards_disposeCore (c : Core) : (s.disposeCore c).boards = s.boards := by
  unfold disposeCore
  split <;> simp

@[simp] theorem boards_disposeCores (cores : List Core) :
    (s.disposeCores cores).boards = s.boards := by
  induction cores generalizing s with
  | nil => rfl
  | cons c cores ih => exact (ih (s.disposeCore c)).trans (s.boards_disposeCore c)

@[simp] theorem boards_newCall (provider : Nat) (token : Token) :
    (s.newCall provider token).2.boards = s.boards := rfl

@[simp] theorem boards_dropCall (call : Call) : (s.dropCall call).boards = s.boards := by
  unfold dropCall
  split <;> rfl

@[simp] theorem boards_dropProbe (core : Core) (ticket : Nat) :
    (s.dropProbe core ticket).boards = s.boards := by
  unfold dropProbe
  split
  · rfl
  · exact s.boards_giveBackSlot core

@[simp] theorem boards_traceBoard (b : Nat) (message : Phrase Nat) :
    (s.traceBoard b message).boards = s.boards := by
  unfold traceBoard
  split <;> simp

@[simp] theorem boards_reportReserved (b id : Nat) :
    (s.reportReserved b id).boards = s.boards := by simp [reportReserved]

@[simp] theorem boards_subscribeRoster (r : Nat) : (s.subscribeRoster r).2.boards = s.boards := by
  unfold subscribeRoster
  split <;> rfl

@[simp] theorem boards_addMember (r : Nat) (p : ProviderRef) :
    (s.addMember r p).2.boards = s.boards := by
  unfold addMember
  split
  · rfl
  · split <;> simp [setRoster, modifyRoster, reportMember]

@[simp] theorem boards_removeMember (r : Nat) (id : String) :
    (s.removeMember r id).2.boards = s.boards := by
  unfold removeMember
  split
  · rfl
  · split <;> simp [setRoster, modifyRoster, reportMember]

theorem boards_foldl {α : Type} {act : Scene → α → Scene} (hact : ∀ s x, (act s x).boards = s.boards)
    (xs : List α) : (xs.foldl act s).boards = s.boards := by
  induction xs generalizing s with
  | nil => rfl
  | cons x xs ih => exact (ih (act s x)).trans (hact s x)

end Boards

end Scene

/-! ## Looks -/

/-- What a look at a call finds leaves the registries alone. -/
def CallLook.SparesBoards (s : Scene) : CallLook → Prop
  | .blocked => True
  | .moved _ s' | .ended _ s' => s'.boards = s.boards

/-- What was done before the look left the registries alone as well. -/
theorem CallLook.SparesBoards.of_eq {s s₁ : Scene} {look : CallLook} (h : look.SparesBoards s₁)
    (hboards : s₁.boards = s.boards) : look.SparesBoards s := by
  cases look with
  | blocked => trivial
  | moved _ s' => exact Eq.trans (b := s₁.boards) h hboards
  | ended _ s' => exact Eq.trans (b := s₁.boards) h hboards

namespace Scene

variable {s s' : Scene}

theorem issuePlanned_boards (s : Scene) (p : Nat) (provider : Provider) (plan : Plan) :
    (s.issuePlanned p provider plan).SparesBoards s := by
  unfold issuePlanned
  simp only [CallLook.SparesBoards, boards_note]
  split <;> rfl

theorem followPlan_boards (s : Scene) (call : Call) (provider : Provider) (plan : Plan) :
    (s.followPlan call provider plan).SparesBoards s := by
  unfold followPlan
  cases plan.course with
  | core => exact s.issuePlanned_boards _ _ _
  | release => exact (rfl : s.boards = s.boards)
  | fail chain => exact (s.boards_note (.failed provider.handle) :)
  | panic => exact (s.boards_note (.panicked provider.handle) :)

theorem lookAtPlanned_boards (s : Scene) (call : Call) (provider : Provider) :
    (s.lookAtPlanned call provider).SparesBoards s := by
  unfold lookAtPlanned
  cases call.point with
  | fresh =>
    dsimp only
    split
    · exact (followPlan_boards _ _ _ _).of_eq rfl
    · exact (rfl : s.boards = s.boards)
  | resting plan wakeAt =>
    dsimp only
    split
    · exact (s.boards_note (.abandoned provider.handle) :)
    · split
      · exact s.followPlan_boards _ _ _
      · trivial
  | awaiting plan =>
    dsimp only
    split
    · exact (rfl : s.boards = s.boards)
    · cases provider.permits.look call.ticket with
      | waiting => trivial
      | refused _ => trivial
      | joined permits => exact (rfl : s.boards = s.boards)
      | got permits => exact (issuePlanned_boards _ _ _ _).of_eq rfl
  | queueing => trivial

theorem lookAtSlot_boards (s : Scene) (call : Call) (provider : Provider) :
    (s.lookAtSlot call provider).SparesBoards s := by
  unfold lookAtSlot
  simp only
  split
  · rfl
  · split
    · trivial
    · rfl
    · rfl
    · exact boards_report _ _ _ _

theorem lookAtCall_boards (s : Scene) (call : Call) : (s.lookAtCall call).SparesBoards s := by
  unfold lookAtCall
  split
  · trivial
  · split
    · exact s.lookAtSlot_boards call _
    · exact s.lookAtPlanned_boards call _

/-- What a look at a probe finds leaves the registries alone. -/
theorem lookAtProbe_boards {core : Core} {ticket : Nat} {token : Token} :
    (∀ s', s.lookAtProbe core ticket token = .moved s' → s'.boards = s.boards) ∧
      ∀ isAlive s', s.lookAtProbe core ticket token = .answered isAlive s' →
        s'.boards = s.boards := by
  unfold lookAtProbe
  split
  · split
    · exact ⟨fun _ h => absurd h (by simp), fun _ _ h => by cases h; rfl⟩
    · split
      · exact ⟨fun _ h => absurd h (by simp), fun _ _ h => absurd h (by simp)⟩
      · exact ⟨fun _ h => absurd h (by simp), fun _ _ h => absurd h (by simp)⟩
      · exact ⟨fun _ h => by cases h; rfl, fun _ _ h => absurd h (by simp)⟩
      · exact ⟨fun _ h => absurd h (by simp), fun _ _ h => by cases h; rfl⟩
  · exact ⟨fun _ h => absurd h (by simp), fun _ _ h => by cases h; rfl⟩

/-! ## What is kept -/

namespace Keeps

variable {own : Option Nat} {who : Nat → Nat → Prop} {s₁ s₂ s₃ : Scene}

theorem of_boards (hboards : s₂.boards = s₁.boards) : Keeps own who s₁ s₂ := by
  intro b
  rw [boardAt, boardAt, hboards]
  exact .refl _

theorem refl (s : Scene) : Keeps own who s s := of_boards rfl

theorem trans (h₁ : Keeps own who s₁ s₂) (h₂ : Keeps own who s₂ s₃) : Keeps own who s₁ s₃ :=
  fun b => (h₁ b).trans (h₂ b)

theorem mono {who' : Nat → Nat → Prop} (hwho : ∀ b id, who b id → who' b id)
    (h : Keeps own who s₁ s₂) : Keeps own who' s₁ s₂ := fun b =>
  ⟨(h b).held, (h b).marks, fun id hnot => (h b).assigned id fun hallowed => hnot (hwho b id hallowed)⟩

theorem modifyBoard (s : Scene) (k : Nat) {f : Board → Board}
    (hf : Board.Yields (own = some k) (who k) (s.boardAt k) (f (s.boardAt k))) :
    Keeps own who s (s.modifyBoard k f) := by
  intro b
  by_cases hkb : k = b
  · subst hkb
    cases hboard : s.boards[k]? with
    | some board =>
      rw [boardAt_modifyBoard hboard]
      rw [boardAt_eq hboard] at hf ⊢
      exact hf
    | none =>
      have hafter : (s.modifyBoard k f).boards[k]? = none := by simp [Scene.modifyBoard, hboard]
      rw [boardAt, boardAt, hboard, hafter]
      exact .refl _
  · have hafter : (s.modifyBoard k f).boards[b]? = s.boards[b]? :=
      List.getElem?_modify_ne _ _ hkb
    rw [boardAt, boardAt, hafter]
    exact .refl _

theorem changeRegistry (s : Scene) (k : Nat) (change : RegistryChange Core)
    {f : Registry Core → Registry Core}
    (hf : Board.Yields (own = some k) (who k) (s.boardAt k)
      { s.boardAt k with registry := f (s.boardAt k).registry }) :
    Keeps own who s (s.changeRegistry k change f) := by
  unfold Scene.changeRegistry
  split
  · exact (modifyBoard s k hf).trans (of_boards rfl)
  · exact .refl s

end Keeps

section Operations

variable {own : Option Nat} {who : Nat → Nat → Prop} (s) (k id : Nat)

/-- Changing the announcements of a registry, or where its trace lines go. -/
theorem keeps_modifyChanges {f : Board → Board} (hregistry : ∀ board, (f board).registry = board.registry)
    (hguard : ∀ board, (f board).guard = board.guard) : Keeps own who s (s.modifyBoard k f) :=
  .modifyBoard s k (.of_registry (hregistry _) fun _ _ hheld => by rw [hguard]; exact hheld)

theorem keeps_drainBoard (receiver : Nat) : Keeps own who s (s.drainBoard k receiver) :=
  s.keeps_modifyChanges k (fun _ => rfl) fun _ => rfl

theorem keeps_unsubscribeBoard (receiver : Nat) :
    Keeps own who s (s.unsubscribeBoard k receiver) :=
  s.keeps_modifyChanges k (fun _ => rfl) fun _ => rfl

theorem keeps_subscribeBoard : Keeps own who s (s.subscribeBoard k).2 := by
  unfold subscribeBoard
  split
  · exact .refl s
  · exact s.keeps_modifyChanges k (fun _ => rfl) fun _ => rfl

theorem keeps_announceCounts : Keeps own who s (s.announceCounts k) :=
  s.keeps_modifyChanges k (fun _ => rfl) fun _ => rfl

theorem keeps_leave : Keeps (some k) who s (s.leave k) :=
  .modifyBoard s k (.of_own rfl fun _ _ h => h)

/-- A task gives up the guard, which a snapshot then keeps. -/
theorem keeps_withdraw (t : Task) : Keeps own who s (s.withdraw k t) := by
  refine .modifyBoard s k (.of_registry rfl fun n _ hheld => ?_)
  show ((s.boardAt k).guard.withdraw (.task t)).holder = _
  unfold Guard.withdraw
  rw [if_neg (by rw [hheld]; simp)]
  exact hheld

theorem keeps_unreserveRequest : Keeps own who s (s.unreserveRequest k id) := by
  refine .changeRegistry s k _ ⟨fun _ _ h => h, fun _ _ _ n => ?_, fun n _ hafter => ?_⟩
  · show ((s.boardAt k).registry.unreserve id).marked n ≤ _
    rw [Registry.marked_unreserve]
    split
    · exact Nat.zero_le _
    · exact Nat.le_refl _
  · exact Registry.fulfils_of_modify (f := fun r => { r with isReserved := false })
      (fun _ => ⟨rfl, rfl⟩) hafter

theorem keeps_reserveRequest : Keeps (some k) who s (s.reserveRequest k id) :=
  .changeRegistry s k _ (.of_own rfl fun _ _ hafter =>
    Registry.fulfils_of_modify (f := fun r => { r with isReserved := true }) (fun _ => ⟨rfl, rfl⟩) hafter)

theorem keeps_takeCore : Keeps own who s (s.takeCore k id).2 := by
  unfold takeCore
  split
  · exact .refl s
  · split
    · exact .refl s
    · refine .changeRegistry s k _ ⟨fun _ _ h => h, fun _ _ _ n => ?_, fun n _ hafter => ?_⟩
      · exact Nat.le_of_eq (Registry.marked_modify id fun _ _ _ => ⟨rfl, rfl⟩)
      · exact Registry.fulfils_of_modify (f := (·.withoutCore)) (fun _ => ⟨rfl, rfl⟩) hafter

theorem keeps_enterRequest {r : Request Core} (hfresh : r.IsFresh) :
    Keeps (some k) who s (s.enterRequest k r) := by
  unfold enterRequest
  have hchange : Keeps (some k) who s (s.changeRegistry k (.entered r) (·.enter r)) :=
    .changeRegistry s k _ (.of_own rfl fun _ _ hafter => Registry.fulfils_of_enter hfresh hafter)
  exact (hchange.trans (.of_boards (by simp))).trans (keeps_announceCounts _ k)

theorem keeps_disposeRequest : Keeps (some k) who s (s.disposeRequest k id).2 := by
  unfold disposeRequest
  split
  · exact .refl s
  · split
    · exact .refl s
    · rename_i r _
      have hchange : Keeps (some k) who s
          (s.changeRegistry k (.disposed id r.core) (·.dispose id)) :=
        .changeRegistry s k _ (.of_own rfl fun _ _ hafter =>
          Registry.fulfils_of_modify (f := (·.disposed)) (fun _ => ⟨rfl, rfl⟩) hafter)
      dsimp only
      split
      · exact (hchange.trans (.of_boards (by simp))).trans (keeps_announceCounts _ k)
      · exact hchange

variable {s k id}

theorem keeps_assignCore (hs : s.stage.IsSound) {core : Core}
    (hok : s.assignCore k id core = .ok s') (hwho : who k id) : Keeps own who s s' := by
  unfold assignCore at hok
  split at hok
  · exact absurd hok (by simp)
  · rename_i board hboard
    split at hok
    · exact absurd hok (by simp)
    · rename_i g' hassign
      rw [← Except.ok.inj hok]
      have hids : ((s.boardAt k).registry.requests.map (·.id)).Nodup := by
        have hboards := hs.board_ids k
        rwa [board_stage] at hboards
      rw [← boardAt_eq hboard] at hassign
      have hchange : Keeps own who s (s.changeRegistry k (.assigned id core) fun _ => g') :=
        .changeRegistry s k _ ⟨fun _ _ h => h,
          fun _ _ _ n => Nat.le_of_eq (Registry.marked_assign hids hassign),
          fun n hn hafter => Registry.fulfils_of_assign hassign (fun heq => hn (heq ▸ hwho)) hafter⟩
      exact (hchange.trans (.of_boards (by simp))).trans (keeps_announceCounts _ k)

theorem keeps_of_joined {t : Task} (hjoined : s.enter k t = .joined s') : Keeps own who s s' := by
  unfold enter at hjoined
  cases hboard : s.boards[k]? with
  | none => simp [hboard] at hjoined
  | some board =>
    cases henter : board.guard.enter? (.task t) with
    | some guard => simp [hboard, henter] at hjoined
    | none =>
      cases hjoin : board.guard.join? (.task t) with
      | none => simp [hboard, henter, hjoin] at hjoined
      | some guard =>
        simp only [hboard, henter, hjoin, Entry.joined.injEq] at hjoined
        rw [← hjoined]
        refine .modifyBoard s k (.of_registry rfl fun n _ hheld => ?_)
        rw [boardAt_eq hboard] at hheld
        unfold Guard.join? at hjoin
        split at hjoin
        · exact absurd hjoin (by simp)
        · rw [← Option.some.inj hjoin]
          exact hheld

/-- Whoever gets a guard took it from no snapshot. -/
theorem not_isHeld_of_entered {t : Task} {board : Board} (hentered : s.enter k t = .entered board s')
    (n : Nat) : ¬ s.IsHeld k n := by
  intro hheld
  unfold enter at hentered
  cases hboard : s.boards[k]? with
  | none => simp [hboard] at hentered
  | some found =>
    rw [IsHeld, boardAt_eq hboard] at hheld
    have hnone : found.guard.enter? (.task t) = none := by simp [Guard.enter?, hheld]
    cases hjoin : found.guard.join? (.task t) <;> simp [hboard, hnone, hjoin] at hentered

/-- Whoever gets a guard has it, so no snapshot does. -/
theorem not_isHeld_after_entered {t : Task} {board : Board}
    (hentered : s.enter k t = .entered board s') (n : Nat) : ¬ s'.IsHeld k n := by
  intro hheld
  unfold enter at hentered
  cases hboard : s.boards[k]? with
  | none => simp [hboard] at hentered
  | some found =>
    cases henter : found.guard.enter? (.task t) with
    | none =>
      cases hjoin : found.guard.join? (.task t) <;> simp [hboard, henter, hjoin] at hentered
    | some guard =>
      simp only [hboard, henter, Entry.entered.injEq] at hentered
      rw [← hentered.2, IsHeld, boardAt_modifyBoard hboard] at hheld
      unfold Guard.enter? at henter
      split at henter
      · rw [← Option.some.inj henter] at hheld
        exact absurd hheld (by simp)
      · rename_i holder hholder
        split at henter
        · rename_i hself
          rw [← Option.some.inj henter, hholder, hself] at hheld
          exact absurd hheld (by simp)
        · exact absurd henter (by simp)

/-- What is done under a guard is the business of whoever got it. -/
theorem Keeps.of_entered {t : Task} {board : Board} {s₁ s₂ : Scene}
    (hentered : s.enter k t = .entered board s₁) (hkeeps : Keeps (some k) who s₁ s₂) :
    Keeps own who s s₂ := by
  have hfree := not_isHeld_of_entered hentered
  unfold enter at hentered
  cases hboard : s.boards[k]? with
  | none => simp [hboard] at hentered
  | some found =>
    cases henter : found.guard.enter? (.task t) with
    | none =>
      cases hjoin : found.guard.join? (.task t) with
      | none => simp [hboard, henter, hjoin] at hentered
      | some guard => simp [hboard, henter, hjoin] at hentered
    | some guard =>
      simp only [hboard, henter, Entry.entered.injEq] at hentered
      obtain ⟨rfl, rfl⟩ := hentered
      intro b
      have hguarded : Keeps (some k) who s (s.modifyBoard k fun board => { board with guard }) :=
        .modifyBoard s k (.of_registry rfl fun _ h => absurd rfl h)
      have hafter := hguarded.trans hkeeps b
      by_cases hkb : k = b
      · subst hkb
        exact ⟨fun n _ hheld => absurd hheld (hfree n), fun n _ hheld => absurd hheld (hfree n),
          hafter.assigned⟩
      · have hother : ¬ some k = some b := fun h => hkb (Option.some.inj h)
        exact ⟨fun n _ => hafter.held n hother, fun n _ => hafter.marks n hother, hafter.assigned⟩

end Operations

end Scene

end CoreBroker
