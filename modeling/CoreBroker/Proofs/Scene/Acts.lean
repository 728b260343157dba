import CoreBroker.Proofs.Lists
import CoreBroker.Proofs.Scene.Stage
set_option autoImplicit false

/-!
# What the operations of a scene do

Every operation of the scene is either aside or performs one act.  Nothing else about the operations
is used where runs are followed.
-/

namespace CoreBroker

namespace Scene

variable {s s' : Scene}

/-! ## Records -/

/-- Something was written down, and that is all. -/
def LogsOnly (s s' : Scene) : Prop := s' = { s with log := s'.log, memory := s'.memory }

theorem logsOnly_report (s : Scene) (level : Log.Level) (message : Phrase Nat)
    (fields : List (String × Phrase Nat)) : s.LogsOnly (s.report level message fields) := by
  unfold report
  split <;> rfl

theorem logsOnly_trace (s : Scene) (sink : Trace.Sink) (source : String) (message : Phrase Nat) :
    s.LogsOnly (s.trace sink source message) := by
  unfold trace
  split
  · rfl
  · exact s.logsOnly_report _ _ _
  · rfl

theorem LogsOnly.trans {s s₁ s₂ : Scene} (h₁ : s.LogsOnly s₁) (h₂ : s₁.LogsOnly s₂) : s.LogsOnly s₂ := by
  unfold LogsOnly at h₁ h₂ ⊢
  rw [h₂, h₁]

theorem LogsOnly.same {α : Type} {s s' : Scene} (h : s.LogsOnly s') (part : Scene → α)
    (hpart : ∀ s : Scene, ∀ log memory, part { s with log, memory } = part s) : part s' = part s := by
  rw [h, hpart]

theorem logsOnly_traceBoard (s : Scene) (b : Nat) (message : Phrase Nat) :
    s.LogsOnly (s.traceBoard b message) := by
  unfold traceBoard
  split
  · exact s.logsOnly_trace _ _ _
  · rfl

theorem logsOnly_reportReserved (s : Scene) (b id : Nat) : s.LogsOnly (s.reportReserved b id) :=
  (s.logsOnly_traceBoard b _).trans (logsOnly_report _ _ _ _)

/-! ## Aside -/

namespace Aside

theorem refl (s : Scene) : Aside s s := ⟨.refl s, rfl, rfl⟩

theorem trans {s₁ s₂ s₃ : Scene} (h₁ : Aside s₁ s₂) (h₂ : Aside s₂ s₃) : Aside s₁ s₃ :=
  ⟨h₁.toPrecedes.trans h₂.toPrecedes, h₂.stage.trans h₁.stage, h₂.story.trans h₁.story⟩

end Aside

theorem aside_of_same (hserial : s.nextSerial ≤ s'.nextSerial) (hclock : s'.clock = s.clock)
    (hfired : s'.fired = s.fired) (hstage : s'.stage = s.stage) (hjournal : s'.journal = s.journal) :
    Aside s s' where
  toPrecedes := .of_eq hserial hclock hfired
  stage := hstage
  story := by rw [story, story, hjournal]

theorem aside_fresh (s : Scene) : Aside s s.fresh.2 := aside_of_same (Nat.le_succ _) rfl rfl rfl rfl

theorem aside_spawn (s : Scene) (t : Task) : Aside s (s.spawn t) :=
    aside_of_same (Nat.le_refl _) rfl rfl rfl rfl

theorem aside_fire (s : Scene) (t : Token) : Aside s (s.fire t) :=
  ⟨⟨Nat.le_refl _, Nat.le_refl _, List.subset_cons_self _ _⟩, rfl, rfl⟩

theorem aside_killCore (s : Scene) (c : Core) : Aside s (s.killCore c) :=
  aside_of_same (Nat.le_refl _) rfl rfl rfl rfl

theorem aside_setGate (s : Scene) (gate : String) (permits : Permits) :
    Aside s (s.setGate gate permits) := aside_of_same (Nat.le_refl _) rfl rfl rfl rfl

theorem aside_draft (s : Scene) (preference : Preference) : Aside s (s.draft preference).2 :=
  aside_of_same (Nat.le_succ _) rfl rfl rfl rfl

theorem aside_newCall (s : Scene) (provider : Nat) (token : Token) :
    Aside s (s.newCall provider token).2 := aside_of_same (Nat.le_succ _) rfl rfl rfl rfl

theorem aside_report (s : Scene) (level : Log.Level) (message : Phrase Nat)
    (fields : List (String × Phrase Nat)) : Aside s (s.report level message fields) := by
  unfold report
  split
  · exact aside_of_same (Nat.le_refl _) rfl rfl rfl rfl
  · exact Aside.refl s

theorem aside_trace (s : Scene) (sink : Trace.Sink) (source : String) (message : Phrase Nat) :
    Aside s (s.trace sink source message) := by
  unfold trace
  split
  · exact Aside.refl s
  · exact aside_report s _ _ _
  · exact aside_of_same (Nat.le_refl _) rfl rfl rfl rfl

/-- What only concerns a request to a provider is no part of the story. -/
theorem aside_note (s : Scene) {e : Event} (he : e.isAboutCall = true) : Aside s (s.note e) := by
  refine ⟨.of_eq (Nat.le_refl _) rfl rfl, rfl, ?_⟩
  simp [story, note, he]

theorem aside_modifyProvider (s : Scene) (p : Nat) {f : Provider → Provider}
    (hf : ∀ provider, s.providers[p]? = some provider → (f provider).ref = provider.ref) :
    Aside s (s.modifyProvider p f) := by
  refine aside_of_same (Nat.le_refl _) rfl rfl ?_ rfl
  simp only [stage, modifyProvider]
  rw [map_modify_eq_self hf]

/-- The guard and the trace sink of a registry are no part of the stage. -/
theorem aside_modifyBoard (s : Scene) (b : Nat) {f : Board → Board}
    (hregistry : ∀ board, (f board).registry = board.registry)
    (hchanges : ∀ board, (f board).changes = board.changes) : Aside s (s.modifyBoard b f) := by
  refine aside_of_same (Nat.le_refl _) rfl rfl ?_ rfl
  simp only [stage, modifyBoard]
  rw [map_modify_eq_self]
  intro board _
  rw [hregistry, hchanges]

theorem aside_modifyRoster (s : Scene) (r : Nat) {f : Roster → Roster}
    (hmembers : ∀ roster, (f roster).members = roster.members)
    (hchanges : ∀ roster, (f roster).changes = roster.changes) :
    Aside s (s.modifyRoster r f) := by
  refine aside_of_same (Nat.le_refl _) rfl rfl ?_ rfl
  simp only [stage, modifyRoster]
  rw [map_modify_eq_self]
  intro roster _
  rw [hmembers, hchanges]

theorem ref_setPermits (provider : Provider) (permits : Permits) :
    (provider.setPermits permits).ref = provider.ref := by
  unfold Provider.setPermits
  split <;> rfl

theorem aside_setPermits (s : Scene) (p : Nat) (permits : Permits) :
    Aside s (s.setPermits p permits) :=
  s.aside_modifyProvider p fun provider _ => ref_setPermits provider permits

theorem aside_withdrawTicket (s : Scene) (call : Call) : Aside s (s.withdrawTicket call) :=
  s.aside_modifyProvider call.provider fun provider _ => ref_setPermits provider _

theorem aside_giveBackSlot (s : Scene) (c : Core) : Aside s (s.giveBackSlot c) := by
  unfold giveBackSlot
  split
  · exact s.aside_modifyProvider _ fun provider _ => ref_setPermits provider _
  · exact Aside.refl s

theorem aside_leave (s : Scene) (b : Nat) : Aside s (s.leave b) :=
  s.aside_modifyBoard b (fun _ => rfl) fun _ => rfl

theorem aside_withdraw (s : Scene) (b : Nat) (t : Task) : Aside s (s.withdraw b t) :=
  s.aside_modifyBoard b (fun _ => rfl) fun _ => rfl

theorem aside_traceBoard (s : Scene) (b : Nat) (message : Phrase Nat) :
    Aside s (s.traceBoard b message) := by
  unfold traceBoard
  split
  · exact s.aside_trace _ _ _
  · exact Aside.refl s

theorem aside_reportReserved (s : Scene) (b id : Nat) : Aside s (s.reportReserved b id) :=
  (s.aside_traceBoard b _).trans (aside_report _ _ _ _)

/-- Joining the queue for the guard of a registry is aside. -/
theorem aside_of_joined {b : Nat} {t : Task} (hjoined : s.enter b t = .joined s') : Aside s s' := by
  unfold enter at hjoined
  cases hboard : s.boards[b]? with
  | none => simp [hboard] at hjoined
  | some board =>
    cases henter : board.guard.enter? (.task t) with
    | some guard => simp [hboard, henter] at hjoined
    | none =>
      cases hjoin : board.guard.join? (.task t) with
      | none => simp [hboard, henter, hjoin] at hjoined
      | some guard =>
        simp only [hboard, henter, hjoin, Entry.joined.injEq] at hjoined
        rw [← hjoined]
        exact s.aside_modifyBoard b (fun _ => rfl) fun _ => rfl

/-- Getting the guard of a registry is aside; the registry is as it was. -/
theorem aside_of_entered {b : Nat} {t : Task} {board : Board}
    (hentered : s.enter b t = .entered board s') :
    Aside s s' ∧ s.boards[b]? = some board ∧ s'.clock = s.clock ∧ s'.fired = s.fired := by
  unfold enter at hentered
  cases hboard : s.boards[b]? with
  | none => simp [hboard] at hentered
  | some found =>
    cases henter : found.guard.enter? (.task t) with
    | none =>
      cases hjoin : found.guard.join? (.task t) with
      | none => simp [hboard, henter, hjoin] at hentered
      | some guard => simp [hboard, henter, hjoin] at hentered
    | some guard =>
      simp only [hboard, henter, Entry.entered.injEq] at hentered
      obtain ⟨rfl, rfl⟩ := hentered
      exact ⟨s.aside_modifyBoard b (fun _ => rfl) fun _ => rfl, rfl, rfl, rfl⟩

/-- A guard that nobody has can be had. -/
theorem exists_entered_of_free {b : Nat} {t : Task} {board : Board}
    (hboard : s.boards[b]? = some board) (hfree : board.guard.holder = none) :
    ∃ s', s.enter b t = .entered board s' := by
  simp only [enter, hboard, Guard.enter?, hfree]
  exact ⟨_, rfl⟩

theorem aside_dropCall (s : Scene) (call : Call) : Aside s (s.dropCall call) := by
  unfold dropCall
  split
  · exact Aside.refl s
  · exact Aside.refl s
  · exact s.aside_withdrawTicket call
  · exact (s.aside_withdrawTicket call).trans (aside_note _ rfl)
  · exact s.aside_note rfl

theorem aside_dropProbe (s : Scene) (core : Core) (ticket : Nat) :
    Aside s (s.dropProbe core ticket) := by
  unfold dropProbe
  split
  · exact s.aside_setGate _ _
  · exact s.aside_giveBackSlot core

theorem aside_of_probe_moved {core : Core} {ticket : Nat} {token : Token}
    (hmoved : s.lookAtProbe core ticket token = .moved s') : Aside s s' := by
  unfold lookAtProbe at hmoved
  split at hmoved
  · split at hmoved
    · exact absurd hmoved (by simp)
    · split at hmoved
      · exact absurd hmoved (by simp)
      · exact absurd hmoved (by simp)
      · cases hmoved
        exact s.aside_setGate _ _
      · exact absurd hmoved (by simp)
  · exact absurd hmoved (by simp)

theorem aside_of_probe_answered {core : Core} {ticket : Nat} {token : Token} {isAlive : Bool}
    (hanswered : s.lookAtProbe core ticket token = .answered isAlive s') : Aside s s' := by
  unfold lookAtProbe at hanswered
  split at hanswered
  · split at hanswered
    · cases hanswered
      exact s.aside_setGate _ _
    · split at hanswered
      · exact absurd hanswered (by simp)
      · exact absurd hanswered (by simp)
      · exact absurd hanswered (by simp)
      · cases hanswered
        exact s.aside_setGate _ _
  · cases hanswered
    exact Aside.refl s

/-- The probe of a core has an answer. -/
def Answers (s : Scene) (core : Core) (ticket : Nat) (token : Token) (isAlive : Bool) : Prop :=
  ∃ s', s.lookAtProbe core ticket token = .answered isAlive s'

/-- A core that cannot tell whether it works is taken to work. -/
theorem answers_of_unknown {core : Core} (hunknown : core.liveness = .unknown) {ticket : Nat}
    {token : Token} {isAlive : Bool} : s.Answers core ticket token isAlive ↔ isAlive = true := by
  simp [Answers, lookAtProbe, Scene.isAlive, hunknown, eq_comm]

/-! ## Acts -/

namespace Performs

variable {act : Act} {s₁ s₂ s₃ : Scene}

theorem andAside (h₁ : Performs act s₁ s₂) (h₂ : Aside s₂ s₃) : Performs act s₁ s₃ where
  stage := by
    rw [h₂.stage]
    exact h₁.stage
  story := h₂.story.trans h₁.story
  toPrecedes := h₁.toPrecedes.trans h₂.toPrecedes
  mint core hcore := ⟨(h₁.mint core hcore).1, Nat.lt_of_lt_of_le (h₁.mint core hcore).2 h₂.serial⟩

theorem afterAside (h₁ : Aside s₁ s₂) (h₂ : Performs act s₂ s₃) : Performs act s₁ s₃ where
  stage := by
    rw [← h₁.stage]
    exact h₂.stage
  story := by rw [h₂.story, h₁.story]
  toPrecedes := h₁.toPrecedes.trans h₂.toPrecedes
  mint core hcore := ⟨Nat.le_trans h₁.serial (h₂.mint core hcore).1, (h₂.mint core hcore).2⟩

theorem acts {may : Stage → Act → Prop} (h : Performs act s₁ s₂) (hmay : may s₁.stage act) :
    ActSequence may s₁ act.events s₂ := by
  have hacts : ActSequence may s₁ (act.events ++ []) s₂ := ActSequence.refl.act hmay h
  rwa [List.append_nil] at hacts

end Performs

theorem performs_note (s : Scene) {e : Event} (he : e.isRemark = true) :
    Performs (.remarked e) s (s.note e) where
  stage := .remarked he
  story := by
    have habout : e.isAboutCall = false := by
      cases e <;> first | rfl | exact absurd he Bool.false_ne_true
    simp [story, note, habout, Act.events]
  toPrecedes := .of_eq (Nat.le_refl _) rfl rfl
  mint core hcore := absurd hcore (by simp)

theorem performs_disposeCore (s : Scene) (c : Core) :
    Performs (.remarked (.disposed c)) s (s.disposeCore c) := by
  have hnote : Performs (.remarked (.disposed c)) s (s.note (.disposed c)) := s.performs_note rfl
  unfold disposeCore
  split
  · exact (hnote.andAside (aside_report _ _ _ _)).andAside (aside_giveBackSlot _ c)
  · exact hnote

/-- The story of disposing of cores, the last one first. -/
theorem acts_disposeCores {may : Stage → Act → Prop}
    (hmay : ∀ st c, may st (.remarked (.disposed c))) :
    ∀ (cores : List Core) (s : Scene),
      ActSequence may s (cores.map Event.disposed).reverse (s.disposeCores cores) := by
  intro cores
  induction cores with
  | nil => exact fun s => .refl
  | cons c cores ih =>
    intro s
    have hfirst := (s.performs_disposeCore c).acts (hmay s.stage c)
    have hrest := ih (s.disposeCore c)
    rw [List.map_cons, List.reverse_cons]
    exact hfirst.trans hrest

theorem performs_mint (s : Scene) (handle : String) (number : Nat) (providerId : String)
    (liveness : Liveness) :
    Performs (.minted (s.mint handle number providerId liveness).1) s
      (s.mint handle number providerId liveness).2 where
  stage := .minted
  story := rfl
  toPrecedes := .of_eq (Nat.le_succ _) rfl rfl
  mint core hcore := by
    cases hcore
    exact ⟨Nat.le_refl _, Nat.lt_succ_self _⟩

theorem performs_issueCore (s : Scene) (p : Nat) (provider : Provider) (liveness : Liveness) :
    Performs (.minted (s.issueCore p provider liveness).1) s
      (s.issueCore p provider liveness).2 := by
  have haside : Aside s (s.modifyProvider p fun found => { found with issued := provider.issued + 1 }) :=
    s.aside_modifyProvider p fun _ _ => rfl
  exact Performs.afterAside haside (performs_mint _ _ _ _ _)

/-! ## Calls -/

end Scene

/-- What a look at a call finds: nothing that matters to the stage, or a core that was made. -/
def CallLook.Tells (s : Scene) : CallLook → Prop
  | .blocked => True
  | .moved _ s' => s.Aside s'
  | .ended (.core core) s' => Scene.Performs (.minted core) s s'
  | .ended _ s' => s.Aside s'

theorem CallLook.Tells.afterAside {look : CallLook} {s s' : Scene} (haside : s.Aside s')
    (htells : look.Tells s') : look.Tells s := by
  cases look with
  | blocked => trivial
  | moved call s₂ => exact haside.trans htells
  | ended result s₂ =>
    cases result with
    | core core => exact Scene.Performs.afterAside haside htells
    | failed chain => exact haside.trans htells
    | panicked => exact haside.trans htells

namespace Scene

variable {s s' : Scene}

theorem issuePlanned_tells (s : Scene) (p : Nat) (provider : Provider) (plan : Plan) :
    (s.issuePlanned p provider plan).Tells s := by
  have hissue := s.performs_issueCore p provider plan.liveness
  unfold issuePlanned
  simp only [CallLook.Tells]
  split
  · exact hissue.andAside (aside_note _ rfl)
  · exact (hissue.andAside (aside_killCore _ _)).andAside (aside_note _ rfl)

theorem followPlan_tells (s : Scene) (call : Call) (provider : Provider) (plan : Plan) :
    (s.followPlan call provider plan).Tells s := by
  unfold followPlan
  split
  · exact s.issuePlanned_tells _ _ _
  · exact Aside.refl s
  · exact s.aside_note rfl
  · exact s.aside_note rfl

theorem ref_nextPlan (provider : Provider) : provider.nextPlan.2.ref = provider.ref := by
  unfold Provider.nextPlan
  split <;> rfl

theorem lookAtPlanned_tells (s : Scene) (call : Call) (provider : Provider)
    (hprovider : s.providers[call.provider]? = some provider) :
    (s.lookAtPlanned call provider).Tells s := by
  unfold lookAtPlanned
  split
  · have hused : Aside s ((s.modifyProvider call.provider fun _ => provider.nextPlan.2).note
        (.called provider.handle)) := by
      refine (s.aside_modifyProvider call.provider fun found hfound => ?_).trans
        (aside_note _ rfl)
      have hsame : found = provider := by simpa [hprovider] using hfound.symm
      rw [hsame, ref_nextPlan]
    simp only
    split
    · exact (followPlan_tells _ _ _ _).afterAside hused
    · exact hused
  · split
    · exact s.aside_note rfl
    · split
      · exact s.followPlan_tells _ _ _
      · trivial
  · split
    · exact (s.aside_withdrawTicket call).trans (aside_note _ rfl)
    · split
      · trivial
      · trivial
      · exact s.aside_setPermits _ _
      · exact (issuePlanned_tells _ _ _ _).afterAside (s.aside_setPermits _ _)
  · trivial

theorem lookAtSlot_tells (s : Scene) (call : Call) (provider : Provider) :
    (s.lookAtSlot call provider).Tells s := by
  unfold lookAtSlot
  simp only
  split
  · exact s.aside_withdrawTicket call
  · split
    · trivial
    · exact s.aside_setPermits _ _
    · exact s.aside_setPermits _ _
    · exact (Performs.afterAside (s.aside_setPermits _ _)
        (performs_issueCore _ _ _ _)).andAside (aside_report _ _ _ _)

theorem lookAtCall_tells (s : Scene) (call : Call) : (s.lookAtCall call).Tells s := by
  unfold lookAtCall
  split
  · trivial
  · rename_i provider hprovider
    split
    · exact s.lookAtSlot_tells call provider
    · exact s.lookAtPlanned_tells call provider hprovider

end Scene

end CoreBroker
