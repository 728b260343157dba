import CoreBroker.Proofs.Speculative.AwareSteps
set_option autoImplicit false

/-!
# Cores on loan to a pass

A pass takes cores out of their obtainments to ask whether they work, and puts back what it does not
assign.  Meanwhile it has the guard of the obtainments, so nobody else touches the obtainment that a core
was taken from: it is idle and waits for the core.
-/

namespace CoreBroker

/-- The cores that a pass has taken out of obtainments and has not given up, with the ids of their
providers. -/
def SpeculativePoint.lent : SpeculativePoint → List Ready
  | .probing _ ready held _ _ _ => ready ++ [held]
  | .matching ready _ => ready
  | _ => []

theorem SpeculativePoint.lent_of_not_isInPass {point : SpeculativePoint}
    (hpass : point.isInPass = false) : point.lent = [] := by
  cases point with
  | probing _ _ _ _ _ _ => exact absurd hpass (by simp [isInPass])
  | matching _ _ => exact absurd hpass (by simp [isInPass])
  | _ => rfl

namespace States

variable {states states' : States Core} {id : String} {lent : List Ready} {entry : Ready}

theorem get?_modify {f : Obtainment Core → Obtainment Core}
    (hf : ∀ o, o.provider.id = id → (f o).provider.id = id) (k : String) :
    (states.modify id f).get? k =
      (states.get? k).map fun o => if o.provider.id == id then f o else o := by
  have hid : ∀ o : Obtainment Core,
      (if o.provider.id == id then f o else o).provider.id = o.provider.id := fun o => by
    split
    · rename_i ho
      exact (hf o (eq_of_beq ho)).trans (eq_of_beq ho).symm
    · rfl
  simp only [get?, modify, List.find?_map]
  congr 2
  funext o
  simp only [Function.comp_apply, hid]

/-- Replacing the obtainment from one provider leaves the others. -/
theorem get?_replace_ne {o' : Obtainment Core} (hid : o'.provider.id = id) {k : String} (hk : k ≠ id) :
    (states.modify id fun _ => o').get? k = states.get? k := by
  rw [get?_modify fun _ _ => hid]
  cases hget : states.get? k with
  | none => rfl
  | some o =>
    have hne : o.provider.id ≠ id := (get?_eq_some hget).2 ▸ hk
    simp [hne]

theorem get?_replace_self {o o' : Obtainment Core} (hget : states.get? id = some o)
    (hid : o'.provider.id = id) : (states.modify id fun _ => o').get? id = some o' := by
  rw [get?_modify fun _ _ => hid, hget]
  simp [(get?_eq_some hget).2]

/-! ## Waiting for cores -/

/-- The obtainments that the cores were taken from wait for them: one core to an obtainment, and each of
these is idle. -/
structure Await (states : States Core) (lent : List Ready) : Prop where
  ids : (lent.map (·.1)).Nodup
  idle : ∀ entry ∈ lent, ∃ o, states.get? entry.1 = some o ∧ o.phase = .idle

theorem await_nil (states : States Core) : states.Await [] :=
  ⟨List.nodup_nil, fun _ h => absurd h List.not_mem_nil⟩

theorem Await.sublist {lent' : List Ready} (h : states.Await lent) (hsub : lent'.Sublist lent) :
    states.Await lent' :=
  ⟨h.ids.sublist (hsub.map _), fun entry hentry => h.idle entry (hsub.subset hentry)⟩

/-- A core is on loan afterwards: it was before and its obtainment is untouched, or it was taken out of
its obtainment, which is as before otherwise. -/
inductive Lends (states : States Core) (lent : List Ready) (states' : States Core) (entry : Ready) : Prop
  | still (hlent : entry ∈ lent) (hsame : states'.get? entry.1 = states.get? entry.1)
  | taken {o : Obtainment Core} (hget : states.get? entry.1 = some o)
      (hphase : o.phase = .holding entry.2)
      (hafter : states'.get? entry.1 = some { o with phase := .idle })

/-- Taking a core out: one more obtainment waits. -/
theorem Await.takeCore {core : Core} (h : states.Await lent)
    (htake : states.takeCore? id = some (core, states')) :
    states'.Await (lent ++ [(id, core)]) ∧
      ∀ entry ∈ lent ++ [(id, core)], states.Lends lent states' entry := by
  unfold takeCore? at htake
  cases hget : states.get? id with
  | none => simp [hget] at htake
  | some o =>
    cases hheld : o.take? with
    | none => simp [hget, hheld] at htake
    | some taken =>
      obtain ⟨held, o'⟩ := taken
      simp only [hget, hheld, Option.bind_some, Option.some.injEq, Prod.mk.injEq] at htake
      obtain ⟨rfl, rfl⟩ := htake
      obtain ⟨hphase, rfl⟩ := Obtainment.of_take? hheld
      have hid : ({ o with phase := .idle } : Obtainment Core).provider.id = id :=
        (get?_eq_some hget).2
      -- Whatever is on loan already has an idle obtainment, so this one is another.
      have hne : ∀ entry ∈ lent, entry.1 ≠ id := by
        rintro entry hentry rfl
        obtain ⟨q, hq, hidle⟩ := h.idle entry hentry
        obtain rfl := Option.some.inj (hq.symm.trans hget)
        exact absurd (hidle.symm.trans hphase) (by simp)
      have hself : (states.modify id fun _ => { o with phase := .idle }).get? id =
          some { o with phase := .idle } := get?_replace_self hget hid
      have hothers : ∀ entry ∈ lent, (states.modify id fun _ => { o with phase := .idle }).get?
          entry.1 = states.get? entry.1 := fun entry hentry =>
        get?_replace_ne hid (hne entry hentry)
      refine ⟨⟨?_, fun entry hentry => ?_⟩, fun entry hentry => ?_⟩
      · rw [List.map_append, List.map_singleton, List.nodup_append]
        refine ⟨h.ids, List.nodup_singleton _, fun a ha b hb hab => ?_⟩
        obtain ⟨entry, hentry, rfl⟩ := List.mem_map.mp ha
        exact hne entry hentry (hab.trans (List.mem_singleton.mp hb))
      · rcases List.mem_append.mp hentry with hold | hnew
        · rw [hothers entry hold]
          exact h.idle entry hold
        · rw [List.mem_singleton.mp hnew]
          exact ⟨_, hself, rfl⟩
      · rcases List.mem_append.mp hentry with hold | hnew
        · exact .still hold (hothers entry hold)
        · rw [List.mem_singleton.mp hnew]
          exact .taken hget hphase hself

/-- Cores that are waited for can all be put back, and each comes to be where it was. -/
theorem Await.restoreCores : ∀ (lent : List Ready) {states : States Core}, states.Await lent →
    (states.restoreCores lent).2 = [] ∧
      (∀ k, k ∉ lent.map (·.1) → (states.restoreCores lent).1.get? k = states.get? k) ∧
      ∀ entry ∈ lent, ∀ o, states.get? entry.1 = some o →
        (states.restoreCores lent).1.get? entry.1 = some { o with phase := .holding entry.2 } := by
  intro lent
  induction lent with
  | nil => exact fun _ => ⟨rfl, fun _ _ => rfl, fun _ h => absurd h List.not_mem_nil⟩
  | cons first rest ih =>
    obtain ⟨id, core⟩ := first
    intro states h
    obtain ⟨o, hget, hphase⟩ := h.idle (id, core) List.mem_cons_self
    have hids := h.ids
    rw [List.map_cons, List.nodup_cons] at hids
    have hid : ({ o with phase := .holding core } : Obtainment Core).provider.id = id :=
      (get?_eq_some hget).2
    have hback : states.restoreCore? id core =
        some (states.modify id fun _ => { o with phase := .holding core }) := by
      simp [restoreCore?, hget, Obtainment.restore?, hphase]
    have hself := get?_replace_self hget hid
    have hothers : ∀ k, k ≠ id →
        (states.modify id fun _ => { o with phase := .holding core }).get? k = states.get? k :=
      fun k hk => get?_replace_ne hid hk
    have hne : ∀ entry ∈ rest, entry.1 ≠ id := fun entry hentry hsame =>
      hids.1 (List.mem_map.mpr ⟨entry, hentry, hsame⟩)
    have hrest : (states.modify id fun _ => { o with phase := .holding core }).Await rest := by
      refine ⟨hids.2, fun entry hentry => ?_⟩
      rw [hothers _ (hne entry hentry)]
      exact h.idle entry (List.mem_cons_of_mem _ hentry)
    obtain ⟨hnone, hkept, hput⟩ := ih hrest
    rw [States.restoreCores, hback]
    refine ⟨hnone, fun k hk => ?_, fun entry hentry q hq => ?_⟩
    · rw [List.map_cons, List.mem_cons, not_or] at hk
      exact (hkept k hk.2).trans (hothers k hk.1)
    · rcases List.mem_cons.mp hentry with rfl | hlater
      · obtain rfl := Option.some.inj (hget.symm.trans hq)
        exact (hkept id hids.1).trans hself
      · exact hput entry hlater q ((hothers _ (hne entry hlater)).trans hq)

end States

namespace Speculative

variable {chance : Chance} {f f' : Speculative} {s : Scene} {me : Nat} {a : Attempt}

/-- While a pass is under way the loop has the guard of the obtainments, and they wait for the cores that
the pass has taken. -/
structure IsLending (me : Nat) (f : Speculative) : Prop where
  guarded : f.point.isInPass = true → f.guard.holder = some (.speculative me)
  await : f.states.Await f.point.lent

theorem IsLending.elsewhere (hpass : f.point.isInPass = false) : f.IsLending me where
  guarded hin := absurd (hpass.symm.trans hin) Bool.false_ne_true
  await := by
    rw [SpeculativePoint.lent_of_not_isInPass hpass]
    exact States.await_nil _

/-- What a step makes of the cores on loan. -/
structure Borrows (me : Nat) (f f' : Speculative) : Prop where
  lending : f'.IsLending me
  lends : ∀ entry ∈ f'.point.lent, f.states.Lends f.point.lent f'.states entry

theorem Borrows.elsewhere (hpass : f'.point.isInPass = false) : f.Borrows me f' where
  lending := .elsewhere hpass
  lends entry hentry := by
    rw [SpeculativePoint.lent_of_not_isInPass hpass] at hentry
    exact absurd hentry List.not_mem_nil

theorem Borrows.of_same (hlending : f.IsLending me) (hstates : f'.states = f.states)
    (hpoint : f'.point = f.point)
    (hguard : f.guard.holder = some (.speculative me) → f'.guard.holder = some (.speculative me)) :
    f.Borrows me f' where
  lending := by
    refine ⟨fun hin => hguard (hlending.guarded (hpoint ▸ hin)), ?_⟩
    rw [hstates, hpoint]
    exact hlending.await
  lends entry hentry := .still (hpoint ▸ hentry) (by rw [hstates])

/-! ## Steps -/

/-- The next holder lends its core. -/
theorem nextHolder_borrows (pending : Nat) (discarded : List Core) {ready : List Ready} :
    ∀ (holders : List String) {f : Speculative} {s : Scene}, f.states.Await ready →
      let r := (f.nextHolder pending ready discarded s holders).1
      r.states.Await r.point.lent ∧
        ∀ entry ∈ r.point.lent, f.states.Lends ready r.states entry := by
  have hmatching : ∀ (f : Speculative), f.states.Await ready →
      let r := f.goTo (.matching ready discarded)
      r.states.Await r.point.lent ∧ ∀ entry ∈ r.point.lent, f.states.Lends ready r.states entry :=
    fun f h => ⟨h, fun entry hentry => .still hentry rfl⟩
  intro holders
  induction holders with
  | nil => exact fun h => hmatching _ h
  | cons id rest ih =>
    intro f s h
    unfold nextHolder
    split
    · exact hmatching f h
    · cases htake : f.states.takeCore? id with
      | none => exact ih h
      | some taken => exact h.takeCore htake

/-- A part of a pass that goes on to the next holder. -/
theorem IsLending.borrows (hids : f.states.ids.Nodup) (hlending : f.IsLending me)
    (hpass : f.point.isInPass = true)
    {pending : Nat} {ready : List Ready} {discarded : List Core} {holders : List String}
    (hready : ready.Sublist f.point.lent) :
    f.Borrows me (f.nextHolder pending ready discarded s holders).1 := by
  obtain ⟨hawait, hlends⟩ := nextHolder_borrows pending discarded holders (s := s)
    (hlending.await.sublist hready)
  have hguard : (f.nextHolder pending ready discarded s holders).1.guard = f.guard := by
    rw [(nextHolder_holds pending ready discarded holders hids).same]
  refine ⟨⟨fun _ => hguard ▸ hlending.guarded hpass, hawait⟩, fun entry hentry => ?_⟩
  cases hlends entry hentry with
  | still hlent hsame => exact .still (hready.subset hlent) hsame
  | taken hget hphase hafter => exact .taken hget hphase hafter

theorem count_borrows (chance : Chance) (hids : f.states.ids.Nodup) (hlending : f.IsLending me)
    (hpass : f.point.isInPass = true) (discarded : List Core) (board : Board) (s : Scene) :
    f.Borrows me (f.count chance discarded board s).1 := by
  by_cases hnone : board.registry.candidateCount f.constraint = 0
  · simp only [count, hnone, if_true]
    refine ⟨⟨fun _ => hlending.guarded hpass, States.await_nil _⟩, fun entry hentry => ?_⟩
    exact absurd hentry List.not_mem_nil
  · simp only [count, hnone, if_false]
    exact hlending.borrows hids hpass (List.nil_sublist _)

/-- A core that was found dead is not put back. -/
theorem judge_borrows (hids : f.states.ids.Nodup) (hlending : f.IsLending me) {pending : Nat}
    {ready : List Ready} {held : Ready} {ticket : Nat} {holders : List String} {discarded : List Core}
    (hpoint : f.point = .probing pending ready held ticket holders discarded) (isAlive : Bool) :
    f.Borrows me (f.judge pending ready held holders discarded isAlive s).1 := by
  have hpass : f.point.isInPass = true := by
    rw [hpoint]
    rfl
  have hlent : f.point.lent = ready ++ [held] := by
    rw [hpoint]
    rfl
  unfold judge
  split
  · exact hlending.borrows hids hpass (hlent ▸ List.Sublist.refl _)
  · exact hlending.borrows hids hpass (hlent ▸ List.sublist_append_left _ _)

/-- Every step of the loop keeps account of the cores on loan. -/
theorem step_borrows (hids : f.states.ids.Nodup) (hlending : f.IsLending me)
    {r : Speculative × Scene} (hstep : f.step chance me s = some r) : f.Borrows me r.1 := by
  cases step_loopStep hstep with
  | joins hholder => exact .of_same hlending rfl rfl hholder.trans
  | waits _ => exact .of_same hlending rfl rfl id
  | begins _ => exact .elsewhere (turn_leavesPass f _).pass
  | @reconciles guard _ hholder =>
    refine ⟨⟨fun _ => hholder, States.await_nil _⟩, fun entry hentry => ?_⟩
    exact absurd hentry List.not_mem_nil
  | counts hpoint _ _ => exact count_borrows chance hids hlending (by rw [hpoint]; rfl) _ _ _
  | judges hpoint _ isAlive => exact judge_borrows hids hlending hpoint isAlive
  | assigns _ _ _ =>
    rw [finishPass_eq]
    exact .elsewhere (SpeculativePoint.of_inTurn (P := (·.isInPass = false)) (fun _ => rfl) rfl _)
  | discards _ | dissolves _ =>
    rw [disposeInTurn_eq]
    exact .elsewhere (SpeculativePoint.of_inTurn (P := (·.isInPass = false)) (fun _ => rfl) rfl _)
  | stops _ _ => exact .elsewhere rfl
  | @notices exit exits _ _ => exact .elsewhere (noticeExit_leavesPass { f with exits } exit _).1.pass
  | wakes _ => exact .elsewhere (turn_leavesPass f _).pass
  | records _ => exact .elsewhere rfl
  | resumes _ => exact .elsewhere (turn_leavesPass f _).pass
  | @releases guard _ => exact .elsewhere (releaseAll_leavesPass { f with guard } s).pass
  | noticesLate hpoint _ =>
    refine .elsewhere ?_
    show f.point.isInPass = false
    rw [hpoint]
    rfl
  | finishes _ _ => exact .elsewhere rfl

/-- No attempt touches an obtainment while a pass is under way. -/
theorem stepAttempt_borrows (hids : f.states.ids.Nodup) (hlending : f.IsLending me)
    {r : Speculative × Scene} (hstep : f.stepAttempt me a s = some r) : f.Borrows me r.1 := by
  obtain ⟨hattempted, -⟩ := stepAttempt_attempted hids hstep
  generalize r.1 = f' at hattempted
  cases hattempted with
  | goesOn hholder => exact .of_same hlending rfl rfl hholder.trans
  | exits _ => exact .of_same hlending rfl rfl id
  | refused hfree =>
    exact .elsewhere (Bool.eq_false_iff.mpr fun hin => hfree (hlending.guarded hin))
  | settles _ _ hfree =>
    exact .elsewhere (Bool.eq_false_iff.mpr fun hin => hfree (hlending.guarded hin))

end Speculative

end CoreBroker
