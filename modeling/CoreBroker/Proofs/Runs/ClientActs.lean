import CoreBroker.Proofs.Runs.ClientSteps
set_option autoImplicit false

/-!
# Single client steps

Everything a client does is put together from the client steps proved here: one for each way in which a
core, a drafted request or a reservation changes hands, and one for whatever changes no such thing.
-/

namespace CoreBroker.World

/-- Nothing has changed but the scene, the hand of the client, and what is not accounted for. -/
structure Untouched (w w' : World) : Prop where
  dedicated : w'.dedicated = w.dedicated
  speculative : w'.speculative = w.speculative
  errands : w'.errands = w.errands
  locks : w'.locks = w.locks

theorem Untouched.refl (w : World) : Untouched w w := ⟨rfl, rfl, rfl, rfl⟩

namespace ClientStep

variable {w w' : World} {actor : Option Task} {e e' : Option Errand} {events : List Event}

theorem guards_of_eq (hspeculative : w'.speculative = w.speculative) (i : Nat)
    (f f' : Speculative) (hf : w.speculative[i]? = some f) (hf' : w'.speculative[i]? = some f')
    (hholder : f.guard.holder = some (.speculative i)) :
    f'.guard.holder = some (.speculative i) := by
  rw [hspeculative, hf] at hf'
  cases hf'
  exact hholder

theorem orderly_of_eq (herrands : w'.errands = w.errands) (hlocks : w'.locks = w.locks)
    (hserial : w.scene.nextSerial ≤ w'.scene.nextSerial)
    (hboards : w.scene.stage.boards.length ≤ w'.scene.stage.boards.length) (hw : w.IsOrderly) :
    w'.IsOrderly := by
  refine ⟨?_, ?_, ?_, ?_, ?_, ?_⟩
  · rw [herrands]
    exact hw.errands
  · rw [herrands]
    exact fun e he => Nat.lt_of_lt_of_le (hw.errandsBelow e he) hserial
  · rw [hlocks]
    exact hw.locks
  · rw [hlocks]
    exact fun lock hlock => Nat.lt_of_lt_of_le (hw.locksBelow lock hlock) hserial
  · rw [hlocks]
    exact fun lock hlock => Nat.lt_of_lt_of_le (hw.lockBoards lock hlock) hboards
  · rw [herrands]
    exact hw.fresh

/-- A client step that touches nothing but the scene, the hand, and the errand that takes the step. -/
theorem of_untouched (huntouched : w.Untouched w') (hacts : w.scene.ActSequence w.May events w'.scene)
    (hfresh : (∀ x ∈ e, x.IsFresh) → ∀ x ∈ e', x.IsFresh)
    (hcores : ∀ core, w'.hand.count core + e'.toList.countP (·.carries core) + gone core events ≤
      w.hand.count core + e.toList.countP (·.carries core) + come core events)
    (hpassings : ∀ b id core, e'.toList.countP (·.passes b id core) +
        (events.count (.refused b id core) + events.count (.lost b id core) +
          events.count (.changed b (.assigned id core))) =
      e.toList.countP (·.passes b id core) + events.count (.offered b id core))
    (hdrafts : ∀ id, e'.toList.countP (·.drafts id) + events.countP (·.enters id) ≤
      e.toList.countP (·.drafts id) +
        (decide (w.scene.nextSerial ≤ id ∧ id < w'.scene.nextSerial)).toNat)
    (hlocks : ∀ b id, .changed b (.reserved id) ∉ events ∧ .changed b (.unreserved id) ∉ events)
    (hclosings : ∀ core, events.countP (·.closes core) =
      if actor.isSome then events.count (.disposed core) else 0)
    (hstopped : ∀ t, .stopped t ∈ events → w.isOver t = true) :
    ClientStep w actor e events w' e' where
  acts := hacts
  dedicated := congrArg _ huntouched.dedicated
  speculative := congrArg _ huntouched.speculative
  guards := guards_of_eq huntouched.speculative
  orderly := orderly_of_eq huntouched.errands huntouched.locks hacts.serial_le hacts.length_boards_le
  fresh := hfresh
  cores core := by
    have hcore := hcores core
    simp only [kept, huntouched.errands]
    omega
  passings b id core := by
    have hpassing := hpassings b id core
    simp only [passing, huntouched.errands]
    omega
  drafts id := by
    have hdraft := hdrafts id
    simp only [drafted, huntouched.errands]
    omega
  locks b id := by
    simp only [locked, huntouched.locks]
    rw [List.count_eq_zero.mpr (hlocks b id).1, List.count_eq_zero.mpr (hlocks b id).2]
  marks hstage b id hmarked := by
    rcases hacts.isMarked hstage hmarked with hmark | ⟨-, hbefore⟩
    · exact absurd hmark (lastMark_ne_true (hlocks b id).1)
    · exact .inr ⟨(hlocks b id).2, hbefore⟩
  closings := hclosings
  stopped := hstopped

/-- A client step that changes nothing that is accounted for. -/
theorem quiet (huntouched : w.Untouched w') (hacts : w.scene.ActSequence w.May [] w'.scene)
    (hhand : ∀ core, w'.hand.count core ≤ w.hand.count core) : ClientStep w actor e [] w' e := by
  refine of_untouched huntouched hacts (fun h => h) (fun core => ?_) (fun _ _ _ => rfl)
    (fun _ => Nat.le_add_right _ _) (fun _ _ => by simp) (fun _ => by simp)
    (fun t ht => absurd ht List.not_mem_nil)
  have hcore := hhand core
  simp only [gone, come, List.countP_nil]
  omega

theorem aside {s : Scene} (haside : w.scene.Aside s) : ClientStep w actor e [] (w.withScene s) e :=
  quiet ⟨rfl, rfl, rfl, rfl⟩ (.aside .refl haside) fun _ => Nat.le_refl _

/-- The errand goes on to something that has the same core and no new draft. -/
theorem goesOn {x x' : Errand} (hcore : x'.core? = x.core?) (hpassing : x'.passing? = x.passing?)
    (hdraft : x'.draft? = none ∨ x'.draft? = x.draft?) :
    ClientStep w actor (some x) [] w (some x') := by
  refine of_untouched (.refl w) .refl (fun hfresh y hy => ?_) (fun core => ?_)
    (fun b id core => ?_) (fun id => ?_) (fun _ _ => by simp) (fun _ => by simp)
    (fun t ht => absurd ht List.not_mem_nil)
  · cases hy
    intro q hq
    rcases hdraft with hnone | hsame
    · rw [hnone] at hq
      exact absurd hq (by simp)
    · exact hfresh x rfl q (hsame ▸ hq)
  · simp [Errand.carries, hcore, gone, come]
  · simp [Errand.passes, hpassing]
  · rcases hdraft with hnone | hsame
    · simp [Errand.drafts, hnone]
    · simp [Errand.drafts, hsame]

theorem ended {x : Errand} (hpassing : x.passing? = none) : ClientStep w actor (some x) [] w none := by
  refine of_untouched (.refl w) .refl (fun _ y hy => absurd hy (by simp)) (fun core => ?_)
    (fun b id core => ?_) (fun id => ?_) (fun _ _ => by simp) (fun _ => by simp)
    (fun t ht => absurd ht List.not_mem_nil)
  · simp only [Option.toList_none, List.countP_nil, gone, come]
    omega
  · simp [Errand.passes, hpassing]
  · simp

/-! ## Cores -/

theorem count_letGo {hand : List Core} {core : Core} (hmem : core ∈ hand) (c : Core) :
    (hand.filter (· != core)).count c + (decide (core = c)).toNat ≤ hand.count c := by
  by_cases hc : core = c
  · subst hc
    have hnone : (hand.filter (· != core)).count core = 0 := by
      rw [List.count_eq_zero]
      intro h
      exact absurd (List.mem_filter.mp h).2 (by simp)
    have hpos := List.count_pos_iff.mpr hmem
    simp only [hnone, decide_true, Bool.toNat_true]
    omega
  · simp only [hc, decide_false, Bool.toNat_false, Nat.add_zero]
    exact List.Sublist.count_le c List.filter_sublist

theorem aside_giveBackSlots : ∀ (cores : List Core) (s : Scene),
    s.Aside (cores.foldl Scene.giveBackSlot s)
  | [], s => .refl s
  | core :: rest, s => (s.aside_giveBackSlot core).trans (aside_giveBackSlots rest _)

theorem aside_receiveCore (w : World) (core : Core) :
    w.scene.Aside (w.receiveCore core).scene :=
  aside_giveBackSlots _ _

/-- The client gets the core, and may lose others. -/
theorem count_receiveCore (w : World) (core c : Core) :
    (w.receiveCore core).hand.count c ≤ w.hand.count c + (decide (core = c)).toNat := by
  have hothers : ((w.hand.partition (·.name == core.name)).2).count c ≤ w.hand.count c := by
    rw [List.partition_eq_filter_filter]
    exact List.Sublist.count_le c List.filter_sublist
  have hlast : [core].count c = (decide (core = c)).toNat := by
    simp [count_cons_toNat]
  simp only [receiveCore, List.count_append, hlast]
  omega

/-- The client gets a core into its hands, and the errand is over. -/
theorem receives {s : Scene} {core : Core} (hacts : w.scene.ActSequence w.May events s)
    (hcores : ∀ c, (decide (core = c)).toNat + gone c events ≤
      e.toList.countP (·.carries c) + come c events)
    (hpassings : ∀ b id c, events.count (.refused b id c) + events.count (.lost b id c) +
        events.count (.changed b (.assigned id c)) =
      e.toList.countP (·.passes b id c) + events.count (.offered b id c))
    (hentered : ∀ id, events.countP (·.enters id) = 0)
    (hlocks : ∀ b id, .changed b (.reserved id) ∉ events ∧ .changed b (.unreserved id) ∉ events)
    (hclosings : ∀ core, events.countP (·.closes core) =
      if actor.isSome then events.count (.disposed core) else 0)
    (hstopped : ∀ t, .stopped t ∉ events) :
    ClientStep w actor e events ((w.withScene s).receiveCore core) none := by
  refine of_untouched ⟨rfl, rfl, rfl, rfl⟩
    (hacts.aside (aside_receiveCore (w.withScene s) core)) (fun _ y hy => absurd hy (by simp))
    (fun c => ?_) (fun b id c => ?_) (fun id => ?_) hlocks hclosings
    (fun t ht => absurd ht (hstopped t))
  · have hcount := count_receiveCore (w.withScene s) core c
    have hhand : (w.withScene s).hand = w.hand := rfl
    have hcore := hcores c
    rw [hhand] at hcount
    simp only [Option.toList_none, List.countP_nil]
    omega
  · simpa using hpassings b id c
  · simp only [Option.toList_none, List.countP_nil, hentered id]
    omega

/-- A probe answers, and its core comes back. -/
theorem answered {s : Scene} {core : Core} {ticket : Nat} {token : Token}
    (haside : w.scene.Aside s) :
    ClientStep w actor (some (.probe core ticket token)) [] ((w.withScene s).receiveCore core) none := by
  refine receives (.aside .refl haside) (fun c => ?_) (fun _ _ _ => ?_) (fun _ => rfl)
    (fun _ _ => by simp) (fun _ => by simp) (fun _ => List.not_mem_nil)
  · by_cases hc : core = c <;> simp [Errand.carries, Errand.core?, hc]
  · simp [Errand.passes, Errand.passing?]

theorem minted {s : Scene} {core : Core} (hcore : ∀ x ∈ e, x.passing? = none)
    (hminted : Scene.Performs (.minted core) w.scene s) :
    ClientStep w actor e [.minted core] ((w.withScene s).receiveCore core) none := by
  refine receives (hminted.acts trivial) (fun c => ?_) (fun b id c => ?_) (fun id => ?_)
    (fun _ _ => by simp) (fun c => by simp [Event.closes]) (fun t => by simp)
  · by_cases hc : core = c <;> simp [gone, come, Event.removes, Event.brings, hc]
  · cases e with
    | none => simp
    | some x => simp [Errand.passes, hcore x rfl]
  · simp [Event.enters]

theorem taken {s : Scene} {core : Core} {b id : Nat} (hcore : ∀ x ∈ e, x.passing? = none)
    (htaken : Scene.Performs (.changed b (.taken id core)) w.scene s) :
    ClientStep w actor e [.changed b (.taken id core)] ((w.withScene s).receiveCore core) none := by
  refine receives (htaken.acts trivial) (fun c => ?_) (fun b' id' c => ?_) (fun id => ?_)
    (fun _ _ => by simp) (fun c => by simp [Event.closes]) (fun t => by simp)
  · by_cases hc : core = c <;> simp [gone, come, Event.removes, Event.brings, hc]
  · cases e with
    | none => simp
    | some x => simp [Errand.passes, hcore x rfl]
  · simp [Event.enters]

theorem refused {s : Scene} {lock : Lock} {core : Core}
    (hrefused : Scene.Performs (.remarked (.refused lock.board lock.request core)) w.scene s) :
    ClientStep w actor (some (.assign lock core)) [.refused lock.board lock.request core]
      ((w.withScene s).receiveCore core) none := by
  refine receives (hrefused.acts trivial) (fun c => ?_) (fun b id c => ?_) (fun id => ?_)
    (fun _ _ => by simp) (fun c => by simp [Event.closes]) (fun t => by simp)
  · by_cases hc : core = c <;>
      simp [gone, come, Event.removes, Event.brings, Errand.carries, Errand.core?, hc]
  · simp [Errand.passes, Errand.passing?, List.count_singleton]
  · simp [Event.enters]

theorem assigned {s : Scene} {lock : Lock} {core : Core}
    (hassigned : Scene.Performs (.changed lock.board (.assigned lock.request core)) w.scene s) :
    ClientStep w actor (some (.assign lock core)) [.changed lock.board (.assigned lock.request core)]
      (w.withScene s) none := by
  refine of_untouched ⟨rfl, rfl, rfl, rfl⟩ (hassigned.acts trivial)
    (fun _ y hy => absurd hy (by simp)) (fun c => ?_) (fun b id c => ?_) (fun id => ?_)
    (fun _ _ => by simp) (fun c => by simp [Event.closes]) (fun t ht => absurd ht (by simp))
  · have hhand : (w.withScene s).hand = w.hand := rfl
    by_cases hc : core = c <;>
      simp [gone, come, Event.removes, Event.brings, Errand.carries, Errand.core?, hc, hhand]
  · simp [Errand.passes, Errand.passing?, List.count_singleton]
  · simp [Event.enters]

/-- A request that is asked under a snapshot takes the core. -/
theorem assignedUnder {s : Scene} {b id : Nat} {core : Core} (hmem : core ∈ w.hand)
    (hassigned : Scene.Performs (.changed b (.assigned id core))
      (w.scene.note (.offered b id core)) s) :
    ClientStep w actor none [.changed b (.assigned id core), .offered b id core]
      ((w.letGo core).withScene s) none := by
  refine of_untouched ⟨rfl, rfl, rfl, rfl⟩
    (((w.scene.performs_note rfl).acts trivial).trans (hassigned.acts trivial))
    (fun _ y hy => absurd hy (by simp)) (fun c => ?_) (fun b' id' c => ?_) (fun id => ?_)
    (fun _ _ => by simp) (fun c => by simp [Event.closes]) (fun t ht => absurd ht (by simp))
  · have hcount := count_letGo hmem c
    have hhand : ((w.letGo core).withScene s).hand = w.hand.filter (· != core) := rfl
    rw [hhand]
    by_cases hc : core = c <;>
      simp [gone, come, Event.removes, Event.brings, hc] at hcount ⊢ <;> exact hcount
  · simp [List.count_cons]
  · simp [Event.enters]

/-- A request that is asked under a snapshot refuses the core, which comes back. -/
theorem refusedUnder {b id : Nat} {core : Core} (hmem : core ∈ w.hand) :
    ClientStep w actor none [.refused b id core, .offered b id core]
      (((w.letGo core).withScene ((w.scene.note (.offered b id core)).note
        (.refused b id core))).receiveCore core) none := by
  have hacts : w.scene.ActSequence w.May [.refused b id core, .offered b id core]
      ((w.scene.note (.offered b id core)).note (.refused b id core)) :=
    ((w.scene.performs_note rfl).acts trivial).trans
      ((Scene.performs_note _ rfl).acts trivial)
  refine of_untouched ⟨rfl, rfl, rfl, rfl⟩
    (hacts.aside (aside_receiveCore ((w.letGo core).withScene _) core))
    (fun _ y hy => absurd hy (by simp)) (fun c => ?_) (fun b' id' c => ?_) (fun id => ?_)
    (fun _ _ => by simp) (fun c => by simp [Event.closes]) (fun t ht => absurd ht (by simp))
  · have hback := count_receiveCore ((w.letGo core).withScene
      ((w.scene.note (.offered b id core)).note (.refused b id core))) core c
    have hcount := count_letGo hmem c
    have hhand : ((w.letGo core).withScene ((w.scene.note (.offered b id core)).note
      (.refused b id core))).hand = w.hand.filter (· != core) := rfl
    rw [hhand] at hback
    simp [gone, come, Event.removes, Event.brings]
    omega
  · simp [List.count_cons]
  · simp [Event.enters]

theorem disposed {core : Core} (hmem : core ∈ w.hand) :
    ClientStep w none none [.disposed core] ((w.letGo core).withScene (w.scene.disposeCore core))
      none := by
  refine of_untouched ⟨rfl, rfl, rfl, rfl⟩ ((w.scene.performs_disposeCore core).acts trivial)
    (fun _ y hy => absurd hy (by simp)) (fun c => ?_) (fun b id c => ?_) (fun id => ?_)
    (fun _ _ => by simp) (fun c => by simp [Event.closes]) (fun t ht => absurd ht (by simp))
  · have hcount := count_letGo hmem c
    have hhand : ((w.letGo core).withScene (w.scene.disposeCore core)).hand =
      w.hand.filter (· != core) := rfl
    rw [hhand]
    by_cases hc : core = c <;>
      simp [gone, come, Event.removes, Event.brings, hc] at hcount ⊢ <;> exact hcount
  · simp
  · simp [Event.enters]

theorem stoppedLoop {t : Task} (hover : w.isOver t = true) :
    ClientStep w actor e [.stopped t] (w.noteStopped t) e := by
  refine of_untouched ⟨rfl, rfl, rfl, rfl⟩ ((w.scene.performs_note rfl).acts trivial)
    (fun h => h) (fun c => ?_) (fun b id c => ?_) (fun id => ?_)
    (fun _ _ => by simp) (fun c => by simp [Event.closes]) (fun t' ht => ?_)
  · have hhand : (w.noteStopped t).hand = w.hand := rfl
    simp [gone, come, Event.removes, Event.brings, hhand]
  · simp
  · simp [Event.enters]
  · have heq : t' = t := by simpa using ht
    exact heq ▸ hover

/-! ## Requests -/

/-- A request is disposed of, and the core that was in it. -/
theorem closed {s s' : Scene} {b id : Nat} {core : Option Core} (hactor : actor.isSome = true)
    (hclosed : Scene.Performs (.changed b (.disposed id core)) w.scene s) (haside : s.Aside s') :
    ClientStep w actor e ((core.toList.map Event.disposed).reverse ++ [.changed b (.disposed id core)])
      (w.withScene (s'.disposeCores core.toList)) e := by
  have hacts := ((hclosed.andAside haside).acts (show w.May w.scene.stage _ from trivial)).trans
    (Scene.acts_disposeCores (fun _ _ => trivial) core.toList s')
  refine of_untouched ⟨rfl, rfl, rfl, rfl⟩ hacts (fun h => h) (fun c => ?_) (fun b' id' c => ?_)
    (fun id => ?_) (fun b' id' => ?_) (fun c => ?_) (fun t ht => ?_)
  · have hhand : (w.withScene (s'.disposeCores core.toList)).hand = w.hand := rfl
    rw [hhand]
    cases core with
    | none => simp [gone, come, Event.removes, Event.brings]
    | some core =>
      by_cases hc : core = c <;> simp [gone, come, Event.removes, Event.brings, hc]
  · cases core <;> simp
  · cases core <;> simp [Event.enters]
  · cases core <;> simp
  · cases core with
    | none => simp [Event.closes, hactor]
    | some core =>
      by_cases hc : core = c <;> simp [Event.closes, hc, hactor]
  · cases core <;> simp at ht

theorem entered {s : Scene} {x x' : Errand} {b : Nat} {q : Request Core}
    (hdraft : x.draft? = some q) (hafter : x'.draft? = none) (hcore : x'.core? = x.core?)
    (hpassing : x'.passing? = x.passing?)
    (hentered : Scene.Performs (.changed b (.entered q)) w.scene s) :
    ClientStep w actor (some x) [.changed b (.entered q)] (w.withScene s) (some x') := by
  refine of_untouched ⟨rfl, rfl, rfl, rfl⟩ (hentered.acts trivial) (fun _ y hy => ?_)
    (fun c => ?_) (fun b' id' c => ?_) (fun id => ?_) (fun _ _ => by simp)
    (fun c => by simp [Event.closes]) (fun t ht => absurd ht (by simp))
  · cases hy
    intro q' hq'
    rw [hafter] at hq'
    exact absurd hq' (by simp)
  · have hhand : (w.withScene s).hand = w.hand := rfl
    simp [gone, come, Event.removes, Event.brings, Errand.carries, hcore, hhand]
  · simp [Errand.passes, hpassing]
  · by_cases hid : q.id = id <;> simp [Errand.drafts, hdraft, hafter, Event.enters, hid]

theorem drafted {x x' : Errand} {preference : Preference}
    (hafter : x'.draft? = some (w.scene.draft preference).1) (hcore : x'.core? = x.core?)
    (hpassing : x'.passing? = x.passing?) :
    ClientStep w actor (some x) [] (w.withScene (w.scene.draft preference).2) (some x') := by
  refine of_untouched ⟨rfl, rfl, rfl, rfl⟩ (.aside .refl (w.scene.aside_draft preference))
    (fun _ y hy => ?_) (fun c => ?_) (fun b' id' c => ?_) (fun id => ?_) (fun _ _ => by simp)
    (fun c => by simp) (fun t ht => absurd ht List.not_mem_nil)
  · cases hy
    intro q hq
    rw [hafter, Option.some.injEq] at hq
    exact hq ▸ ⟨rfl, rfl, rfl, rfl, rfl⟩
  · have hhand : (w.withScene (w.scene.draft preference).2).hand = w.hand := rfl
    simp [Errand.carries, hcore, hhand]
  · simp [Errand.passes, hpassing]
  · have hid : (w.scene.draft preference).1.id = w.scene.nextSerial := rfl
    have hserial : (w.withScene (w.scene.draft preference).2).scene.nextSerial =
      w.scene.nextSerial + 1 := rfl
    rw [hserial]
    by_cases hnew : w.scene.nextSerial = id
    · simp [Errand.drafts, hafter, hid, hnew]
    · simp [Errand.drafts, hafter, hid, hnew]

end ClientStep

end CoreBroker.World
