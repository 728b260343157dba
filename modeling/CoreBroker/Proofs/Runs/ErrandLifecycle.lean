import CoreBroker.Proofs.Runs.ClientActs
set_option autoImplicit false

/-!
# Errands that begin and end, and what is given up

An errand that takes a step is counted apart while it does; afterwards what it has become takes its place
among the errands.  What the client gives up is a request, which is cleaned up by an errand, a
reservation, or a service, whose fulfillers are told.
-/

namespace CoreBroker.World

namespace ClientStep

variable {w w₁ : World} {actor : Option Task} {e : Option Errand} {x x' : Errand}
  {events : List Event} {serial : Nat}

/-! ## Errands -/

theorem begun (hdraft : x.draft? = none) : ClientStep w actor (some x) [] (w.send x).2 none where
  acts := .aside .refl (w.scene.aside_fresh.trans (Scene.aside_spawn _ _))
  dedicated := rfl
  speculative := rfl
  guards := guards_of_eq rfl
  orderly hw := by
    refine ⟨?_, ?_, hw.locks, ?_, hw.lockBoards, ?_⟩
    · simp only [send, List.map_append, List.map_cons, List.map_nil]
      rw [List.nodup_append]
      refine ⟨hw.errands, List.nodup_singleton _, ?_⟩
      intro n hn m hm
      obtain ⟨y, hy, rfl⟩ := List.mem_map.mp hn
      rw [List.mem_singleton.mp hm]
      exact Nat.ne_of_lt (hw.errandsBelow y hy)
    · intro y hy
      rcases List.mem_append.mp hy with hy | hy
      · exact Nat.lt_succ_of_lt (hw.errandsBelow y hy)
      · rw [List.mem_singleton.mp hy]
        exact Nat.lt_succ_self _
    · exact fun lock hlock => Nat.lt_succ_of_lt (hw.locksBelow lock hlock)
    · intro y hy
      rcases List.mem_append.mp hy with hy | hy
      · exact hw.fresh y hy
      · rw [List.mem_singleton.mp hy]
        intro q hq
        rw [hdraft] at hq
        exact absurd hq (by simp)
  fresh _ y hy := absurd hy (by simp)
  cores core := by
    simp only [kept, send, Option.toList_some, Option.toList_none, List.countP_append,
      List.countP_cons, List.countP_nil, gone_nil, come_nil]
    omega
  passings b id core := by
    simp [passing, send, List.countP_append, List.countP_cons]
  drafts id := by
    have hx : x.drafts id = false := by simp [Errand.drafts, hdraft]
    simp [World.drafted, send, hx]
  locks _ _ := rfl
  marks _ _ _ hmarked := .inr ⟨List.not_mem_nil, hmarked⟩
  closings _ := by simp
  stopped t ht := absurd ht List.not_mem_nil

theorem sent (hcore : x.core? = none) (hpassing : x.passing? = none) (hdraft : x.draft? = none) :
    ClientStep w actor none [] (w.send x).2 none := by
  have happears : ClientStep w actor none [] w (some x) := by
    refine of_untouched (.refl w) .refl (fun _ y hy => ?_) (fun core => ?_) (fun b id core => ?_)
      (fun id => ?_) (fun _ _ => by simp) (fun _ => by simp) (fun t ht => absurd ht List.not_mem_nil)
    · cases hy
      intro q hq
      rw [hdraft] at hq
      exact absurd hq (by simp)
    · simp [Errand.carries, hcore]
    · simp [Errand.passes, hpassing]
    · simp [Errand.drafts, hdraft]
  exact happears.trans (begun hdraft)

/-- A core is passed to a reserved request: it leaves the hands of the client, and an errand has it. -/
theorem offered {lock : Lock} {core : Core} (hmem : core ∈ w.hand) :
    ClientStep w actor none [.offered lock.board lock.request core] ((w.letGo core).offer lock core).2
      none := by
  have hnoted := (w.scene.performs_note (show (Event.offered lock.board lock.request
    core).isRemark = true from rfl)).acts (show w.May w.scene.stage _ from trivial)
  have hpassed : ClientStep w actor none [.offered lock.board lock.request core]
      ((w.letGo core).withScene (w.scene.note (.offered lock.board lock.request core)))
      (some (.assign lock core)) := by
    refine of_untouched ⟨rfl, rfl, rfl, rfl⟩ hnoted (fun _ y hy => ?_) (fun c => ?_)
      (fun b id c => ?_) (fun id => ?_) (fun _ _ => by simp) (fun c => by simp [Event.closes])
      (fun t ht => absurd ht (by simp))
    · cases hy
      exact fun q hq => absurd hq (by simp [Errand.draft?])
    · have hcount := count_letGo hmem c
      have hhand : ((w.letGo core).withScene (w.scene.note (.offered lock.board lock.request
        core))).hand = w.hand.filter (· != core) := rfl
      rw [hhand]
      by_cases hc : core = c <;>
        simp [gone, come, Event.removes, Event.brings, Errand.carries, Errand.core?, hc] at hcount ⊢ <;>
        exact hcount
    · simp [Errand.passes, Errand.passing?, List.count_singleton]
    · simp [Errand.drafts, Errand.draft?, Event.enters]
  exact hpassed.trans (begun rfl)

/-- A core in the hands of the client begins to be asked whether it works. -/
theorem probed {core : Core} (hmem : core ∈ w.hand) (token : Token) :
    ClientStep w actor none [] (((w.letGo core).withScene w.scene.fresh.2).send
      (.probe core w.scene.fresh.1 token)).2 none := by
  have hpassed : ClientStep w actor none [] ((w.letGo core).withScene w.scene.fresh.2)
      (some (.probe core w.scene.fresh.1 token)) := by
    refine of_untouched ⟨rfl, rfl, rfl, rfl⟩ (.aside .refl w.scene.aside_fresh)
      (fun _ y hy => ?_) (fun c => ?_) (fun b id c => ?_) (fun id => ?_) (fun _ _ => by simp)
      (fun c => by simp) (fun t ht => absurd ht List.not_mem_nil)
    · cases hy
      exact fun q hq => absurd hq (by simp [Errand.draft?])
    · have hcount := count_letGo hmem c
      have hhand : ((w.letGo core).withScene w.scene.fresh.2).hand =
        w.hand.filter (· != core) := rfl
      rw [hhand]
      by_cases hc : core = c <;> simp [Errand.carries, Errand.core?, hc] at hcount ⊢ <;>
        exact hcount
    · simp [Errand.passes, Errand.passing?]
    · simp [Errand.drafts, Errand.draft?]
  exact hpassed.trans (begun rfl)

theorem goingOn (hw : w.IsOrderly) (hmem : (serial, x) ∈ w.errands)
    (hclient : ClientStep w actor (some x) events w₁ (some x')) (herrands : w₁.errands = w.errands) :
    ClientStep w actor none events { w₁ with errands := w₁.errands.map fun (n, old) =>
      if n == serial then (n, x') else (n, old) } none := by
  have hmap : (w₁.errands.map fun (n, old) => if n == serial then (n, x') else (n, old)) =
      w.errands.map fun y => if y.1 == serial then (serial, x') else y := by
    rw [herrands]
    refine List.map_congr_left fun y _ => ?_
    by_cases hy : y.1 = serial
    · simp [hy]
    · simp [hy]
  have hcount : ∀ p : Errand → Bool,
      (w.errands.map fun y => if y.1 == serial then (serial, x') else y).countP (p ·.2) +
        (p x).toNat = w.errands.countP (p ·.2) + (p x').toNat := fun p =>
    countP_replace hw.errands hmem rfl (fun _ => (serial, x')) (p ·.2)
  rw [hmap]
  refine ⟨hclient.acts, hclient.dedicated, hclient.speculative, hclient.guards, fun _ => ?_,
    fun _ y hy => absurd hy (by simp), fun core => ?_, fun b id core => ?_, fun id => ?_,
    hclient.locks, hclient.marks, hclient.closings, hclient.stopped⟩
  · have hafter := hclient.orderly hw
    have hserials : (w.errands.map fun y => if y.1 == serial then (serial, x') else y).map (·.1) =
        w.errands.map (·.1) := by
      rw [List.map_map]
      refine List.map_congr_left fun y _ => ?_
      by_cases hy : y.1 = serial
      · simp [hy]
      · simp [hy]
    have hcases : ∀ y ∈ w.errands.map fun y => if y.1 == serial then (serial, x') else y,
        y = (serial, x') ∨ y ∈ w.errands := by
      intro y hy
      obtain ⟨z, hz, rfl⟩ := List.mem_map.mp hy
      by_cases hzs : z.1 = serial
      · exact .inl (by simp [hzs])
      · exact .inr (by simpa [hzs] using hz)
    refine ⟨?_, ?_, hafter.locks, hafter.locksBelow, hafter.lockBoards, ?_⟩
    · show ((w.errands.map fun y => if y.1 == serial then (serial, x') else y).map (·.1)).Nodup
      rw [hserials]
      exact hw.errands
    · intro y hy
      rcases hcases y hy with rfl | hy
      · exact hafter.errandsBelow (serial, x) (herrands ▸ hmem)
      · exact hafter.errandsBelow y (herrands ▸ hy)
    · intro y hy
      rcases hcases y hy with rfl | hy
      · exact hclient.fresh (fun z hz => by cases hz; exact hw.fresh _ hmem) x' rfl
      · exact hw.fresh y hy
  · have hcores := hclient.cores core
    have hshare := hcount (·.carries core)
    simp only [kept, herrands, Option.toList_some, countP_cons_toNat, List.countP_nil,
      Option.toList_none] at hcores ⊢
    omega
  · have hpassings := hclient.passings b id core
    have hshare := hcount (·.passes b id core)
    simp only [passing, herrands, Option.toList_some, countP_cons_toNat, List.countP_nil,
      Option.toList_none] at hpassings ⊢
    omega
  · have hdrafts := hclient.drafts id
    have hshare := hcount (·.drafts id)
    simp only [World.drafted, herrands, Option.toList_some, countP_cons_toNat, List.countP_nil,
      Option.toList_none] at hdrafts ⊢
    omega

theorem finished (hw : w.IsOrderly) (hmem : (serial, x) ∈ w.errands)
    (hclient : ClientStep w actor (some x) events w₁ none) (herrands : w₁.errands = w.errands) :
    ClientStep w actor none events { w₁ with errands := w₁.errands.filter (·.1 != serial) } none := by
  rw [herrands]
  have hcount : ∀ p : Errand → Bool, (w.errands.filter (·.1 != serial)).countP (p ·.2) +
      (p x).toNat = w.errands.countP (p ·.2) := fun p =>
    countP_remove hw.errands hmem rfl (p ·.2)
  refine ⟨hclient.acts, hclient.dedicated, hclient.speculative, hclient.guards, fun _ => ?_,
    fun _ y hy => absurd hy (by simp), fun core => ?_, fun b id core => ?_, fun id => ?_,
    hclient.locks, hclient.marks, hclient.closings, hclient.stopped⟩
  · have hafter := hclient.orderly hw
    refine ⟨hw.errands.sublist (List.filter_sublist.map _), ?_, hafter.locks, hafter.locksBelow,
      hafter.lockBoards, ?_⟩
    · exact fun y hy => hafter.errandsBelow y (herrands ▸ (List.mem_filter.mp hy).1)
    · exact fun y hy => hw.fresh y (List.mem_filter.mp hy).1
  · have hcores := hclient.cores core
    have hshare := hcount (·.carries core)
    simp only [kept, herrands, Option.toList_some, countP_cons_toNat, List.countP_nil,
      Option.toList_none] at hcores ⊢
    omega
  · have hpassings := hclient.passings b id core
    have hshare := hcount (·.passes b id core)
    simp only [passing, herrands, Option.toList_some, countP_cons_toNat, List.countP_nil,
      Option.toList_none] at hpassings ⊢
    omega
  · have hdrafts := hclient.drafts id
    have hshare := hcount (·.drafts id)
    simp only [World.drafted, herrands, Option.toList_some, countP_cons_toNat, List.countP_nil,
      Option.toList_none] at hdrafts ⊢
    omega

/-! ## Reservations -/

theorem reserved {s : Scene} {lock : Lock}
    (hacts : w.scene.ActSequence w.May [.changed lock.board (.reserved lock.request)] s)
    (hboard : lock.board < s.stage.boards.length) (hnew : w.scene.nextSerial ≤ lock.serial)
    (hbelow : lock.serial < s.nextSerial) :
    ClientStep w actor e [.changed lock.board (.reserved lock.request)]
      { w with scene := s, locks := w.locks ++ [lock] } e where
  acts := hacts
  dedicated := rfl
  speculative := rfl
  guards := guards_of_eq rfl
  orderly hw := by
    refine ⟨hw.errands, ?_, ?_, ?_, ?_, hw.fresh⟩
    · exact fun y hy => Nat.lt_of_lt_of_le (hw.errandsBelow y hy) hacts.serial_le
    · show ((w.locks ++ [lock]).map (·.serial)).Nodup
      rw [List.map_append, List.nodup_append]
      refine ⟨hw.locks, List.nodup_singleton _, ?_⟩
      intro a ha b hb
      obtain ⟨other, hother, rfl⟩ := List.mem_map.mp ha
      rw [List.mem_singleton.mp hb]
      exact Nat.ne_of_lt (Nat.lt_of_lt_of_le (hw.locksBelow other hother) hnew)
    · intro other hother
      rcases List.mem_append.mp hother with hother | hother
      · exact Nat.lt_of_lt_of_le (hw.locksBelow other hother) hacts.serial_le
      · rw [List.mem_singleton.mp hother]
        exact hbelow
    · intro other hother
      rcases List.mem_append.mp hother with hother | hother
      · exact Nat.lt_of_lt_of_le (hw.lockBoards other hother) hacts.length_boards_le
      · rw [List.mem_singleton.mp hother]
        exact hboard
  fresh h := h
  cores core := by simp [kept, gone, come, Event.removes, Event.brings]
  passings b id core := by simp [passing]
  drafts id := by simp [World.drafted, Event.enters]
  locks b id := by
    simp [locked, List.count_singleton, List.countP_singleton]
  marks hstage b id hmarked := by
    by_cases hsame : lock.board = b ∧ lock.request = id
    · refine .inl (List.countP_pos_iff.mpr ⟨lock, by simp, ?_⟩)
      simp [hsame.1, hsame.2]
    · rcases hacts.isMarked hstage hmarked with hmark | ⟨-, hbefore⟩
      · exact absurd hmark (lastMark_ne_true (by simpa [eq_comm] using hsame))
      · exact .inr ⟨by simp, hbefore⟩
  closings core := by simp [Event.closes]
  stopped t ht := absurd ht (by simp)

theorem unlocked (hw : w.IsOrderly) {lock : Lock} (hmem : lock ∈ w.locks) :
    ClientStep w actor e [.changed lock.board (.unreserved lock.request)]
      { w with scene := w.scene.unreserveRequest lock.board lock.request
               locks := w.locks.filter (·.serial != lock.serial) } e := by
  obtain ⟨⟨g, changes⟩, hboard⟩ : ∃ x, w.scene.stage.boards[lock.board]? = some x :=
    ⟨_, List.getElem?_eq_getElem (hw.lockBoards lock hmem)⟩
  have hacts : w.scene.ActSequence w.May [.changed lock.board (.unreserved lock.request)]
      (w.scene.unreserveRequest lock.board lock.request) :=
    (Scene.performs_unreserveRequest hboard lock.request).acts trivial
  refine ⟨hacts, rfl, rfl, guards_of_eq rfl, fun _ => ?_, fun h => h, fun core => ?_,
    fun b id core => ?_, fun id => ?_, fun b id => ?_, fun hstage b id hmarked => ?_,
    fun core => ?_, fun t ht => ?_⟩
  · refine ⟨hw.errands, ?_, hw.locks.sublist (List.filter_sublist.map _), ?_, ?_, hw.fresh⟩
    · exact fun y hy => Nat.lt_of_lt_of_le (hw.errandsBelow y hy) hacts.serial_le
    · exact fun other hother => Nat.lt_of_lt_of_le
        (hw.locksBelow other (List.mem_filter.mp hother).1) hacts.serial_le
    · exact fun other hother => Nat.lt_of_lt_of_le
        (hw.lockBoards other (List.mem_filter.mp hother).1) hacts.length_boards_le
  · simp [kept, gone, come, Event.removes, Event.brings]
  · simp [passing]
  · simp [World.drafted, Event.enters]
  · have hcount := countP_remove hw.locks hmem rfl
      fun other => other.board == b && other.request == id
    have hshare : [Event.changed lock.board (.unreserved lock.request)].count
        (.changed b (.unreserved id)) = (lock.board == b && lock.request == id).toNat := by
      simp only [count_cons_toNat, List.count_nil, Event.changed.injEq,
        RegistryChange.unreserved.injEq, Bool.decide_and, Nat.zero_add]
      rfl
    have hnone : [Event.changed lock.board (.unreserved lock.request)].count
        (.changed b (.reserved id)) = 0 := by simp
    rw [locked, locked, hshare, hnone]
    exact hcount
  · rcases hacts.isMarked hstage hmarked with hmark | ⟨hnone, hbefore⟩
    · exact absurd hmark (lastMark_ne_true (by simp))
    · exact .inr ⟨not_unreserved_of_lastMark hnone, hbefore⟩
  · simp [Event.closes]
  · exact absurd ht (by simp)

/-! ## Giving up -/

/-- Something is told to the fulfillers of a service. -/
theorem told {fs : List Nat} {tell : World → Nat → World}
    (htell : ∀ (w : World) (i : Nat), w.Untouched (tell w i) ∧ w.scene.Aside (tell w i).scene ∧
      (tell w i).hand = w.hand) : ClientStep w actor none [] (fs.foldl tell w) none := by
  induction fs generalizing w with
  | nil => exact .refl w actor none
  | cons i fs ih =>
    obtain ⟨huntouched, haside, hhand⟩ := htell w i
    have hfirst : ClientStep w actor none [] (tell w i) none :=
      quiet huntouched (.aside .refl haside) fun core => Nat.le_of_eq (by rw [hhand])
    exact hfirst.trans ih

end ClientStep

theorem dropDedicated_aside (w : World) (i : Nat) :
    w.Untouched (w.dropDedicated i) ∧ w.scene.Aside (w.dropDedicated i).scene ∧
      (w.dropDedicated i).hand = w.hand := by
  unfold dropDedicated
  split
  · exact ⟨⟨rfl, rfl, rfl, rfl⟩,
      (w.scene.aside_fire _).trans (Scene.aside_report _ _ _ _), rfl⟩
  · exact ⟨.refl w, .refl _, rfl⟩

theorem dropSpeculative_aside (w : World) (i : Nat) :
    w.Untouched (w.dropSpeculative i) ∧ w.scene.Aside (w.dropSpeculative i).scene ∧
      (w.dropSpeculative i).hand = w.hand := by
  unfold dropSpeculative
  split
  · exact ⟨⟨rfl, rfl, rfl, rfl⟩,
      (w.scene.aside_fire _).trans (Scene.aside_report _ _ _ _), rfl⟩
  · exact ⟨.refl w, .refl _, rfl⟩

/-- What is given up may have to wait for an errand. -/
theorem leaving_clientStep (w : World) (leaving : List Stake) (actor : Option Task) :
    ClientStep w actor none [] { w with leaving } none :=
  .quiet ⟨rfl, rfl, rfl, rfl⟩ .refl fun _ => Nat.le_refl _

section Stake

variable {w : World} (hw : w.IsOrderly) (stake : Stake) (actor : Option Task)

include hw

/-- Giving up what nobody uses is a client step. -/
theorem relinquish_clientStep : ∃ events, ClientStep w actor none events (w.relinquish stake) none := by
  unfold relinquish
  cases stake with
  | request board id => exact ⟨[], .sent rfl rfl rfl⟩
  | lock serial =>
    simp only
    split
    · rename_i lock hfind
      have hserial : lock.serial = serial := by simpa using List.find?_some hfind
      subst hserial
      exact ⟨_, .unlocked hw (List.mem_of_find?_eq_some hfind)⟩
    · exact ⟨[], .refl w actor none⟩
  | service index =>
    simp only
    split
    · exact ⟨[], (ClientStep.told dropDedicated_aside).trans (ClientStep.told dropSpeculative_aside)⟩
    · exact ⟨[], .refl w actor none⟩

theorem giveUp_clientStep : ∃ events, ClientStep w actor none events (w.giveUp stake) none := by
  unfold giveUp
  split
  · exact ⟨[], w.leaving_clientStep _ actor⟩
  · exact relinquish_clientStep hw stake actor

theorem settleStake_clientStep (x : Errand) :
    ∃ events, ClientStep w actor none events (w.settleStake x) none := by
  unfold settleStake
  split
  · exact ⟨[], .refl w actor none⟩
  · rename_i stake _
    split
    · have hleaving := w.leaving_clientStep (w.leaving.filter (· != stake)) actor
      obtain ⟨events, hclient⟩ := relinquish_clientStep (hleaving.orderly hw) stake actor
      exact ⟨_, hleaving.trans hclient⟩
    · exact ⟨[], .refl w actor none⟩

end Stake

end CoreBroker.World
