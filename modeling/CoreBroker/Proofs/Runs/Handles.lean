import CoreBroker.Proofs.Registry.Identity
import CoreBroker.Proofs.Runs.Transitions
import Mathlib.Algebra.Order.BigOperators.Group.List
import Mathlib.Algebra.Order.Group.Nat
set_option autoImplicit false

/-!
# Handles of requests

Whoever makes a request has its handle, and nobody can take its core or dispose of it without one.  A
handle goes from the errand that has drafted the request to the client, or to the errand that cleans up
when the first one is abandoned.  So as long as the client does not use the handle, there is one of it or
it has been used up, and an errand that still has it finds the request as it was made.

An errand may be abandoned while the core of its request is being disposed of.  The request is off the list
then, and the errand that is to clean up after it finds nothing to do: its handle is worth nothing.
-/

namespace CoreBroker

namespace Event

/-- The core of the request is taken. -/
def takesFrom (b id : Nat) : Event → Bool
  | .changed k (.taken n _) => k == b && n == id
  | _ => false

/-- The request is disposed of. -/
def disposesOf (b id : Nat) : Event → Bool
  | .changed k (.disposed n _) => k == b && n == id
  | _ => false

/-- It takes the handle of the request to do this. -/
def needsHandle (b id : Nat) (event : Event) : Bool := event.takesFrom b id || event.disposesOf b id

theorem countP_needsHandle (b id : Nat) (events : List Event) :
    events.countP (·.needsHandle b id) =
      events.countP (·.takesFrom b id) + events.countP (·.disposesOf b id) := by
  induction events with
  | nil => rfl
  | cons event events ih =>
    have hevent : (event.needsHandle b id).toNat =
        (event.takesFrom b id).toNat + (event.disposesOf b id).toNat := by
      unfold needsHandle takesFrom disposesOf
      split <;> simp
    have htoNat : ∀ p : Bool, (if p = true then 1 else 0) = p.toNat := fun p => by cases p <;> rfl
    simp only [List.countP_cons, htoNat, ih, hevent]
    omega

end Event

namespace ReserveStage

/-- The number of the request, once there is one. -/
def id? : ReserveStage → Option Nat
  | .drafting => none
  | .entering draft => some draft.id
  | .waiting id | .abandoning id _ | .disposing id _ => some id

/-- The number of the request as long as its handle was not used. -/
def unused? : ReserveStage → Option Nat
  | .disposing _ _ => none
  | stage => stage.id?

end ReserveStage

namespace Errand

/-- The handles that an errand has, each with its registry: of the requests that it has made and not handed
over yet, and of those that it is to dispose of. -/
def handles : Errand → List (Nat × Nat)
  | .create board _ _ made draft _ => (made ++ (draft.map (·.id)).toList).map (board, ·)
  | .reserve board _ _ _ stage => stage.unused?.toList.map (board, ·)
  | .dispose board id | .cleanUp board id => [(board, id)]
  | .disposeAll requests _ | .disposing _ _ (.others requests _) => requests
  | _ => []

end Errand

/-- The client uses the handle of the request. -/
def Move.handles (b id : Nat) : Move → Bool
  | .begin e => e.handles.contains (b, id) || e.stake? == some (.request b id)
  | .take k n => k == b && n == id
  | .giveUp stake => stake == .request b id
  | _ => false

namespace Scene

variable {s s' s₁ : Scene} {b id : Nat}

/-- The request was disposed of. -/
def hasDisposed (s : Scene) (b id : Nat) : Bool := s.story.any (·.disposesOf b id)

/-- How often a handle of the request was used.  To dispose of the request again is no use of it. -/
def uses (s : Scene) (b id : Nat) : Nat :=
  s.story.countP (·.takesFrom b id) + (s.hasDisposed b id).toNat

theorem hasDisposed_iff :
    s.hasDisposed b id = true ↔ ∃ core, .changed b (.disposed id core) ∈ s.story := by
  rw [hasDisposed, List.any_eq_true]
  constructor
  · rintro ⟨event, hevent, hdisposes⟩
    unfold Event.disposesOf at hdisposes
    split at hdisposes
    · rename_i core
      obtain ⟨rfl, rfl⟩ : _ = b ∧ _ = id := by simpa using hdisposes
      exact ⟨core, hevent⟩
    · exact absurd hdisposes Bool.false_ne_true
  · rintro ⟨core, htold⟩
    exact ⟨_, htold, by simp [Event.disposesOf]⟩

/-- If its handle was used once, to dispose of it, nobody took the core of a request. -/
theorem untaken_of_disposed (hdisposed : s.hasDisposed b id = true) (hused : s.uses b id ≤ 1)
    (core : Core) : .changed b (.taken id core) ∉ s.story := by
  intro htaken
  have hpos : 0 < s.story.countP (·.takesFrom b id) :=
    List.countP_pos_iff.mpr ⟨_, htaken, by simp [Event.takesFrom]⟩
  rw [uses, hdisposed, Bool.toNat_true] at hused
  omega

theorem ActSequence.uses_le {may : Stage → Act → Prop} {events : List Event}
    (hacts : ActSequence may s events s') (b id : Nat) :
    s'.uses b id ≤ s.uses b id + events.countP (·.needsHandle b id) := by
  have hany : (events.any (·.disposesOf b id)).toNat ≤ events.countP (·.disposesOf b id) := by
    cases hcase : events.any (·.disposesOf b id) with
    | false => exact Nat.zero_le _
    | true => exact List.countP_pos_iff.mpr (List.any_eq_true.mp hcase)
  have hor : (events.any (·.disposesOf b id) || s.hasDisposed b id).toNat ≤
      (events.any (·.disposesOf b id)).toNat + (s.hasDisposed b id).toNat := by
    cases events.any (·.disposesOf b id) <;> cases s.hasDisposed b id <;> decide
  rw [uses, uses, hasDisposed, hacts.story_eq, List.countP_append, List.any_append,
    Event.countP_needsHandle]
  rw [hasDisposed] at hor ⊢
  omega

theorem needsHandle_of_isOfLoop {event : Event} (hevent : event.isOfLoop = true) :
    event.needsHandle b id = false := by
  cases event with
  | changed board change =>
    cases change <;> first | rfl | exact absurd hevent (by simp [Event.isOfLoop])
  | _ => rfl

/-- Numbers are not given out again, a request that was entered stays, and nothing that was told is taken
back. -/
structure SceneAdvances (b id : Nat) (s s' : Scene) : Prop where
  serial : s.nextSerial ≤ s'.nextSerial
  request : (s.request? b id).isSome → (s'.request? b id).isSome
  story : s.story <:+ s'.story

theorem SceneAdvances.refl (s : Scene) : SceneAdvances b id s s :=
    ⟨Nat.le_refl _, fun h => h, List.suffix_refl _⟩

theorem SceneAdvances.trans (h₁ : SceneAdvances b id s s₁) (h₂ : SceneAdvances b id s₁ s') :
    SceneAdvances b id s s' :=
  ⟨Nat.le_trans h₁.serial h₂.serial, fun h => h₂.request (h₁.request h), h₁.story.trans h₂.story⟩

theorem SceneAdvances.hasDisposed (h : SceneAdvances b id s s') (hdisposed : s.hasDisposed b id = true) :
    s'.hasDisposed b id = true := by
  obtain ⟨core, htold⟩ := hasDisposed_iff.mp hdisposed
  exact hasDisposed_iff.mpr ⟨core, h.story.subset htold⟩

theorem SceneAdvances.uses (h : SceneAdvances b id s s') : s.uses b id ≤ s'.uses b id := by
  have htaken := h.story.sublist.countP_le (p := (·.takesFrom b id))
  have hdisposed : (s.hasDisposed b id).toNat ≤ (s'.hasDisposed b id).toNat := by
    cases hcase : s.hasDisposed b id with
    | false => exact Nat.zero_le _
    | true => rw [h.hasDisposed hcase]
  exact Nat.add_le_add htaken hdisposed

theorem ActSequence.advances {may : Stage → Act → Prop} {events : List Event}
    (hacts : ActSequence may s events s') : SceneAdvances b id s s' where
  serial := hacts.serial_le
  request h := by
    obtain ⟨r, hrequest⟩ := Option.isSome_iff_exists.mp h
    obtain ⟨r', hafter, -⟩ := bears_iff.mp (hacts.bears (bears_iff.mpr ⟨r, hrequest, .refl r⟩))
    exact Option.isSome_iff_exists.mpr ⟨r', hafter⟩
  story := hacts.story_eq ▸ List.suffix_append _ _

end Scene

namespace Errand

variable {s s' : Scene} {b id : Nat} {x : Errand}

/-- How often the errand holds the handle of the request.  To clean up after a request that was disposed
of the handle is worth nothing. -/
def holds (s : Scene) (b id : Nat) : Errand → Nat
  | .cleanUp board n => if s.hasDisposed b id then 0 else [(board, n)].count (b, id)
  | x => x.handles.count (b, id)

theorem holds_le (s : Scene) (b id : Nat) (x : Errand) : x.holds s b id ≤ x.handles.count (b, id) := by
  unfold holds
  split
  · split
    · exact Nat.zero_le _
    · exact Nat.le_refl _
  · exact Nat.le_refl _

theorem holds_eq_zero (hhandles : (b, id) ∉ x.handles) : x.holds s b id = 0 :=
  Nat.le_zero.mp ((List.count_eq_zero.mpr hhandles) ▸ holds_le s b id x)

theorem holds_le_of_advances (hadvances : s.SceneAdvances b id s') (x : Errand) :
    x.holds s' b id ≤ x.holds s b id := by
  unfold holds
  split
  · cases hbefore : s.hasDisposed b id with
    | true => simp [hadvances.hasDisposed hbefore]
    | false => cases s'.hasDisposed b id <;> simp
  · exact Nat.le_refl _

end Errand

/-- An errand that waits for the request finds it, and if it has stopped waiting then because its token
has fired, unless the handle was used.  Where the core of the request is being disposed of, so was the
request. -/
def Errand.IsInLine (s : Scene) (b id : Nat) : Errand → Prop
  | .reserve board _ _ _ (.waiting n) => board = b → n = id → (s.request? b id).isSome
  | .reserve board _ _ _ (.abandoning n reason) => board = b → n = id →
    (s.request? b id).isSome ∧ (reason = .cancelled ∨ 0 < s.uses b id)
  | .reserve board _ _ _ (.disposing n reason) => board = b → n = id →
    s.hasDisposed b id = true ∧ reason = .cancelled
  | .disposing board n _ => board = b → n = id → s.hasDisposed b id = true
  | _ => True

theorem Errand.IsInLine.mono {s s' : Scene} {b id : Nat} (hadvances : s.SceneAdvances b id s') {x : Errand}
    (h : x.IsInLine s b id) : x.IsInLine s' b id := by
  unfold Errand.IsInLine at h ⊢
  split
  · exact fun hb hid => hadvances.request (h hb hid)
  · exact fun hb hid => (h hb hid).imp hadvances.request
      (·.imp_right fun hpos => Nat.lt_of_lt_of_le hpos hadvances.uses)
  · exact fun hb hid => (h hb hid).imp_left hadvances.hasDisposed
  · exact fun hb hid => hadvances.hasDisposed (h hb hid)
  · trivial

namespace World

/-! ## What is there of a handle -/

/-- The errands of the client.  While the errand `away` takes a step it counts as `e`, and not as it was when
it began. -/
def doing (w : World) (away : Option Nat) (e : Option Errand) : List Errand :=
  (w.errands.filter fun y => away != some y.1).map (·.2) ++ e.toList

/-- How often the handle of the request is with an errand, or was used. -/
def handled (w : World) (away : Option Nat) (e : Option Errand) (b id : Nat) : Nat :=
  ((w.doing away e).map (Errand.holds w.scene b id)).sum + w.scene.uses b id

/-- No errand uses a handle of the request that the client has, and the client has not given one up. -/
def IsUnshared (w : World) (away : Option Nat) (e : Option Errand) (b id : Nat) : Prop :=
  (∀ x ∈ w.doing away e, x.stake? ≠ some (.request b id)) ∧ .request b id ∉ w.leaving

/-- What became of the handle of a request: at most it went from one errand to another or was used up, and
a new one came only with a new number. -/
structure HandleFlow (actor : Option Task) (away : Option Nat) (b id : Nat) (w : World) (e : Option Errand)
    (w' : World) (e' : Option Errand) : Prop where
  advances : w.scene.SceneAdvances b id w'.scene
  handled : w'.handled away e' b id ≤ w.handled away e b id +
    (decide (w.scene.nextSerial ≤ id ∧ id < w'.scene.nextSerial)).toNat
  unshared : w.IsUnshared away e b id → w'.IsUnshared away e' b id
  inLine : (∀ x ∈ w.doing away e, x.IsInLine w.scene b id) →
    ∀ x ∈ w'.doing away e', x.IsInLine w'.scene b id
  /-- The other errands are where they were. -/
  stays : ∀ y ∈ w.errands, actor ≠ some (.errand y.1) → y ∈ w'.errands

theorem doing_none (w : World) (e : Option Errand) :
    w.doing none e = w.errands.map (·.2) ++ e.toList := by
  have hall : (w.errands.filter fun y => none != some y.1) = w.errands :=
    List.filter_eq_self.mpr fun _ _ => rfl
  rw [doing, hall]

theorem mem_doing_none {w : World} {x : Errand} :
    x ∈ w.doing none none ↔ ∃ n, (n, x) ∈ w.errands := by
  simp [doing_none]

theorem mem_doing_some {w : World} {away : Option Nat} {x y : Errand} :
    y ∈ w.doing away (some x) ↔ y ∈ w.doing away none ∨ y = x := by
  simp [doing]

theorem handled_some (w : World) (away : Option Nat) (x : Errand) (b id : Nat) :
    w.handled away (some x) b id = w.handled away none b id + x.holds w.scene b id := by
  simp only [handled, doing, Option.toList_some, Option.toList_none, List.append_nil, List.map_append,
    List.sum_append, List.map_cons, List.map_nil, List.sum_singleton]
  omega

/-- What was told in the meantime makes no handle. -/
theorem handled_le {w w₁ : World} {away : Option Nat} {e : Option Errand} {b id n : Nat}
    (hdoing : w₁.doing away e = w.doing away e) (hadvances : w.scene.SceneAdvances b id w₁.scene)
    (huses : w₁.scene.uses b id ≤ w.scene.uses b id + n) :
    w₁.handled away e b id ≤ w.handled away e b id + n := by
  have hheld : ((w.doing away e).map (Errand.holds w₁.scene b id)).sum ≤
      ((w.doing away e).map (Errand.holds w.scene b id)).sum :=
    List.sum_le_sum fun x _ => Errand.holds_le_of_advances hadvances x
  rw [handled, handled, hdoing]
  omega

theorem isUnshared_some {w : World} {away : Option Nat} {x : Errand} {b id : Nat} :
    w.IsUnshared away (some x) b id ↔
      w.IsUnshared away none b id ∧ x.stake? ≠ some (.request b id) := by
  simp only [IsUnshared, mem_doing_some, or_imp, forall_and, forall_eq]
  exact and_right_comm

theorem doing_away (w : World) (serial : Nat) (e : Option Errand) :
    w.doing (some serial) e = (w.errands.filter (·.1 != serial)).map (·.2) ++ e.toList := by
  have hothers : (w.errands.filter fun y => some serial != some y.1) =
      w.errands.filter (·.1 != serial) := by
    refine List.filter_congr fun y _ => ?_
    rw [Bool.eq_iff_iff, bne_iff_ne, bne_iff_ne, Ne, Option.some.injEq]
    exact ne_comm
  rw [doing, hothers]

/-- An errand that begins to take a step counts as it is in its place. -/
theorem doing_perm {w : World} (hw : w.IsOrderly) {serial : Nat} {x : Errand}
    (hmem : (serial, x) ∈ w.errands) : (w.doing none none).Perm (w.doing (some serial) (some x)) := by
  rw [doing_none, doing_away, Option.toList_none, List.append_nil]
  exact ((perm_cons_remove hw.errands hmem).map _).trans (List.perm_append_singleton x _).symm

namespace HandleFlow

variable {actor : Option Task} {away : Option Nat} {b id : Nat} {w w₁ w₂ : World}
  {e e₁ e₂ : Option Errand} {x x' : Errand} {serial : Nat}

theorem trans (h₁ : HandleFlow actor away b id w e w₁ e₁) (h₂ : HandleFlow actor away b id w₁ e₁ w₂ e₂) :
    HandleFlow actor away b id w e w₂ e₂ where
  advances := h₁.advances.trans h₂.advances
  handled := by
    have hfirst := h₁.handled
    have hsecond := h₂.handled
    have hle₁ := h₁.advances.serial
    have hle₂ := h₂.advances.serial
    have hsplit := toNat_between_add id hle₁ hle₂
    omega
  unshared h := h₂.unshared (h₁.unshared h)
  inLine h := h₂.inLine (h₁.inLine h)
  stays y hy hother := h₂.stays y (h₁.stays y hy hother) hother

/-- The errands are what they were, and no handle was used. -/
theorem of_advances (hadvances : w.scene.SceneAdvances b id w₁.scene)
    (huses : w₁.scene.uses b id ≤ w.scene.uses b id) (herrands : w₁.errands = w.errands)
    (hleaving : w₁.leaving = w.leaving) : HandleFlow actor away b id w e w₁ e where
  advances := hadvances
  handled := by
    have hdoing : w₁.doing away e = w.doing away e := by rw [doing, doing, herrands]
    have hle := handled_le (n := 0) hdoing hadvances huses
    omega
  unshared h := by
    rw [IsUnshared, doing, herrands, hleaving]
    exact h
  inLine h y hy := by
    rw [doing, herrands] at hy
    exact (h y hy).mono hadvances
  stays y hy _ := herrands ▸ hy

theorem refl (w : World) : HandleFlow actor away b id w e w e := of_advances (.refl _) (Nat.le_refl _) rfl rfl

theorem of_acts {may : Stage → Act → Prop} {events : List Event}
    (hacts : w.scene.ActSequence may events w₁.scene)
    (hevents : ∀ event ∈ events, event.needsHandle b id = false) (herrands : w₁.errands = w.errands)
    (hleaving : w₁.leaving = w.leaving) : HandleFlow actor away b id w e w₁ e := by
  have huses := hacts.uses_le b id
  rw [List.countP_eq_zero.mpr fun event he => by simp [hevents event he]] at huses
  exact of_advances hacts.advances huses herrands hleaving

theorem of_aside (haside : w.scene.Aside w₁.scene) (herrands : w₁.errands = w.errands)
    (hleaving : w₁.leaving = w.leaving) : HandleFlow actor away b id w e w₁ e := by
  have hacts : w.scene.ActSequence (fun _ _ => True) [] w₁.scene := .aside .refl haside
  exact of_acts hacts (by simp) herrands hleaving

theorem of_act {act : Act} (hperforms : Scene.Performs act w.scene w₁.scene)
    (hact : ∀ event ∈ act.events, event.needsHandle b id = false) (herrands : w₁.errands = w.errands)
    (hleaving : w₁.leaving = w.leaving) : HandleFlow actor away b id w e w₁ e := by
  have hacts : w.scene.ActSequence (fun _ _ => True) act.events w₁.scene := hperforms.acts trivial
  exact of_acts hacts hact herrands hleaving

/-- An errand goes on with at most the handles that it had. -/
theorem goesOn (hholds : x'.holds w.scene b id ≤ x.holds w.scene b id)
    (hstake : x'.stake? = some (.request b id) → x.stake? = some (.request b id))
    (hinLine : x.IsInLine w.scene b id → x'.IsInLine w.scene b id) :
    HandleFlow actor away b id w (some x) w (some x') where
  advances := .refl _
  handled := by
    rw [handled_some, handled_some]
    omega
  unshared h := by
    rw [isUnshared_some] at h ⊢
    exact ⟨h.1, fun hafter => h.2 (hstake hafter)⟩
  inLine h y hy := by
    simp only [mem_doing_some] at h hy
    rcases hy with hy | rfl
    · exact h y (.inl hy)
    · exact hinLine (h x (.inr rfl))
  stays _ hy _ := hy

/-- An errand is over, and its handles are with the client. -/
theorem ended : HandleFlow actor away b id w (some x) w none where
  advances := .refl _
  handled := by
    rw [handled_some]
    omega
  unshared h := (isUnshared_some.mp h).1
  inLine h y hy := h y (mem_doing_some.mpr (.inl hy))
  stays _ hy _ := hy

/-! ## Errands that begin and end -/

/-- An errand takes its place behind all others. -/
theorem begun : HandleFlow actor none b id w (some x) (w.send x).2 none := by
  have hdoing : (w.send x).2.doing none none = w.doing none (some x) := by
    simp [doing_none, send]
  have hadvances : w.scene.SceneAdvances b id (w.send x).2.scene :=
    ⟨Nat.le_succ _, fun h => h, List.suffix_refl _⟩
  refine ⟨hadvances, ?_, fun h => ⟨hdoing ▸ h.1, h.2⟩, fun h y hy => (h y (hdoing ▸ hy)).mono hadvances,
    fun y hy _ => List.mem_append_left _ hy⟩
  refine Nat.le_trans (Nat.le_of_eq ?_) (Nat.le_add_right _ _)
  rw [World.handled, World.handled, hdoing]
  rfl

/-- An errand begins that has nothing to do with the request. -/
theorem sent (hholds : x.holds w.scene b id = 0) (hstake : x.stake? ≠ some (.request b id))
    (hinLine : x.IsInLine w.scene b id) : HandleFlow actor none b id w none (w.send x).2 none := by
  have happears : HandleFlow actor none b id w none w (some x) := by
    refine ⟨.refl _, ?_, fun h => isUnshared_some.mpr ⟨h, hstake⟩, fun h y hy => ?_,
      fun _ hy _ => hy⟩
    · rw [handled_some, hholds]
      omega
    · rcases mem_doing_some.mp hy with hy | rfl
      · exact h y hy
      · exact hinLine
  exact happears.trans begun

theorem apart (hw : w.IsOrderly) (hmem : (serial, x) ∈ w.errands) :
    HandleFlow (some (.errand serial)) none b id w none
      { w with errands := w.errands.filter (·.1 != serial) } (some x) := by
  have hperm : (w.doing none none).Perm
      (doing { w with errands := w.errands.filter (·.1 != serial) } none (some x)) := by
    rw [doing_none, doing_none, Option.toList_none, List.append_nil, Option.toList_some]
    refine ((perm_cons_remove hw.errands hmem).map _).trans ?_
    exact (List.perm_append_singleton x _).symm
  refine ⟨.refl _, ?_, fun h => ⟨fun y hy => h.1 y (hperm.mem_iff.mpr hy), h.2⟩,
    fun h y hy => h y (hperm.mem_iff.mpr hy), fun y hy hother => List.mem_filter.mpr ⟨hy, ?_⟩⟩
  · refine Nat.le_trans (Nat.le_of_eq ?_) (Nat.le_add_right _ _)
    exact congrArg (· + _) (hperm.map _).sum_eq.symm
  · exact bne_iff_ne.mpr fun hsame => hother (hsame ▸ rfl)

/-- What an errand does while it takes a step, with the errand in its place before and after. -/
theorem of_place (hw : w.IsOrderly) (hmem : (serial, x) ∈ w.errands)
    (hflow : HandleFlow (some (.errand serial)) (some serial) b id w (some x) w₁ e)
    {errands : List (Nat × Errand)}
    (hperm : (errands.map (·.2)).Perm (w₁.doing (some serial) e))
    (hothers : ∀ y ∈ w.errands, y.1 ≠ serial → y ∈ errands) :
    HandleFlow (some (.errand serial)) none b id w none { w₁ with errands } none := by
  have hbefore := doing_perm hw hmem
  have hafter : (doing { w₁ with errands } none none).Perm (w₁.doing (some serial) e) := by
    rw [doing_none, Option.toList_none, List.append_nil]
    exact hperm
  refine ⟨hflow.advances, ?_, fun h => ?_, fun h y hy => ?_,
    fun y hy hother => hothers y hy fun hsame => hother (hsame ▸ rfl)⟩
  · have hhandled := hflow.handled
    rw [World.handled, World.handled, ← (hbefore.map _).sum_eq, ← (hafter.map _).sum_eq] at hhandled
    exact hhandled
  · obtain ⟨hall, hleaving⟩ := hflow.unshared ⟨fun y hy => h.1 y (hbefore.mem_iff.mpr hy), h.2⟩
    exact ⟨fun y hy => hall y (hafter.mem_iff.mp hy), hleaving⟩
  · exact hflow.inLine (fun z hz => h z (hbefore.mem_iff.mpr hz)) y (hafter.mem_iff.mp hy)

/-- An errand that is over leaves its place. -/
theorem finished (hw : w.IsOrderly) (hmem : (serial, x) ∈ w.errands)
    (hflow : HandleFlow (some (.errand serial)) (some serial) b id w (some x) w₁ none)
    (herrands : w₁.errands = w.errands) : HandleFlow (some (.errand serial)) none b id w none
      { w₁ with errands := w₁.errands.filter (·.1 != serial) } none := by
  refine of_place hw hmem hflow ?_ fun y hy hother => ?_
  · rw [doing_away, Option.toList_none, List.append_nil]
  · rw [herrands]
    exact List.mem_filter.mpr ⟨hy, bne_iff_ne.mpr hother⟩

theorem goingOn (hw : w.IsOrderly) (hmem : (serial, x) ∈ w.errands)
    (hflow : HandleFlow (some (.errand serial)) (some serial) b id w (some x) w₁ (some x'))
    (herrands : w₁.errands = w.errands) : HandleFlow (some (.errand serial)) none b id w none
      { w₁ with errands := w₁.errands.map fun (n, old) =>
        if n == serial then (n, x') else (n, old) } none := by
  have hmap : (w₁.errands.map fun (n, old) => if n == serial then (n, x') else (n, old)) =
      w.errands.map fun y => if y.1 == serial then (serial, x') else y := by
    rw [herrands]
    refine List.map_congr_left fun y _ => ?_
    by_cases hy : y.1 = serial <;> simp [hy]
  rw [hmap]
  refine of_place hw hmem hflow ?_ fun y hy hother => List.mem_map.mpr ⟨y, hy, by simp [hother]⟩
  rw [doing_away, herrands]
  exact ((perm_cons_replace hw.errands hmem (serial, x')).map Prod.snd).trans
    (List.perm_append_singleton x' _).symm

/-- One thing is done after the other. -/
theorem foldl {α : Type} {act : World → α → World}
    (hact : ∀ w a, HandleFlow actor away b id w none (act w a) none) (xs : List α) (w : World) :
    HandleFlow actor away b id w none (xs.foldl act w) none := by
  induction xs generalizing w with
  | nil => exact .refl w
  | cons a xs ih => exact (hact w a).trans (ih (act w a))

end HandleFlow

section Client

variable {actor : Option Task} {b id : Nat} {w : World} {x : Errand} {serial : Nat} {stake : Stake}

/-! ## Giving up -/

theorem dropDedicated_handleFlow (w : World) (i : Nat) :
    HandleFlow actor none b id w none (w.dropDedicated i) none := by
  unfold dropDedicated
  split
  · exact .of_aside ((w.scene.aside_fire _).trans (Scene.aside_report _ _ _ _)) rfl rfl
  · exact .refl w

theorem dropSpeculative_handleFlow (w : World) (i : Nat) :
    HandleFlow actor none b id w none (w.dropSpeculative i) none := by
  unfold dropSpeculative
  split
  · exact .of_aside ((w.scene.aside_fire _).trans (Scene.aside_report _ _ _ _)) rfl rfl
  · exact .refl w

/-- Unless it is the handle of the request that is given up, nothing comes of it for the handle. -/
theorem relinquish_handleFlow (hstake : stake ≠ .request b id) :
    HandleFlow actor none b id w none (w.relinquish stake) none := by
  cases stake with
  | request k n =>
    refine .sent (Errand.holds_eq_zero ?_) (by simp [Errand.stake?]) trivial
    simpa [Errand.handles, eq_comm] using hstake
  | lock serial =>
    simp only [relinquish]
    split
    · rename_i lock _
      cases hboard : w.scene.stage.boards[lock.board]? with
      | some board =>
        exact .of_act (Scene.performs_unreserveRequest hboard lock.request)
          (fun _ hevent => List.mem_singleton.mp hevent ▸ rfl) rfl rfl
      | none =>
        have hnone : ¬ lock.board < w.scene.boards.length := by
          simpa [Scene.stage] using hboard
        refine .of_aside ?_ rfl rfl
        rw [Scene.unreserveRequest, Scene.changeRegistry, if_neg hnone]
        exact .refl _
    · exact .refl w
  | service index =>
    simp only [relinquish]
    split
    · exact (HandleFlow.foldl dropDedicated_handleFlow _ w).trans (.foldl dropSpeculative_handleFlow _ _)
    · exact .refl w

/-- Giving up less than before changes nothing about the handle. -/
theorem leaving_handleFlow (w : World) {leaving : List Stake}
    (hleaving : .request b id ∈ leaving → .request b id ∈ w.leaving) :
    HandleFlow actor none b id w none { w with leaving } none :=
  ⟨.refl _, Nat.le_add_right _ _, fun h => ⟨h.1, fun hmem => h.2 (hleaving hmem)⟩, fun h => h,
    fun _ hy _ => hy⟩

theorem giveUp_handleFlow (hstake : stake ≠ .request b id) :
    HandleFlow actor none b id w none (w.giveUp stake) none := by
  unfold giveUp
  split
  · refine leaving_handleFlow w fun hmem => ?_
    rcases List.mem_append.mp hmem with hold | hnew
    · exact hold
    · exact absurd (List.mem_singleton.mp hnew).symm hstake
  · exact relinquish_handleFlow hstake

theorem settleStake_handleFlow (hstake : x.stake? ≠ some (.request b id)) :
    HandleFlow actor none b id w none (w.settleStake x) none := by
  unfold settleStake
  split
  · exact .refl w
  · rename_i stake hfound
    split
    · exact (leaving_handleFlow w fun hmem => (List.mem_filter.mp hmem).1).trans
        (relinquish_handleFlow fun hsame => hstake (hsame ▸ hfound))
    · exact .refl w

/-! ## Errands that are abandoned -/

/-- An errand that cleans up after one request begins, with others to be cleaned up after. -/
theorem cleanUp_handleFlow {k n : Nat} {rest : List (Nat × Nat)}
    (hholds : (Errand.cleanUp k n).holds w.scene b id + rest.count (b, id) ≤ x.holds w.scene b id) :
    HandleFlow actor none b id w (some x) (w.send (.cleanUp k n)).2 (some (.disposeAll rest 0)) := by
  have hadvances : w.scene.SceneAdvances b id (w.send (.cleanUp k n)).2.scene :=
    ⟨Nat.le_succ _, fun h => h, List.suffix_refl _⟩
  have hdoing : (w.send (.cleanUp k n)).2.doing none none = w.doing none (some (.cleanUp k n)) := by
    simp [doing_none, send]
  refine ⟨hadvances, ?_, fun h => ?_, fun h y hy => ?_, fun y hy _ => List.mem_append_left _ hy⟩
  · have hheld : (w.send (.cleanUp k n)).2.handled none none b id =
        w.handled none (some (.cleanUp k n)) b id := by
      rw [World.handled, World.handled, hdoing]
      rfl
    have hrest : (Errand.disposeAll rest 0).holds (w.send (.cleanUp k n)).2.scene b id =
        rest.count (b, id) := rfl
    rw [handled_some, handled_some, hheld, handled_some, hrest]
    omega
  · rw [isUnshared_some] at h ⊢
    refine ⟨⟨fun y hy => ?_, h.1.2⟩, by simp [Errand.stake?]⟩
    rcases mem_doing_some.mp (hdoing ▸ hy) with hy | rfl
    · exact h.1.1 y hy
    · simp [Errand.stake?]
  · rcases mem_doing_some.mp hy with hy | rfl
    · rcases mem_doing_some.mp (hdoing ▸ hy) with hy | rfl
      · exact (h y (mem_doing_some.mpr (.inl hy))).mono hadvances
      · trivial
    · trivial

/-- Requests that are to be disposed of are cleaned up one by one. -/
theorem cleanUpAll_handleFlow (requests : List (Nat × Nat)) (w : World) :
    HandleFlow actor none b id w (some (.disposeAll requests 0)) (w.cleanUpAll requests) none := by
  unfold cleanUpAll
  induction requests generalizing w with
  | nil => exact .ended
  | cons request rest ih =>
    refine HandleFlow.trans (cleanUp_handleFlow ?_) (ih _)
    have hsplit : (Errand.disposeAll (request :: rest) 0).holds w.scene b id =
        [request].count (b, id) + rest.count (b, id) := by
      show ([request] ++ rest).count (b, id) = _
      exact List.count_append
    rw [hsplit]
    exact Nat.add_le_add_right (Errand.holds_le _ _ _ _) _

/-- The handles of an abandoned errand are with errands that clean up. -/
theorem handsOver (w : World) {requests : List (Nat × Nat)}
    (hcount : requests.count (b, id) ≤ x.holds w.scene b id) :
    HandleFlow actor none b id w (some x) (w.cleanUpAll requests) none := by
  have hkept : HandleFlow actor none b id w (some x) w (some (.disposeAll requests 0)) :=
    .goesOn hcount (by simp [Errand.stake?]) fun _ => trivial
  exact hkept.trans (cleanUpAll_handleFlow requests w)

/-- Where the core of a request is being disposed of, the handle of the request is worth nothing any more. -/
theorem handsOver_disposing (w : World) {k n : Nat} {rest : List (Nat × Nat)}
    (hdisposed : k = b → n = id → w.scene.hasDisposed b id = true)
    (hcount : rest.count (b, id) ≤ x.holds w.scene b id) :
    HandleFlow actor none b id w (some x) (w.cleanUpAll ((k, n) :: rest)) none := by
  have hworthless : (Errand.cleanUp k n).holds w.scene b id = 0 := by
    by_cases hthis : k = b ∧ n = id
    · rw [Errand.holds, if_pos (hdisposed hthis.1 hthis.2)]
    · refine Errand.holds_eq_zero ?_
      simpa [Errand.handles, eq_comm] using hthis
  have hfirst : HandleFlow actor none b id w (some x) (w.send (.cleanUp k n)).2
      (some (.disposeAll rest 0)) := cleanUp_handleFlow (by omega)
  exact hfirst.trans (cleanUpAll_handleFlow rest _)

theorem withdraw_handleFlow (w : World) (serial board : Nat) (e : Option Errand) :
    HandleFlow actor none b id w e (w.withdraw serial board) e :=
  .of_aside (w.scene.aside_withdraw board _) rfl rfl

theorem wrapUp_handleFlow (w : World) (serial : Nat) (x : Errand) (hinLine : x.IsInLine w.scene b id) :
    HandleFlow actor none b id w (some x) (w.wrapUp serial x) none := by
  have hquiet : ∀ {w₁ : World}, w.scene.Aside w₁.scene → w₁.errands = w.errands →
      w₁.leaving = w.leaving → HandleFlow actor none b id w (some x) w₁ none :=
    fun haside herrands hleaving => (HandleFlow.of_aside haside herrands hleaving).trans .ended
  cases x with
  | create board preference left made draft isMany =>
    refine (w.withdraw_handleFlow serial board _).trans (handsOver _ ?_)
    exact ((List.sublist_append_left _ _).map _).count_le _
  | reserve board preference token service stage =>
    cases stage with
    | drafting => exact .ended
    | entering draft => exact (w.withdraw_handleFlow serial board _).trans .ended
    | waiting n => exact handsOver w (Nat.le_refl _)
    | abandoning n reason =>
      exact (w.withdraw_handleFlow serial board _).trans (handsOver _ (Nat.le_refl _))
    | disposing n reason =>
      exact handsOver_disposing w (fun hb hid => (hinLine hb hid).1) (Nat.le_refl _)
  | wait board n token takes => exact .ended
  | dispose board n =>
    exact (w.withdraw_handleFlow serial board _).trans (handsOver _ (Nat.le_refl _))
  | disposeAll requests count =>
    cases requests with
    | nil => exact .ended
    | cons request rest =>
      exact (w.withdraw_handleFlow serial request.1 _).trans (handsOver _ (Nat.le_refl _))
  | cleanUp board n => exact .ended
  | disposing board n left =>
    cases left with
    | reply | nothing => exact handsOver_disposing w hinLine (Nat.zero_le _)
    | others requests count => exact handsOver_disposing w hinLine (Nat.le_refl _)
  | ask board query service => exact (w.withdraw_handleFlow serial board _).trans .ended
  | assign lock core =>
    have hlost := ((w.scene.withdraw lock.board (.errand serial)).performs_note
      (show (Event.lost lock.board lock.request core).isRemark = true from rfl)).andAside
      (Scene.aside_giveBackSlot _ core)
    have hafter : HandleFlow actor none b id (w.withdraw serial lock.board) (some (.assign lock core))
        (w.wrapUp serial (.assign lock core)) (some (.assign lock core)) :=
      .of_act hlost (fun _ hevent => List.mem_singleton.mp hevent ▸ rfl) rfl rfl
    exact ((w.withdraw_handleFlow serial lock.board _).trans hafter).trans .ended
  | probe core ticket token =>
    exact hquiet (w.scene.aside_dropProbe core ticket) rfl rfl
  | call call => exact hquiet (w.scene.aside_dropCall call) rfl rfl
  | sight i service => exact hquiet (.refl _) rfl rfl
  | shutDown isBroker isBegun parts =>
    have hpart : ∀ w part, HandleFlow actor none b id w none (dropPart w part) none := fun w part => by
      unfold dropPart
      split
      · exact w.dropDedicated_handleFlow _
      · exact w.dropSpeculative_handleFlow _
      · exact .refl w
      · exact .refl w
    exact HandleFlow.ended.trans (.foldl hpart parts w)

theorem abandon_handleFlow (hw : w.IsOrderly) (hunshared : w.IsUnshared none none b id)
    (hinLine : ∀ x ∈ w.doing none none, x.IsInLine w.scene b id) (serial : Nat) :
    HandleFlow (some (.errand serial)) none b id w none (w.abandon serial) none := by
  unfold abandon
  cases hfind : w.errands.find? (·.1 == serial) with
  | none => exact .refl w
  | some entry =>
    obtain ⟨n, x⟩ := entry
    have hmem : (n, x) ∈ w.errands := List.mem_of_find?_eq_some hfind
    obtain rfl : n = serial := by simpa using List.find?_some hfind
    simp only
    split
    · have hthere : x ∈ w.doing none none := mem_doing_none.mpr ⟨n, hmem⟩
      exact ((HandleFlow.apart hw hmem).trans (wrapUp_handleFlow _ n x (hinLine x hthere))).trans
        (settleStake_handleFlow (hunshared.1 x hthere))
    · exact .refl w

end Client

end World

end CoreBroker
