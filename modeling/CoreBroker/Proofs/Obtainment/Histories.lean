import CoreBroker.Drill.Obtaining
import CoreBroker.Proofs.Speculative.States
import Mathlib.Data.List.Induction
set_option autoImplicit false

/-!
# Histories of an obtainment

A history is what was asked of an obtainment and what it answered, oldest first.  Which attempt is in
flight and which cores are inside can be told from a history alone, by looking for the last start and
for what came after it, and by setting the cores that came out against those that went in.  That the
obtainment keeps to its history is shown step by step.
-/

namespace CoreBroker.Drill.Obtaining

/-- A step of a drill with its answer. -/
structure Entry where
  step : Step
  answer : Answer

namespace Entry

/-- The number of the attempt that was started. -/
def started? (e : Entry) : Option Nat :=
  match e.step, e.answer.result with
  | .start _, .attempt number => number
  | _, _ => none

/-- The core that went in. -/
def put? (e : Entry) : Option Int :=
  match e.step, e.answer.result with
  | .accept _ core, .accepted => some core
  | .restore core, .accepted => some core
  | _, _ => none

/-- The core that came out. -/
def got? (e : Entry) : Option Int :=
  match e.step, e.answer.result with
  | .take, .core core => core
  | .cancel, .core core => core
  | _, _ => none

/-- After this the attempt `n` is not in flight: its core was accepted, or its failure, or everything
was given up. -/
def ends (n : Nat) (e : Entry) : Bool :=
  match e.step, e.answer.result with
  | .accept number _, .accepted => number == n
  | .fail number, .truth accepted => number == n && accepted
  | .cancel, _ => true
  | _, _ => false

theorem started?_of_ends {n : Nat} {e : Entry} (hends : e.ends n = true) : e.started? = none := by
  obtain ⟨step, answer⟩ := e
  cases step with
  | start name => simp [ends] at hends
  | _ => rfl

end Entry

/-! ## What a history says -/

/-- The numbers of the attempts that were started. -/
def starts (t : List Entry) : List Nat := t.filterMap Entry.started?

/-- The cores that went in. -/
def puts (t : List Entry) : List Int := t.filterMap Entry.put?

/-- The cores that came out. -/
def gots (t : List Entry) : List Int := t.filterMap Entry.got?

/-- The cores that went in and did not come out. -/
def inside (t : List Entry) : List Int := (puts t).drop (gots t).length

/-- The attempt `n` was the last to be started, and nothing has ended it since. -/
def InFlight (t : List Entry) (n : Nat) : Prop :=
  ∃ before e after, t = before ++ e :: after ∧ e.started? = some n ∧
    ∀ later ∈ after, later.started? = none ∧ later.ends n = false

/-- No attempt is in flight, and there is no core inside. -/
def IsIdle (t : List Entry) : Prop := (∀ n, ¬ InFlight t n) ∧ inside t = []

section

variable {t : List Entry} {e : Entry} {n : Nat}

theorem starts_concat : starts (t ++ [e]) = starts t ++ e.started?.toList := by
  cases h : e.started? <;> simp [starts, h]

theorem puts_concat : puts (t ++ [e]) = puts t ++ e.put?.toList := by
  cases h : e.put? <;> simp [puts, h]

theorem gots_concat : gots (t ++ [e]) = gots t ++ e.got?.toList := by
  cases h : e.got? <;> simp [gots, h]

theorem not_inFlight_nil : ¬ InFlight [] n := by
  rintro ⟨before, e, after, hsplit, -⟩
  simp at hsplit

/-- Where a history with one entry more can be split: at that entry or before it. -/
theorem concat_eq_split {before after : List Entry} {first : Entry} :
    t ++ [e] = before ++ first :: after ↔
      (t = before ∧ e = first ∧ after = []) ∨
        ∃ rest, t = before ++ first :: rest ∧ after = rest ++ [e] := by
  constructor
  · intro hsplit
    cases after using List.reverseRecOn with
    | nil =>
      obtain ⟨hbefore, hlast⟩ := List.append_inj' hsplit rfl
      exact .inl ⟨hbefore, List.singleton_inj.mp hlast, rfl⟩
    | append_singleton rest last =>
      rw [← List.cons_append, ← List.append_assoc] at hsplit
      obtain ⟨hbefore, hlast⟩ := List.append_inj' hsplit rfl
      exact .inr ⟨rest, hbefore, by rw [hlast]⟩
  · rintro (⟨rfl, rfl, rfl⟩ | ⟨rest, rfl, rfl⟩)
    · rfl
    · rw [List.append_assoc, List.cons_append]

/-- An attempt is in flight because it was started just now, or because it was before and nothing has
happened to it. -/
theorem inFlight_concat : InFlight (t ++ [e]) n ↔
    e.started? = some n ∨ InFlight t n ∧ e.started? = none ∧ e.ends n = false := by
  constructor
  · rintro ⟨before, first, after, hsplit, hstarted, hlater⟩
    rcases concat_eq_split.mp hsplit with ⟨-, rfl, -⟩ | ⟨rest, rfl, rfl⟩
    · exact .inl hstarted
    · refine .inr ⟨⟨before, first, rest, rfl, hstarted, ?_⟩, hlater e (by simp)⟩
      intro later hmem
      exact hlater later (List.mem_append_left _ hmem)
  · rintro (hstarted | ⟨⟨before, first, after, rfl, hstarted, hlater⟩, hnone, hends⟩)
    · exact ⟨t, e, [], rfl, hstarted, by simp⟩
    · refine ⟨before, first, after ++ [e], by simp, hstarted, ?_⟩
      intro later hmem
      rcases List.mem_append.mp hmem with hmem | hmem
      · exact hlater later hmem
      · obtain rfl := List.mem_singleton.mp hmem
        exact ⟨hnone, hends⟩

theorem InFlight.mem_starts (hflight : InFlight t n) : n ∈ starts t := by
  obtain ⟨before, e, after, rfl, hstarted, -⟩ := hflight
  exact List.mem_filterMap.mpr ⟨e, by simp, hstarted⟩

end

/-! ## The obtainment keeps to its history -/

/-- The obtainment stands as its history says. -/
structure Reflects (o : Obtainment Int) (t : List Entry) : Prop where
  numbers : starts t = List.range' 1 o.started
  flight : ∀ n, InFlight t n ↔ o.isCurrent n = true
  cores : puts t = gots t ++ o.heldCore?.toList

namespace Reflects

variable {o o' : Obtainment Int} {t : List Entry} {e : Entry}

theorem new (provider : ProviderRef) : Reflects (.new provider) [] where
  numbers := rfl
  flight n := ⟨fun h => absurd h not_inFlight_nil,
    fun h => absurd h (by simp [Obtainment.isCurrent, Obtainment.new])⟩
  cores := rfl

/-- What one more entry has to say for the obtainment to stand as its history says. -/
theorem next (h : Reflects o t)
    (hnumbers : List.range' 1 o'.started = List.range' 1 o.started ++ e.started?.toList)
    (hflight : ∀ n, o'.isCurrent n = true ↔
      e.started? = some n ∨ o.isCurrent n = true ∧ e.started? = none ∧ e.ends n = false)
    (hcores : o.heldCore?.toList ++ e.put?.toList = e.got?.toList ++ o'.heldCore?.toList) :
    Reflects o' (t ++ [e]) where
  numbers := by rw [starts_concat, h.numbers, hnumbers]
  flight n := by rw [inFlight_concat, h.flight, hflight]
  cores := by
    rw [puts_concat, gots_concat, h.cores, List.append_assoc, hcores, List.append_assoc]

/-- An entry that nothing came of leaves the obtainment as it was. -/
theorem still (h : Reflects o t) (hstarted : e.started? = none) (hput : e.put? = none)
    (hgot : e.got? = none) (hends : ∀ n, o.isCurrent n = true → e.ends n = false) :
    Reflects o (t ++ [e]) := by
  refine h.next (by simp [hstarted]) (fun n => ?_) (by simp [hput, hgot])
  simp only [hstarted, reduceCtorEq, false_or, true_and]
  exact ⟨fun hcurrent => ⟨hcurrent, hends n hcurrent⟩, fun hboth => hboth.1⟩

theorem inside_eq (h : Reflects o t) : inside t = o.heldCore?.toList := by
  rw [inside, h.cores, List.drop_left]

theorem isIdle_iff (h : Reflects o t) : IsIdle t ↔ o.isIdle = true := by
  simp only [IsIdle, h.flight, h.inside_eq]
  cases hphase : o.phase with
  | idle => simp [Obtainment.isCurrent, Obtainment.heldCore?, Obtainment.isIdle, hphase]
  | obtaining number token => simp [Obtainment.isCurrent, Obtainment.isIdle, hphase]
  | holding core => simp [Obtainment.heldCore?, Obtainment.isIdle, hphase]

theorem hasCore_iff (h : Reflects o t) : inside t ≠ [] ↔ o.hasCore = true := by
  rw [h.inside_eq]
  cases hphase : o.phase <;> simp [Obtainment.heldCore?, Obtainment.hasCore, hphase]

theorem isObtaining_iff (h : Reflects o t) : (∃ n, InFlight t n) ↔ o.isObtaining = true := by
  simp only [h.flight]
  cases hphase : o.phase <;> simp [Obtainment.isCurrent, Obtainment.isObtaining, hphase]

theorem length_inside_le (h : Reflects o t) : (inside t).length ≤ 1 := by
  rw [h.inside_eq]
  exact Option.length_toList_le

end Reflects

/-! ## One step -/

/-- The answer is the one that is due after what came before. -/
def IsDue (before : List Entry) (e : Entry) : Prop :=
  match e.step with
  | .start _ =>
    IsIdle before ∧ e.answer.result = .attempt (some ((starts before).length + 1)) ∨
      ¬ IsIdle before ∧ e.answer.result = .attempt none
  | .accept n core =>
    InFlight before n ∧ e.answer.result = .accepted ∨
      ¬ InFlight before n ∧ e.answer.result = .refused core
  | .restore core =>
    IsIdle before ∧ e.answer.result = .accepted ∨
      ¬ IsIdle before ∧ e.answer.result = .refused core
  | .fail n =>
    InFlight before n ∧ e.answer.result = .truth true ∨
      ¬ InFlight before n ∧ e.answer.result = .truth false
  | .take => e.answer.result = .core (inside before).head?
  | .cancel => e.answer.result = .core (inside before).head?
  | .cancelParent _ => e.answer.result = .nothing
  | .belongs other => e.answer.result = .truth other.isNone
  | .sighting => ∃ id, e.answer.result = .sighting ⟨id, e.answer.isObtaining, e.answer.hasCore⟩
  | .unreadable => e.answer.result = .badStep

/-- What is shown along with a result is what the history says. -/
structure IsShown (t : List Entry) (answer : Answer) : Prop where
  isIdle : answer.isIdle = true ↔ IsIdle t
  isObtaining : answer.isObtaining = true ↔ ∃ n, InFlight t n
  hasCore : answer.hasCore = true ↔ inside t ≠ []
  isEngaged : answer.isEngaged = !answer.isIdle

/-- The entry that a step makes of a state. -/
def State.entry (s : State) (step : Step) : Entry :=
  ⟨step, (s.step step).2.answer (s.step step).1⟩

theorem State.parent_obtainment (s : State) (name : String) :
    (s.parent name).2.obtainment = s.obtainment := by
  unfold State.parent
  split <;> rfl

theorem isCurrent_iff {o : Obtainment Int} {number : Nat} :
    o.isCurrent number = true ↔ ∃ token, o.phase = .obtaining number token := by
  cases hphase : o.phase <;> simp [Obtainment.isCurrent, hphase]

section

variable {s : State} {t : List Entry}

/-- An obtainment that stands as its history says answers as it has to. -/
theorem Reflects.isDue (h : Reflects s.obtainment t) (step : Step) : IsDue t (s.entry step) := by
  cases step with
  | start name =>
    simp only [IsDue, State.entry, State.step, State.answer, h.isIdle_iff, h.numbers,
      List.length_range', Obtainment.start?, State.parent_obtainment]
    cases hphase : s.obtainment.phase <;> simp [Obtainment.isIdle, hphase]
  | accept number core =>
    simp only [IsDue, State.entry, State.step, State.answer, h.flight, Obtainment.accept?]
    by_cases hcurrent : s.obtainment.isCurrent number = true <;> simp [hcurrent]
  | restore core =>
    simp only [IsDue, State.entry, State.step, State.answer, h.isIdle_iff, Obtainment.restore?]
    cases hphase : s.obtainment.phase <;> simp [Obtainment.isIdle, hphase]
  | fail number =>
    simp only [IsDue, State.entry, State.step, State.answer, h.flight, Obtainment.fail?]
    by_cases hcurrent : s.obtainment.isCurrent number = true <;> simp [hcurrent]
  | take =>
    simp only [IsDue, State.entry, State.step, State.answer, h.inside_eq, Obtainment.take?,
      Obtainment.heldCore?]
    cases hphase : s.obtainment.phase <;> simp
  | cancel =>
    simp only [IsDue, State.entry, State.step, State.answer, h.inside_eq]
    cases s.obtainment.heldCore? <;> rfl
  | cancelParent name => rfl
  | belongs other =>
    cases other <;>
      simp [IsDue, State.entry, State.step, State.answer, Obtainment.belongsTo]
  | sighting => exact ⟨s.obtainment.provider.id, rfl⟩
  | unreadable => rfl

theorem Reflects.step (h : Reflects s.obtainment t) (step : Step) :
    Reflects (s.step step).2.obtainment (t ++ [s.entry step]) := by
  cases step with
  | start name =>
    cases hphase : s.obtainment.phase with
    | idle =>
      have hstart (token : Token) : s.obtainment.start? token = some (s.obtainment.started + 1,
          { s.obtainment with
            phase := .obtaining (s.obtainment.started + 1) token
            started := s.obtainment.started + 1 }) := by
        simp only [Obtainment.start?, hphase]
      simp only [State.entry, State.step, State.parent_obtainment, hstart]
      refine h.next ?_ (fun n => ?_) ?_
      · simp [Entry.started?, State.answer, List.range'_concat, Nat.add_comm]
      · simp [Entry.started?, State.answer, Obtainment.isCurrent]
      · simp [Entry.put?, Entry.got?, Obtainment.heldCore?, hphase]
    | _ =>
      have hstart (token : Token) : s.obtainment.start? token = none := by
        simp only [Obtainment.start?, hphase]
      simp only [State.entry, State.step, State.parent_obtainment, hstart]
      exact h.still rfl rfl rfl fun _ _ => rfl
  | accept number core =>
    by_cases hcurrent : s.obtainment.isCurrent number = true
    · obtain ⟨token, hphase⟩ := isCurrent_iff.mp hcurrent
      simp only [State.entry, State.step, Obtainment.accept?, hcurrent, if_true]
      refine h.next (by simp [Entry.started?]) (fun n => ?_) ?_
      · simp [Entry.started?, Entry.ends, State.answer, Obtainment.isCurrent, hphase]
      · simp [Entry.put?, Entry.got?, State.answer, Obtainment.heldCore?, hphase]
    · simp only [State.entry, State.step, Obtainment.accept?, hcurrent]
      exact h.still rfl rfl rfl fun _ _ => rfl
  | fail number =>
    by_cases hcurrent : s.obtainment.isCurrent number = true
    · obtain ⟨token, hphase⟩ := isCurrent_iff.mp hcurrent
      simp only [State.entry, State.step, Obtainment.fail?, hcurrent, if_true]
      refine h.next (by simp [Entry.started?]) (fun n => ?_) ?_
      · simp [Entry.started?, Entry.ends, State.answer, Obtainment.isCurrent, hphase]
      · simp [Entry.put?, Entry.got?, Obtainment.heldCore?, hphase]
    · simp only [State.entry, State.step, Obtainment.fail?, hcurrent]
      refine h.still rfl rfl rfl fun _ _ => ?_
      simp [Entry.ends, State.answer]
  | restore core =>
    cases hphase : s.obtainment.phase with
    | idle =>
      simp only [State.entry, State.step, Obtainment.restore?, hphase]
      refine h.next (by simp [Entry.started?]) (fun n => ?_) ?_
      · simp [Entry.started?, Obtainment.isCurrent, hphase]
      · simp [Entry.put?, Entry.got?, State.answer, Obtainment.heldCore?, hphase]
    | _ =>
      simp only [State.entry, State.step, Obtainment.restore?, hphase]
      exact h.still rfl rfl rfl fun _ _ => rfl
  | take =>
    cases hphase : s.obtainment.phase with
    | holding core =>
      simp only [State.entry, State.step, Obtainment.take?, hphase]
      refine h.next (by simp [Entry.started?]) (fun n => ?_) ?_
      · simp [Entry.started?, Obtainment.isCurrent, hphase]
      · simp [Entry.put?, Entry.got?, State.answer, Obtainment.heldCore?, hphase]
    | _ =>
      simp only [State.entry, State.step, Obtainment.take?, hphase]
      exact h.still rfl rfl rfl fun _ _ => rfl
  | cancel =>
    simp only [State.entry, State.step]
    refine h.next (by simp [Entry.started?, Obtainment.release]) (fun n => ?_) ?_
    · simp [Entry.started?, Entry.ends, Obtainment.isCurrent, Obtainment.release]
    · simp [Entry.put?, Entry.got?, State.answer, Obtainment.heldCore?, Obtainment.release]
  | cancelParent name =>
    simp only [State.entry, State.step, State.parent_obtainment]
    exact h.still rfl rfl rfl fun _ _ => rfl
  | belongs other =>
    cases other <;> exact h.still rfl rfl rfl fun _ _ => rfl
  | sighting => exact h.still rfl rfl rfl fun _ _ => rfl
  | unreadable => exact h.still rfl rfl rfl fun _ _ => rfl

theorem Reflects.isShown (h : Reflects s.obtainment t) (result : Result) :
    IsShown t (s.answer result) where
  isIdle := h.isIdle_iff.symm
  isObtaining := h.isObtaining_iff.symm
  hasCore := h.hasCore_iff.symm
  isEngaged := rfl

end

end CoreBroker.Drill.Obtaining
