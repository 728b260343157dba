import CoreBroker.Proofs.Obtainment.Tokens
set_option autoImplicit false

/-!
# The law of an obtainment

Whatever is asked of an obtainment, in whatever order and with whatever numbers and cores, every answer
is the one that is due after what came before it.  The attempts get the numbers from one on, each of them
comes to an end once at most, the cores that went in come out in the same order, and a token is cancelled
for the two reasons there are and for no other.
-/

namespace CoreBroker.Drill.Obtaining

/-! ## One step -/

/-- The step neither starts an attempt nor cancels anything. -/
def Step.IsStill (step : Step) : Prop :=
  (∀ name, step ≠ .start name) ∧ step ≠ .cancel ∧ ∀ name, step ≠ .cancelParent name

/-- Such a step changes the obtainment at most, and no attempt is in flight that was not. -/
theorem Step.IsStill.changes {step : Step} (hstill : step.IsStill) (s : State) :
    ∃ o, (s.step step).2 = { s with obtainment := o } ∧
      ∀ n token, o.phase = .obtaining n token → s.obtainment.phase = .obtaining n token := by
  cases step with
  | start name => exact absurd rfl (hstill.1 name)
  | cancel => exact absurd rfl hstill.2.1
  | cancelParent name => exact absurd rfl (hstill.2.2 name)
  | accept number core =>
    by_cases hcurrent : s.obtainment.isCurrent number = true
    · exact ⟨{ s.obtainment with phase := .holding core },
        by simp [State.step, Obtainment.accept?, hcurrent], fun _ _ hphase => absurd hphase (by simp)⟩
    · exact ⟨s.obtainment, by simp [State.step, Obtainment.accept?, hcurrent], fun _ _ h => h⟩
  | fail number =>
    by_cases hcurrent : s.obtainment.isCurrent number = true
    · exact ⟨{ s.obtainment with phase := .idle },
        by simp [State.step, Obtainment.fail?, hcurrent], fun _ _ hphase => absurd hphase (by simp)⟩
    · exact ⟨s.obtainment, by simp [State.step, Obtainment.fail?, hcurrent], fun _ _ h => h⟩
  | restore core =>
    cases hrestore : s.obtainment.restore? core with
    | none => exact ⟨s.obtainment, by simp [State.step, hrestore], fun _ _ h => h⟩
    | some o =>
      obtain ⟨-, hheld⟩ := Obtainment.of_restore? hrestore
      exact ⟨o, by simp [State.step, hrestore], fun _ _ hphase => by simp [hheld] at hphase⟩
  | take =>
    cases htake : s.obtainment.take? with
    | none => exact ⟨s.obtainment, by simp [State.step, htake], fun _ _ h => h⟩
    | some taken =>
      obtain ⟨-, hidle⟩ := Obtainment.of_take? htake
      exact ⟨taken.2, by simp [State.step, htake], fun _ _ hphase => by simp [hidle] at hphase⟩
  | belongs other => cases other <;> exact ⟨s.obtainment, rfl, fun _ _ h => h⟩
  | sighting => exact ⟨s.obtainment, rfl, fun _ _ h => h⟩
  | unreadable => exact ⟨s.obtainment, rfl, fun _ _ h => h⟩

/-- The state stands as its history says. -/
structure Keeps (s₀ : State) (t : List Entry) (s : State) : Prop where
  reflects : Reflects s.obtainment t
  marks : TokensFollow s₀ t s

namespace Keeps

variable {s₀ s : State} {t : List Entry}

theorem start (hfresh : s₀.IsFresh) : Keeps s₀ [] s₀ where
  reflects := by
    obtain ⟨provider, hnew⟩ := hfresh.obtainment
    rw [hnew]
    exact .new provider
  marks := .start hfresh

/-- A start gives an attempt a token of its own, or it gives none. -/
theorem marks_start (h : Keeps s₀ t s) (name : String) :
    TokensFollow s₀ (t ++ [s.entry (.start name)]) (s.step (.start name)).2 := by
  have hmade := h.marks.parent name
  have hsame := s.parent_obtainment name
  cases hphase : s.obtainment.phase with
  | idle =>
    have hnew : s.obtainment.started + 1 ∉ starts t := by
      rw [h.reflects.numbers, List.mem_range'_1]
      omega
    simp only [State.entry, State.step, Obtainment.start?, hsame, hphase]
    exact hmade.started (s.lookup_parent name) rfl rfl hnew rfl
  | _ =>
    simp only [State.entry, State.step, Obtainment.start?, hsame, hphase]
    exact hmade.still (fun n token hflight => hflight) rfl (by simp) (by simp)

theorem step (h : Keeps s₀ t s) (hfresh : s₀.IsFresh) (step : Step) :
    Keeps s₀ (t ++ [s.entry step]) (s.step step).2 where
  reflects := h.reflects.step step
  marks := by
    by_cases hstill : step.IsStill
    · obtain ⟨o, hafter, hphase⟩ := hstill.changes s
      have hstarted : (s.entry step).started? = none := by
        cases step with
        | start name => exact absurd rfl (hstill.1 name)
        | _ => rfl
      rw [hafter]
      exact h.marks.still hphase hstarted hstill.2.1 hstill.2.2
    · cases step with
      | start name => exact h.marks_start name
      | cancel => exact h.marks.cancel rfl h.reflects.flight
      | cancelParent name =>
        exact (h.marks.parent name).cancelParent hfresh (s.lookup_parent name) rfl
      | _ => exact absurd ⟨by simp, by simp, by simp⟩ hstill

/-- The tokens that are shown as cancelled are those of attempts that were given up in flight and those
whose parent was cancelled. -/
theorem mem_cancelled (h : Keeps s₀ t s) (result : Result) (n : Nat) :
    n ∈ (s.answer result).cancelled ↔
      ∃ name, StartedUnder t name n ∧ (WasGivenUp t n ∨ Lapsed s₀ t name) := by
  have hcancelled : ∀ {n name p k}, s.parents.lookup name = some p → (n, p.child k) ∈ s.attempts →
      ((p.child k).isCancelled s.fired = true ↔ WasGivenUp t n ∨ Lapsed s₀ t name) := by
    intro n name p k hlookup hattempt
    rw [Token.isCancelled_child, Bool.or_eq_true, List.contains_iff_mem,
      h.marks.lapsed name p hlookup]
    exact or_congr_left (h.marks.givenUp n _ hattempt)
  simp only [State.answer, List.mem_map, List.mem_filter]
  constructor
  · rintro ⟨⟨m, token⟩, ⟨hattempt, hfired⟩, rfl⟩
    obtain ⟨name, p, k, hstarted, hlookup, rfl⟩ := h.marks.under m token hattempt
    exact ⟨name, hstarted, (hcancelled hlookup hattempt).mp hfired⟩
  · rintro ⟨name, hstarted, hreason⟩
    obtain ⟨p, k, hlookup, hattempt⟩ := h.marks.listed name n hstarted
    exact ⟨(n, p.child k), ⟨hattempt, (hcancelled hlookup hattempt).mpr hreason⟩, rfl⟩

end Keeps

/-! ## The whole history -/

/-- The steps with the answers that they get, beginning at a state. -/
def transcript (s : State) (steps : List Step) : List Entry :=
  List.zipWith Entry.mk steps (runFrom s steps)

theorem transcript_cons (s : State) (step : Step) (rest : List Step) :
    transcript s (step :: rest) = s.entry step :: transcript (s.step step).2 rest := rfl

/-- The attempt `n` was in flight, and this puts an end to it. -/
def Concludes (before : List Entry) (n : Nat) (e : Entry) : Prop :=
  InFlight before n ∧ e.ends n = true

/-- A history that keeps to the law, of tokens that began as in `s₀`. -/
structure IsLawful (s₀ : State) (t : List Entry) : Prop where
  /-- Every answer is due, and what it shows is what the history says. -/
  answers : ∀ before e after, t = before ++ e :: after →
    IsDue before e ∧ IsShown (before ++ [e]) e.answer
  /-- The attempts are numbered from one on. -/
  numbers : starts t = List.range' 1 (starts t).length
  /-- The cores come out in the order in which they went in, all of them but one at most. -/
  cores : puts t = gots t ++ inside t ∧ (inside t).length ≤ 1
  /-- No attempt comes to an end twice. -/
  once : ∀ n before e after before' e' after', t = before ++ e :: after →
    t = before' ++ e' :: after' → Concludes before n e → Concludes before' n e' → before = before'
  /-- The token of an attempt is cancelled because everything was given up while the attempt was in
  flight, or because its parent token is cancelled. -/
  tokens : ∀ before e after, t = before ++ e :: after → ∀ n, n ∈ e.answer.cancelled ↔
    ∃ name, StartedUnder (before ++ [e]) name n ∧
      (WasGivenUp (before ++ [e]) n ∨ Lapsed s₀ (before ++ [e]) name)

section

variable {s₀ s : State} {t before after : List Entry} {e : Entry}

/-- Every entry is what a step made of a state that stood as the history before it says. -/
theorem Keeps.of_split (hfresh : s₀.IsFresh) (h : Keeps s₀ t s) {steps : List Step}
    (hsplit : transcript s steps = before ++ e :: after) :
    ∃ s' step, Keeps s₀ (t ++ before) s' ∧ e = s'.entry step := by
  induction steps generalizing s t before with
  | nil => simp [transcript] at hsplit
  | cons step rest ih =>
    rw [transcript_cons] at hsplit
    cases before with
    | nil =>
      obtain ⟨hhead, -⟩ := List.cons.inj hsplit
      exact ⟨s, step, by rwa [List.append_nil], hhead.symm⟩
    | cons first before =>
      obtain ⟨rfl, htail⟩ := List.cons.inj hsplit
      obtain ⟨s', step', hkeeps, he⟩ := ih (h.step hfresh step) htail
      exact ⟨s', step', by rwa [List.append_assoc] at hkeeps, he⟩

/-- A state that stands as its history says goes on doing so. -/
theorem Keeps.run (hfresh : s₀.IsFresh) (h : Keeps s₀ t s) (steps : List Step) :
    ∃ s', Keeps s₀ (t ++ transcript s steps) s' := by
  induction steps generalizing s t with
  | nil => exact ⟨s, by rwa [transcript, List.zipWith_nil_left, List.append_nil]⟩
  | cons step rest ih =>
    obtain ⟨s', hkeeps⟩ := ih (h.step hfresh step)
    exact ⟨s', by rwa [transcript_cons, List.append_cons]⟩

/-- An attempt that has come to an end is never in flight again, because no number is given twice. -/
theorem not_inFlight_of_concluded {n : Nat} {later : List Entry}
    (hnumbers : (starts (before ++ e :: later)).Nodup) (hconcludes : Concludes before n e) :
    ¬ InFlight (before ++ e :: later) n := by
  obtain ⟨hflight, hends⟩ := hconcludes
  induction later using List.reverseRecOn with
  | nil =>
    rw [inFlight_concat, Entry.started?_of_ends hends, hends]
    simp
  | append_singleton later last ih =>
    rw [← List.cons_append, ← List.append_assoc] at hnumbers ⊢
    rw [starts_concat] at hnumbers
    rw [inFlight_concat]
    rintro (hstarted | ⟨hstill, -, -⟩)
    · have hgiven : n ∈ starts (before ++ e :: later) := by
        rw [starts, List.filterMap_append]
        exact List.mem_append_left _ hflight.mem_starts
      rw [hstarted] at hnumbers
      exact (List.nodup_append.mp hnumbers).2.2 n hgiven n (by simp) rfl
    · exact ih (List.nodup_append.mp hnumbers).1 hstill

end

/-- Whatever is asked of a fresh obtainment, the history is lawful. -/
theorem transcript_lawful {s : State} (hfresh : s.IsFresh) (steps : List Step) :
    IsLawful s (transcript s steps) := by
  have hstart := Keeps.start hfresh
  obtain ⟨final, hfinal⟩ := hstart.run hfresh steps
  rw [List.nil_append] at hfinal
  have hsplit : ∀ before e after, transcript s steps = before ++ e :: after →
      ∃ s' step, Keeps s before s' ∧ e = s'.entry step :=
    fun before e after h => hstart.of_split hfresh h
  have hordered : ∀ n before e after before' e' after', transcript s steps = before ++ e :: after →
      transcript s steps = before' ++ e' :: after' → Concludes before n e → Concludes before' n e' →
      before.length ≤ before'.length → before = before' := by
    intro n before e after before' e' after' h h' hconcludes hagain hle
    have hprefix : before <+: before' :=
      List.prefix_of_prefix_length_le ⟨e :: after, h.symm⟩ ⟨e' :: after', h'.symm⟩ hle
    obtain ⟨more, rfl⟩ := hprefix
    cases more with
    | nil => exact (List.append_nil _).symm
    | cons first more =>
      -- The entry after `before` is the one that concluded the attempt, so nothing after it can.
      obtain ⟨rfl, -⟩ : e = first ∧ after = more ++ e' :: after' := by
        simpa [List.append_assoc] using h.symm.trans h'
      obtain ⟨s', -, hkeeps, -⟩ := hsplit _ e' after' h'
      refine absurd hagain.1 (not_inFlight_of_concluded ?_ hconcludes)
      rw [hkeeps.reflects.numbers]
      exact List.nodup_range' 1
  constructor
  case answers =>
    intro before e after h
    obtain ⟨s', step, hkeeps, rfl⟩ := hsplit before e after h
    exact ⟨hkeeps.reflects.isDue step, (hkeeps.step hfresh step).reflects.isShown _⟩
  case numbers =>
    rw [hfinal.reflects.numbers, List.length_range']
  case cores =>
    refine ⟨?_, hfinal.reflects.length_inside_le⟩
    rw [hfinal.reflects.inside_eq]
    exact hfinal.reflects.cores
  case once =>
    intro n before e after before' e' after' h h' hconcludes hconcludes'
    rcases Nat.le_total before.length before'.length with hle | hle
    · exact hordered n before e after before' e' after' h h' hconcludes hconcludes' hle
    · exact (hordered n before' e' after' before e after h' h hconcludes' hconcludes hle).symm
  case tokens =>
    intro before e after h n
    obtain ⟨s', step, hkeeps, rfl⟩ := hsplit before e after h
    exact (hkeeps.step hfresh step).mem_cancelled _ n

/-- A fresh obtainment with two parent tokens, of which the second descends from the first. -/
def kin : State where
  obtainment := .new ⟨0, "near"⟩
  parents := [("outer", ⟨0, []⟩), ("inner", ⟨1, [0]⟩)]
  attempts := []
  fired := []
  nextToken := 2

/-- A drill that brings two cores in, loses an attempt to the parent of its parent and gives up
another. -/
def kinSteps : List Step :=
  [.start "inner", .accept 1 7, .take, .start "inner", .cancelParent "outer", .fail 2, .restore 7,
    .take, .start "other", .cancel, .accept 3 8]

theorem kin_lawful : kin.IsFresh ∧ IsLawful kin (transcript kin kinSteps) ∧
    (transcript kin kinSteps).map (·.answer.cancelled) =
      [[], [], [], [], [1, 2], [1, 2], [1, 2], [1, 2], [1, 2], [1, 2, 3], [1, 2, 3]] := by
  have hfresh : kin.IsFresh := ⟨⟨_, rfl⟩, rfl, by decide, by decide⟩
  exact ⟨hfresh, transcript_lawful hfresh kinSteps, by decide +kernel⟩

end CoreBroker.Drill.Obtaining
