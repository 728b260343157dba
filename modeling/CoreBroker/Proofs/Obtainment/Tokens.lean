import CoreBroker.Proofs.Obtainment.Histories
set_option autoImplicit false

/-!
# The tokens of attempts

Every attempt has a token of its own, which descends from the parent token it was started under.  So it
is cancelled in two ways only: everything was given up while the attempt was in flight, or the parent
token was cancelled, by itself or with one that it descends from.  Both can be told from the history and
from what the parent tokens were at its beginning.
-/

namespace CoreBroker

/-- The numbers that cancel the token when they are fired: its own and those of its ancestors. -/
def Token.numbers (t : Token) : List Nat := t.number :: t.ancestors

theorem Token.isCancelled_iff_numbers {t : Token} {fired : List Nat} :
    t.isCancelled fired = true ↔ ∃ k ∈ t.numbers, k ∈ fired := by
  simp [isCancelled, numbers]

theorem Token.isCancelled_cons {t : Token} {k : Nat} {fired : List Nat} :
    t.isCancelled (k :: fired) = true ↔ k ∈ t.numbers ∨ t.isCancelled fired = true := by
  simp only [isCancelled_iff_numbers, List.mem_cons]
  constructor
  · rintro ⟨m, hm, rfl | hfired⟩
    · exact .inl hm
    · exact .inr ⟨m, hm, hfired⟩
  · rintro (hk | ⟨m, hm, hfired⟩)
    · exact ⟨k, hk, .inl rfl⟩
    · exact ⟨m, hm, .inr hfired⟩

namespace Drill.Obtaining

/-! ## What a history says of tokens -/

/-- To cancel the parent token `other` is to cancel the one called `name`: they are one, or the second
descends from the first. -/
def State.Reaches (s : State) (other name : String) : Prop :=
  other = name ∨ ∃ p q, s.parents.lookup other = some p ∧ s.parents.lookup name = some q ∧
    p.number ∈ q.numbers

/-- The attempt `n` was started under the parent token `name`. -/
def StartedUnder (t : List Entry) (name : String) (n : Nat) : Prop :=
  ∃ e ∈ t, e.step = .start name ∧ e.started? = some n

/-- Everything was given up while the attempt `n` was in flight. -/
def WasGivenUp (t : List Entry) (n : Nat) : Prop :=
  ∃ before e after, t = before ++ e :: after ∧ e.step = .cancel ∧ InFlight before n

/-- The parent token `name` was cancelled from the beginning, or has been since. -/
def Lapsed (s₀ : State) (t : List Entry) (name : String) : Prop :=
  (∃ p, s₀.parents.lookup name = some p ∧ p.isCancelled s₀.fired = true) ∨
    ∃ e ∈ t, ∃ other, e.step = .cancelParent other ∧ s₀.Reaches other name

section

variable {s₀ : State} {t : List Entry} {e : Entry} {name : String} {n : Nat}

theorem startedUnder_concat : StartedUnder (t ++ [e]) name n ↔
    StartedUnder t name n ∨ e.step = .start name ∧ e.started? = some n := by
  simp only [StartedUnder, List.mem_append, List.mem_singleton, or_and_right, exists_or,
    exists_eq_left]

theorem wasGivenUp_concat : WasGivenUp (t ++ [e]) n ↔
    WasGivenUp t n ∨ e.step = .cancel ∧ InFlight t n := by
  constructor
  · rintro ⟨before, first, after, hsplit, hcancel, hflight⟩
    rcases concat_eq_split.mp hsplit with ⟨rfl, rfl, -⟩ | ⟨rest, rfl, rfl⟩
    · exact .inr ⟨hcancel, hflight⟩
    · exact .inl ⟨before, first, rest, rfl, hcancel, hflight⟩
  · rintro (⟨before, first, after, rfl, hcancel, hflight⟩ | ⟨hcancel, hflight⟩)
    · exact ⟨before, first, after ++ [e], by simp, hcancel, hflight⟩
    · exact ⟨t, e, [], rfl, hcancel, hflight⟩

theorem lapsed_concat : Lapsed s₀ (t ++ [e]) name ↔
    Lapsed s₀ t name ∨ ∃ other, e.step = .cancelParent other ∧ s₀.Reaches other name := by
  simp only [Lapsed, List.mem_append, List.mem_singleton, or_and_right, exists_or, exists_eq_left,
    or_assoc]

theorem StartedUnder.mem_starts (hstarted : StartedUnder t name n) : n ∈ starts t := by
  obtain ⟨e, hmem, -, hnumber⟩ := hstarted
  exact List.mem_filterMap.mpr ⟨e, hmem, hnumber⟩

/-- Only an attempt that was started can have been given up. -/
theorem WasGivenUp.mem_starts (hgivenUp : WasGivenUp t n) : n ∈ starts t := by
  obtain ⟨before, e, after, rfl, -, hflight⟩ := hgivenUp
  rw [starts, List.filterMap_append]
  exact List.mem_append_left _ hflight.mem_starts

end

/-! ## The parent tokens -/

/-- Nothing has been asked of the obtainment yet; parent tokens may be there, related and cancelled in
whatever way. -/
structure State.IsFresh (s : State) : Prop where
  obtainment : ∃ provider, s.obtainment = .new provider
  attempts : s.attempts = []
  parents : ∀ entry ∈ s.parents, ∀ k ∈ entry.2.numbers, k < s.nextToken
  fired : ∀ k ∈ s.fired, k < s.nextToken

theorem State.IsFresh.bound {s : State} (hfresh : s.IsFresh) (name : String) (p : Token)
    (hlookup : s.parents.lookup name = some p) : ∀ k ∈ p.numbers, k < s.nextToken := by
  obtain ⟨before, after, hparents, -⟩ := List.lookup_eq_some_iff.mp hlookup
  exact hfresh.parents (name, p) (by simp [hparents])

/-- The parent tokens of a state: those that were there at the beginning, and behind them new ones
without ancestors and with numbers of their own. -/
structure AddsParents (s₀ s : State) : Prop where
  le : s₀.nextToken ≤ s.nextToken
  kept : ∀ name p, s₀.parents.lookup name = some p → s.parents.lookup name = some p
  made : ∀ name p, s.parents.lookup name = some p → s₀.parents.lookup name = some p ∨
    s₀.parents.lookup name = none ∧ s₀.nextToken ≤ p.number ∧ p.ancestors = []
  apart : ∀ name other p q, s.parents.lookup name = some p → s.parents.lookup other = some q →
    s₀.parents.lookup name = none → p.number = q.number → name = other
  bound : ∀ name p, s.parents.lookup name = some p → ∀ k ∈ p.numbers, k < s.nextToken

section

variable {s : State} {name other : String} {q : Token}

theorem State.parent_cases (s : State) (name : String) :
    (∃ p, s.parents.lookup name = some p ∧ s.parent name = (p, s)) ∨
      s.parents.lookup name = none ∧ s.parent name = (⟨s.nextToken, []⟩,
        { s with parents := (name, ⟨s.nextToken, []⟩) :: s.parents
                 nextToken := s.nextToken + 1 }) := by
  unfold State.parent
  split
  · rename_i p hlookup
    exact .inl ⟨p, hlookup, rfl⟩
  · rename_i hlookup
    exact .inr ⟨hlookup, rfl⟩

theorem State.lookup_parent (s : State) (name : String) :
    (s.parent name).2.parents.lookup name = some (s.parent name).1 := by
  rcases s.parent_cases name with ⟨p, hlookup, hparent⟩ | ⟨-, hparent⟩
  · rw [hparent, hlookup]
  · simp [hparent]

theorem State.lookup_parent_of_lookup (hlookup : s.parents.lookup other = some q) :
    (s.parent name).2.parents.lookup other = some q := by
  rcases s.parent_cases name with ⟨p, -, hparent⟩ | ⟨hnone, hparent⟩
  · rw [hparent, hlookup]
  · have hne : other ≠ name := by
      rintro rfl
      simp [hnone] at hlookup
    rw [hparent, List.lookup_cons, beq_false_of_ne hne]
    exact hlookup

theorem State.lookup_of_lookup_parent (hlookup : (s.parent name).2.parents.lookup other = some q) :
    s.parents.lookup other = some q ∨ other = name ∧ s.parents.lookup name = none ∧
      q = ⟨s.nextToken, []⟩ ∧ (s.parent name).2.nextToken = s.nextToken + 1 := by
  rcases s.parent_cases name with ⟨p, -, hparent⟩ | ⟨hnone, hparent⟩
  · rw [hparent] at hlookup
    exact .inl hlookup
  · rw [hparent] at hlookup ⊢
    by_cases hother : other = name
    · subst hother
      have hmade : q = ⟨s.nextToken, []⟩ := by simpa [eq_comm] using hlookup
      exact .inr ⟨rfl, hnone, hmade, rfl⟩
    · rw [List.lookup_cons, beq_false_of_ne hother] at hlookup
      exact .inl hlookup

theorem State.nextToken_le_parent (s : State) (name : String) :
    s.nextToken ≤ (s.parent name).2.nextToken := by
  rcases s.parent_cases name with ⟨p, -, hparent⟩ | ⟨-, hparent⟩
  · rw [hparent]
  · rw [hparent]
    exact Nat.le_succ _

theorem State.parent_attempts (s : State) (name : String) :
    (s.parent name).2.attempts = s.attempts := by
  unfold State.parent
  split <;> rfl

theorem State.parent_fired (s : State) (name : String) : (s.parent name).2.fired = s.fired := by
  unfold State.parent
  split <;> rfl

end

namespace AddsParents

variable {s₀ s : State} {name other : String} {p q : Token}

theorem refl (hfresh : s₀.IsFresh) : AddsParents s₀ s₀ where
  le := Nat.le_refl _
  kept _ _ h := h
  made _ _ h := .inl h
  apart name _ p _ h _ hnone _ := by simp [hnone] at h
  bound := hfresh.bound

/-- A parent token that is not there was not there at the beginning. -/
theorem lookup_eq_none (h : AddsParents s₀ s) (hnone : s.parents.lookup name = none) :
    s₀.parents.lookup name = none := by
  cases hold : s₀.parents.lookup name with
  | none => rfl
  | some p => exact absurd (hnone.symm.trans (h.kept name p hold)) (by simp)

/-- Whether one parent token is cancelled with another can be told at the beginning. -/
theorem mem_numbers_iff (h : AddsParents s₀ s) (hfresh : s₀.IsFresh)
    (hother : s.parents.lookup other = some p) (hname : s.parents.lookup name = some q) :
    p.number ∈ q.numbers ↔ s₀.Reaches other name := by
  constructor
  · intro hmem
    rcases h.made name q hname with hold | ⟨hnew, -, hroot⟩
    · rcases h.made other p hother with hold' | ⟨-, hle, -⟩
      · exact .inr ⟨p, q, hold', hold, hmem⟩
      · have hlt := hfresh.bound name q hold _ hmem
        omega
    · have hnumber : p.number = q.number := by simpa [Token.numbers, hroot] using hmem
      exact .inl (h.apart name other q p hname hother hnew hnumber.symm).symm
  · rintro (rfl | ⟨p', q', hother', hname', hmem⟩)
    · obtain rfl : p = q := Option.some.inj (hother.symm.trans hname)
      exact List.mem_cons_self
    · obtain rfl : p = p' := Option.some.inj (hother.symm.trans (h.kept other p' hother'))
      obtain rfl : q = q' := Option.some.inj (hname.symm.trans (h.kept name q' hname'))
      exact hmem

/-- A parent token that is made is new. -/
theorem parent (h : AddsParents s₀ s) (name : String) : AddsParents s₀ (s.parent name).2 where
  le := Nat.le_trans h.le (s.nextToken_le_parent name)
  kept other q hq := State.lookup_parent_of_lookup (h.kept other q hq)
  made other q hq := by
    rcases State.lookup_of_lookup_parent hq with hq | ⟨rfl, hnone, rfl, -⟩
    · exact h.made other q hq
    · exact .inr ⟨h.lookup_eq_none hnone, h.le, rfl⟩
  apart one other p q hp hq hnew hnumber := by
    rcases State.lookup_of_lookup_parent hp with hp | ⟨hone, -, rfl, -⟩
    · rcases State.lookup_of_lookup_parent hq with hq | ⟨-, -, rfl, -⟩
      · exact h.apart one other p q hp hq hnew hnumber
      · exact absurd hnumber (Nat.ne_of_lt (h.bound one p hp _ List.mem_cons_self))
    · rcases State.lookup_of_lookup_parent hq with hq | ⟨hother, -, -, -⟩
      · exact absurd hnumber.symm (Nat.ne_of_lt (h.bound other q hq _ List.mem_cons_self))
      · exact hone.trans hother.symm
  bound other q hq k hk := by
    rcases State.lookup_of_lookup_parent hq with hq | ⟨-, -, rfl, hlater⟩
    · exact Nat.lt_of_lt_of_le (h.bound other q hq k hk) (s.nextToken_le_parent name)
    · obtain rfl : k = s.nextToken := by simpa [Token.numbers] using hk
      rw [hlater]
      exact Nat.lt_succ_self _

end AddsParents

/-! ## The tokens keep to the history -/

/-- The tokens of a state are cancelled as the history says. -/
structure TokensFollow (s₀ : State) (t : List Entry) (s : State) : Prop where
  addsParents : AddsParents s₀ s
  fired : ∀ k ∈ s.fired, k < s.nextToken
  lapsed : ∀ name p, s.parents.lookup name = some p →
    (p.isCancelled s.fired = true ↔ Lapsed s₀ t name)
  mentioned : ∀ e ∈ t, ∀ name, e.step = .cancelParent name → ∃ p, s.parents.lookup name = some p
  /-- The token of an attempt was started under a parent token, with a number of its own. -/
  under : ∀ n token, (n, token) ∈ s.attempts → ∃ name p k, StartedUnder t name n ∧
    s.parents.lookup name = some p ∧ token = p.child k
  listed : ∀ name n, StartedUnder t name n → ∃ p k, s.parents.lookup name = some p ∧
    (n, p.child k) ∈ s.attempts
  bound : ∀ n token, (n, token) ∈ s.attempts → token.number < s.nextToken
  foreign : ∀ n token, (n, token) ∈ s.attempts → ∀ name p, s.parents.lookup name = some p →
    token.number ∉ p.numbers
  apart : ∀ n m token token', (n, token) ∈ s.attempts → (m, token') ∈ s.attempts →
    (token.number = token'.number ↔ n = m)
  givenUp : ∀ n token, (n, token) ∈ s.attempts → (token.number ∈ s.fired ↔ WasGivenUp t n)
  flight : ∀ n token, s.obtainment.phase = .obtaining n token → (n, token) ∈ s.attempts

namespace TokensFollow

variable {s₀ s : State} {t : List Entry} {e : Entry} {name : String} {p : Token}

theorem start (hfresh : s₀.IsFresh) : TokensFollow s₀ [] s₀ where
  addsParents := .refl hfresh
  fired := hfresh.fired
  lapsed name p hlookup := by simp [Lapsed, hlookup]
  mentioned e he := absurd he (by simp)
  under n token h := by simp [hfresh.attempts] at h
  listed name n := by simp [StartedUnder]
  bound n token h := by simp [hfresh.attempts] at h
  foreign n token h := by simp [hfresh.attempts] at h
  apart n m token token' h := by simp [hfresh.attempts] at h
  givenUp n token h := by simp [hfresh.attempts] at h
  flight n token hphase := by
    obtain ⟨provider, hnew⟩ := hfresh.obtainment
    simp [hnew, Obtainment.new] at hphase

/-- A parent token that is made has not been cancelled. -/
theorem parent (h : TokensFollow s₀ t s) (name : String) : TokensFollow s₀ t (s.parent name).2 where
  addsParents := h.addsParents.parent name
  fired k hk := by
    rw [State.parent_fired] at hk
    exact Nat.lt_of_lt_of_le (h.fired k hk) (s.nextToken_le_parent name)
  lapsed other q hq := by
    rw [State.parent_fired]
    rcases State.lookup_of_lookup_parent hq with hq | ⟨rfl, hnone, rfl, -⟩
    · exact h.lapsed other q hq
    · have hnew := h.addsParents.lookup_eq_none hnone
      constructor
      · intro hcancelled
        obtain ⟨k, hk, hfired⟩ := Token.isCancelled_iff_numbers.mp hcancelled
        obtain rfl : k = s.nextToken := by simpa [Token.numbers] using hk
        exact absurd (h.fired _ hfired) (Nat.lt_irrefl _)
      · rintro (⟨p, hp, -⟩ | ⟨e, he, one, hstep, rfl | ⟨p, q, -, hq, -⟩⟩)
        · exact absurd (hnew.symm.trans hp) (by simp)
        · obtain ⟨p, hp⟩ := h.mentioned e he one hstep
          exact absurd (hnone.symm.trans hp) (by simp)
        · exact absurd (hnew.symm.trans hq) (by simp)
  mentioned e he other hstep := by
    obtain ⟨p, hp⟩ := h.mentioned e he other hstep
    exact ⟨p, State.lookup_parent_of_lookup hp⟩
  under n token hattempt := by
    rw [State.parent_attempts] at hattempt
    obtain ⟨other, p, k, hstarted, hp, htoken⟩ := h.under n token hattempt
    exact ⟨other, p, k, hstarted, State.lookup_parent_of_lookup hp, htoken⟩
  listed other n hstarted := by
    obtain ⟨p, k, hp, hattempt⟩ := h.listed other n hstarted
    exact ⟨p, k, State.lookup_parent_of_lookup hp, by rwa [State.parent_attempts]⟩
  bound n token hattempt := by
    rw [State.parent_attempts] at hattempt
    exact Nat.lt_of_lt_of_le (h.bound n token hattempt) (s.nextToken_le_parent name)
  foreign n token hattempt other q hq := by
    rw [State.parent_attempts] at hattempt
    rcases State.lookup_of_lookup_parent hq with hq | ⟨-, -, rfl, -⟩
    · exact h.foreign n token hattempt other q hq
    · simpa [Token.numbers] using Nat.ne_of_lt (h.bound n token hattempt)
  apart n m token token' hn hm := by
    rw [State.parent_attempts] at hn hm
    exact h.apart n m token token' hn hm
  givenUp n token hattempt := by
    rw [State.parent_attempts] at hattempt
    rw [State.parent_fired]
    exact h.givenUp n token hattempt
  flight n token hphase := by
    rw [State.parent_obtainment] at hphase
    rw [State.parent_attempts]
    exact h.flight n token hphase

theorem mentioned_concat (h : TokensFollow s₀ t s)
    (hparent : ∀ name, e.step = .cancelParent name → ∃ p, s.parents.lookup name = some p) :
    ∀ first ∈ t ++ [e], ∀ name, first.step = .cancelParent name →
      ∃ p, s.parents.lookup name = some p := by
  intro first hmem name hstep
  rcases List.mem_append.mp hmem with hmem | hmem
  · exact h.mentioned first hmem name hstep
  · obtain rfl := List.mem_singleton.mp hmem
    exact hparent name hstep

theorem under_concat (h : TokensFollow s₀ t s) (n : Nat) (token : Token)
    (hattempt : (n, token) ∈ s.attempts) : ∃ name p k, StartedUnder (t ++ [e]) name n ∧
      s.parents.lookup name = some p ∧ token = p.child k := by
  obtain ⟨name, p, k, hstart, hlookup, htoken⟩ := h.under n token hattempt
  exact ⟨name, p, k, startedUnder_concat.mpr (.inl hstart), hlookup, htoken⟩

theorem listed_concat (h : TokensFollow s₀ t s) (hstarted : e.started? = none) (name : String) (n : Nat)
    (hstart : StartedUnder (t ++ [e]) name n) :
    ∃ p k, s.parents.lookup name = some p ∧ (n, p.child k) ∈ s.attempts := by
  rcases startedUnder_concat.mp hstart with hstart | ⟨-, hnumber⟩
  · exact h.listed name n hstart
  · exact absurd (hstarted.symm.trans hnumber) (by simp)

/-- Neither a start nor a cancellation changes any token. -/
theorem still (h : TokensFollow s₀ t s) {o : Obtainment Int}
    (hphase : ∀ n token, o.phase = .obtaining n token → s.obtainment.phase = .obtaining n token)
    (hstarted : e.started? = none) (hcancel : e.step ≠ .cancel)
    (hparent : ∀ name, e.step ≠ .cancelParent name) :
    TokensFollow s₀ (t ++ [e]) { s with obtainment := o } where
  addsParents := ⟨h.addsParents.le, h.addsParents.kept, h.addsParents.made, h.addsParents.apart,
    h.addsParents.bound⟩
  fired := h.fired
  lapsed name p hlookup := by
    rw [h.lapsed name p hlookup, lapsed_concat]
    simp only [hparent, false_and, exists_false, or_false]
  mentioned := h.mentioned_concat fun name hstep => absurd hstep (hparent name)
  under := h.under_concat
  listed := h.listed_concat hstarted
  bound := h.bound
  foreign := h.foreign
  apart := h.apart
  givenUp n token hattempt := by
    rw [h.givenUp n token hattempt, wasGivenUp_concat]
    simp only [hcancel, false_and, or_false]
  flight n token ho := h.flight n token (hphase n token ho)

/-- An attempt that is started has a token of its own, which nothing has cancelled but its parent. -/
theorem started (h : TokensFollow s₀ t s) {o : Obtainment Int} {n : Nat}
    (hp : s.parents.lookup name = some p) (hstep : e.step = .start name)
    (hstarted : e.started? = some n) (hnew : n ∉ starts t)
    (hphase : o.phase = .obtaining n (p.child s.nextToken)) :
    TokensFollow s₀ (t ++ [e]) { s with
      obtainment := o
      attempts := s.attempts ++ [(n, p.child s.nextToken)]
      nextToken := s.nextToken + 1 } := by
  have hcases : ∀ m token, (m, token) ∈ s.attempts ++ [(n, p.child s.nextToken)] →
      (m, token) ∈ s.attempts ∨ m = n ∧ token = p.child s.nextToken := by
    intro m token hmem
    rcases List.mem_append.mp hmem with hmem | hmem
    · exact .inl hmem
    · exact .inr (Prod.mk.inj (List.mem_singleton.mp hmem))
  have hother : ∀ m token, (m, token) ∈ s.attempts → m ≠ n := by
    rintro m token hattempt rfl
    obtain ⟨name, p, k, hstart, -, -⟩ := h.under m token hattempt
    exact hnew hstart.mem_starts
  exact {
    addsParents := ⟨Nat.le_succ_of_le h.addsParents.le, h.addsParents.kept, h.addsParents.made,
      h.addsParents.apart,
      fun name p hlookup k hk => Nat.lt_succ_of_lt (h.addsParents.bound name p hlookup k hk)⟩
    fired := fun k hk => Nat.lt_succ_of_lt (h.fired k hk)
    lapsed := by
      intro name p hlookup
      rw [h.lapsed name p hlookup, lapsed_concat]
      simp only [hstep, reduceCtorEq, false_and, exists_false, or_false]
    mentioned := h.mentioned_concat fun name hparent =>
      absurd (hstep.symm.trans hparent) (by simp)
    under := by
      intro m token hattempt
      rcases hcases m token hattempt with hold | ⟨rfl, rfl⟩
      · exact h.under_concat m token hold
      · exact ⟨name, p, _, startedUnder_concat.mpr (.inr ⟨hstep, hstarted⟩), hp, rfl⟩
    listed := by
      intro other m hstart
      rcases startedUnder_concat.mp hstart with hstart | ⟨hname, hm⟩
      · obtain ⟨p, k, hlookup, hattempt⟩ := h.listed other m hstart
        exact ⟨p, k, hlookup, List.mem_append_left _ hattempt⟩
      · obtain rfl : name = other := Step.start.inj (hstep.symm.trans hname)
        obtain rfl : n = m := Option.some.inj (hstarted.symm.trans hm)
        exact ⟨p, s.nextToken, hp, by simp⟩
    bound := by
      intro m token hattempt
      rcases hcases m token hattempt with hold | ⟨-, rfl⟩
      · exact Nat.lt_succ_of_lt (h.bound m token hold)
      · exact Nat.lt_succ_self _
    foreign := by
      intro m token hattempt other q hq hmem
      rcases hcases m token hattempt with hold | ⟨-, rfl⟩
      · exact h.foreign m token hold other q hq hmem
      · exact absurd (h.addsParents.bound other q hq _ hmem) (Nat.lt_irrefl _)
    apart := by
      intro m m' token token' hm hm'
      rcases hcases m token hm with hold | ⟨hmn, rfl⟩
      · rcases hcases m' token' hm' with hold' | ⟨rfl, rfl⟩
        · exact h.apart m m' token token' hold hold'
        · exact iff_of_false (Nat.ne_of_lt (h.bound m token hold)) (hother m token hold)
      · rcases hcases m' token' hm' with hold' | ⟨hmn', rfl⟩
        · rw [hmn]
          exact iff_of_false (Nat.ne_of_gt (h.bound m' token' hold')) (hother m' token' hold').symm
        · exact iff_of_true rfl (hmn.trans hmn'.symm)
    givenUp := by
      intro m token hattempt
      rw [wasGivenUp_concat]
      simp only [hstep, reduceCtorEq, false_and, or_false]
      rcases hcases m token hattempt with hold | ⟨rfl, rfl⟩
      · exact h.givenUp m token hold
      · refine iff_of_false (fun hfired => ?_) fun hgivenUp => hnew hgivenUp.mem_starts
        exact absurd (h.fired _ hfired) (Nat.lt_irrefl _)
    flight := by
      intro m token ho
      obtain ⟨rfl, rfl⟩ := ObtainmentPhase.obtaining.inj (hphase.symm.trans ho)
      exact List.mem_append_right _ (List.mem_singleton.mpr rfl) }

/-- To cancel a parent token is to cancel those that descend from it. -/
theorem cancelParent (h : TokensFollow s₀ t s) (hfresh : s₀.IsFresh)
    (hp : s.parents.lookup name = some p) (hstep : e.step = .cancelParent name) :
    TokensFollow s₀ (t ++ [e]) { s with fired := p.number :: s.fired } where
  addsParents := ⟨h.addsParents.le, h.addsParents.kept, h.addsParents.made, h.addsParents.apart,
    h.addsParents.bound⟩
  fired k hk := by
    rcases List.mem_cons.mp hk with rfl | hk
    · exact h.addsParents.bound name p hp _ List.mem_cons_self
    · exact h.fired k hk
  lapsed other q hq := by
    rw [Token.isCancelled_cons, h.lapsed other q hq, h.addsParents.mem_numbers_iff hfresh hp hq,
      lapsed_concat, or_comm, hstep]
    simp
  mentioned := by
    refine h.mentioned_concat fun other hparent => ?_
    obtain rfl : name = other := Step.cancelParent.inj (hstep.symm.trans hparent)
    exact ⟨p, hp⟩
  under := h.under_concat
  listed := h.listed_concat (by simp only [Entry.started?, hstep])
  bound := h.bound
  foreign := h.foreign
  apart := h.apart
  givenUp n token hattempt := by
    have hne : token.number ≠ p.number := fun heq =>
      h.foreign n token hattempt name p hp (heq ▸ List.mem_cons_self)
    rw [List.mem_cons, h.givenUp n token hattempt, wasGivenUp_concat]
    simp only [hne, false_or, hstep, reduceCtorEq, false_and, or_false]
  flight := h.flight

/-- To give everything up is to cancel the attempt in flight. -/
theorem cancel (h : TokensFollow s₀ t s) (hstep : e.step = .cancel)
    (hflight : ∀ n, InFlight t n ↔ s.obtainment.isCurrent n = true) :
    TokensFollow s₀ (t ++ [e]) { s with
      obtainment := s.obtainment.release
      fired := (s.obtainment.inFlight?.map (·.number)).toList ++ s.fired } := by
  have hfired : ∀ k, k ∈ (s.obtainment.inFlight?.map (·.number)).toList ++ s.fired ↔
      (∃ n token, s.obtainment.phase = .obtaining n token ∧ token.number = k) ∨ k ∈ s.fired := by
    intro k
    cases hphase : s.obtainment.phase <;>
      simp [Obtainment.inFlight?, hphase, eq_comm]
  exact {
    addsParents := ⟨h.addsParents.le, h.addsParents.kept, h.addsParents.made, h.addsParents.apart,
      h.addsParents.bound⟩
    fired := by
      intro k hk
      rcases (hfired k).mp hk with ⟨n, token, hphase, rfl⟩ | hold
      · exact h.bound n token (h.flight n token hphase)
      · exact h.fired k hold
    lapsed := by
      intro name p hlookup
      rw [lapsed_concat, ← h.lapsed name p hlookup, Token.isCancelled_iff_numbers,
        Token.isCancelled_iff_numbers]
      simp only [hstep, reduceCtorEq, false_and, exists_false, or_false]
      constructor
      · rintro ⟨k, hk, hmem⟩
        rcases (hfired k).mp hmem with ⟨n, token, hphase, rfl⟩ | hold
        · exact absurd hk (h.foreign n token (h.flight n token hphase) name p hlookup)
        · exact ⟨k, hk, hold⟩
      · rintro ⟨k, hk, hmem⟩
        exact ⟨k, hk, (hfired k).mpr (.inr hmem)⟩
    mentioned := h.mentioned_concat fun name hparent =>
      absurd (hstep.symm.trans hparent) (by simp)
    under := h.under_concat
    listed := h.listed_concat (by simp only [Entry.started?, hstep])
    bound := h.bound
    foreign := h.foreign
    apart := h.apart
    givenUp := by
      intro n token hattempt
      rw [hfired, h.givenUp n token hattempt, wasGivenUp_concat, or_comm, hflight, isCurrent_iff]
      refine or_congr_right ⟨?_, ?_⟩
      · rintro ⟨m, other, hphase, hnumber⟩
        obtain rfl := (h.apart m n other token (h.flight m other hphase) hattempt).mp hnumber
        exact ⟨hstep, other, hphase⟩
      · rintro ⟨-, other, hphase⟩
        exact ⟨n, other, hphase,
          (h.apart n n other token (h.flight n other hphase) hattempt).mpr rfl⟩
    flight := by
      intro n token hphase
      simp [Obtainment.release] at hphase }

end TokensFollow

end Drill.Obtaining

end CoreBroker
