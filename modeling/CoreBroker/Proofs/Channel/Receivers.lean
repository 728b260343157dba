import CoreBroker.Channel
set_option autoImplicit false

/-!
# Receivers of a channel

What one receiver does to a channel never shows to another: receiving and draining move one cursor.
Announcing makes every receiver ready, and a receiver stays ready until it looks itself.
-/

namespace CoreBroker.Channel

variable {α : Type}

/-- Every receiver has a number that was issued, and none is ahead of what was announced. -/
def Sound (c : Channel α) : Prop := ∀ e ∈ c.cursors, e.1 < c.issued ∧ e.2 ≤ c.sent

/-- The receiver `r` exists. -/
def Serves (c : Channel α) (r : Nat) : Prop := (c.cursors.lookup r).isSome

theorem sound_new (capacity : Nat) : (new capacity : Channel α).Sound := by
  intro e he
  exact absurd he List.not_mem_nil

/-! ## Looking -/

/-- `after` differs from `before` at most in what the receiver `r` has got. -/
structure Attends (r : Nat) (before after : Channel α) : Prop where
  window : after.window = before.window
  sent : after.sent = before.sent
  issued : after.issued = before.issued
  isOpen : after.isOpen = before.isOpen
  others : ∀ k, k ≠ r → after.cursors.lookup k = before.cursors.lookup k
  serves : ∀ k, after.Serves k ↔ before.Serves k
  sound : before.Sound → after.Sound

namespace Attends

theorem refl (r : Nat) (c : Channel α) : Attends r c c :=
  ⟨rfl, rfl, rfl, rfl, fun _ _ => rfl, fun _ => Iff.rfl, id⟩

theorem trans {r : Nat} {a b c : Channel α} (h₁ : Attends r a b) (h₂ : Attends r b c) :
    Attends r a c where
  window := h₂.window.trans h₁.window
  sent := h₂.sent.trans h₁.sent
  issued := h₂.issued.trans h₁.issued
  isOpen := h₂.isOpen.trans h₁.isOpen
  others k hk := (h₂.others k hk).trans (h₁.others k hk)
  serves k := (h₂.serves k).trans (h₁.serves k)
  sound hs := h₂.sound (h₁.sound hs)

/-- Whoever else listens finds just what it would have found before. -/
theorem isReady_eq {r k : Nat} {before after : Channel α} (h : Attends r before after)
    (hk : k ≠ r) : after.isReady k = before.isReady k := by
  unfold isReady cursor
  rw [h.others k hk, h.sent, h.isOpen]

end Attends

theorem lookup_map_set_ne (cursors : List (Nat × Nat)) {r k : Nat} (hk : k ≠ r) (position : Nat) :
    (cursors.map fun (j, p) => if j == r then (j, position) else (j, p)).lookup k =
      cursors.lookup k := by
  induction cursors with
  | nil => rfl
  | cons e rest ih =>
    obtain ⟨j, p⟩ := e
    by_cases hj : j = r
    · subst hj
      have hkj : (k == j) = false := by simpa using hk
      simpa only [List.map_cons, beq_self_eq_true, if_true, List.lookup_cons, hkj] using ih
    · have hj' : (j == r) = false := by simpa using hj
      simp only [List.map_cons, hj', Bool.false_eq_true, if_false, List.lookup_cons, ih]

/-- Moving a cursor to where values have been announced is a look of its receiver. -/
theorem setCursor_attends (c : Channel α) (r : Nat) {position : Nat} (hp : position ≤ c.sent) :
    Attends r c (c.setCursor r position) where
  window := rfl
  sent := rfl
  issued := rfl
  isOpen := rfl
  others k hk := lookup_map_set_ne c.cursors hk position
  serves k := by
    by_cases hkr : k = r
    · subst hkr
      simp only [Serves, setCursor, lookup_map_set, Option.isSome_map]
    · simp only [Serves, setCursor, lookup_map_set_ne c.cursors hkr position]
  sound hs := by
    intro e he
    simp only [setCursor, List.mem_map] at he
    obtain ⟨⟨k, p⟩, hmem, rfl⟩ := he
    have hold := hs (k, p) hmem
    dsimp only
    split
    · exact ⟨hold.1, hp⟩
    · exact hold

theorem poll_attends (c : Channel α) (r : Nat) (hr : c.cursor r < c.sent) :
    Attends r c (c.poll r).2 := by
  unfold poll
  split
  · exact setCursor_attends c r (Nat.sub_le _ _)
  · split
    · exact setCursor_attends c r hr
    · exact Attends.refl r c

theorem drain_attends (c : Channel α) (r : Nat) : Attends r c (c.drain r).2 := by
  fun_induction drain c r with
  | case1 c h ih => exact (poll_attends c r h.1).trans ih
  | case2 c _ => exact Attends.refl r c

theorem pollAll_attends (c : Channel α) (r : Nat) : Attends r c (c.pollAll r).2 := by
  fun_induction pollAll c r with
  | case1 c h rest after heq ih =>
    rw [heq] at ih
    exact (poll_attends c r h.1).trans ih
  | case2 c _ => exact Attends.refl r c

/-! ## Coming and going -/

theorem lookup_eq_none_of_sound {c : Channel α} (hs : c.Sound) : c.cursors.lookup c.issued = none := by
  rw [List.lookup_eq_none_iff]
  intro e he
  have hlt := (hs e he).1
  exact bne_iff_ne.mpr (Nat.ne_of_gt hlt)

theorem sound_subscribe {c : Channel α} (hs : c.Sound) : c.subscribe.2.Sound := by
  intro e he
  simp only [subscribe, List.mem_append, List.mem_singleton] at he ⊢
  rcases he with he | rfl
  · exact ⟨Nat.lt_succ_of_lt (hs e he).1, (hs e he).2⟩
  · exact ⟨Nat.lt_succ_self _, Nat.le_refl _⟩

theorem lookup_subscribe_of_serves {c : Channel α} {r : Nat} (hr : c.Serves r) :
    c.subscribe.2.cursors.lookup r = c.cursors.lookup r := by
  obtain ⟨p, hp⟩ := Option.isSome_iff_exists.mp hr
  simp only [subscribe, List.lookup_append, hp, Option.some_or]

theorem serves_subscribe {c : Channel α} (hs : c.Sound) : c.subscribe.2.Serves c.subscribe.1 := by
  simp [Serves, subscribe, List.lookup_append, lookup_eq_none_of_sound hs]

theorem serves_subscribe_of_serves {c : Channel α} {r : Nat} (hr : c.Serves r) :
    c.subscribe.2.Serves r := by
  unfold Serves
  rw [lookup_subscribe_of_serves hr]
  exact hr

theorem cursor_subscribe {c : Channel α} (hs : c.Sound) :
    c.subscribe.2.cursor c.subscribe.1 = c.subscribe.2.sent := by
  simp [cursor, subscribe, List.lookup_append, lookup_eq_none_of_sound hs]

theorem isReady_subscribe {c : Channel α} {r : Nat} (hr : c.Serves r) :
    c.subscribe.2.isReady r = c.isReady r := by
  simp only [isReady, cursor, lookup_subscribe_of_serves hr]
  rfl

theorem sound_unsubscribe {c : Channel α} (hs : c.Sound) (r : Nat) : (c.unsubscribe r).Sound := by
  intro e he
  exact hs e (List.mem_filter.mp he).1

theorem lookup_unsubscribe_ne {c : Channel α} {r k : Nat} (hk : k ≠ r) :
    (c.unsubscribe r).cursors.lookup k = c.cursors.lookup k := by
  unfold unsubscribe
  induction c.cursors with
  | nil => rfl
  | cons e rest ih =>
    obtain ⟨j, p⟩ := e
    by_cases hj : j = r
    · subst hj
      have hkj : (k == j) = false := by simpa using hk
      simpa [List.lookup_cons, hkj] using ih
    · have hkeep : (j != r) = true := by simpa using hj
      simp only [List.filter_cons, hkeep, if_true, List.lookup_cons, ih]

theorem serves_unsubscribe_ne {c : Channel α} {r k : Nat} (hk : k ≠ r) (hr : c.Serves k) :
    (c.unsubscribe r).Serves k := by
  unfold Serves
  rw [lookup_unsubscribe_ne hk]
  exact hr

theorem isReady_unsubscribe_ne {c : Channel α} {r k : Nat} (hk : k ≠ r) :
    (c.unsubscribe r).isReady k = c.isReady k := by
  simp only [isReady, cursor, lookup_unsubscribe_ne hk]
  rfl

/-! ## Announcing -/

theorem sound_announce {c : Channel α} (hs : c.Sound) (a : α) : (c.announce a).2.Sound := by
  unfold announce
  split
  · exact hs
  · intro e he
    exact ⟨(hs e he).1, Nat.le_succ_of_le (hs e he).2⟩

theorem issued_announce (c : Channel α) (a : α) : (c.announce a).2.issued = c.issued := by
  unfold announce
  split <;> rfl

theorem serves_announce {c : Channel α} {r : Nat} (hr : c.Serves r) (a : α) :
    (c.announce a).2.Serves r := by
  unfold announce
  split
  · exact hr
  · exact hr

theorem cursor_announce {c : Channel α} {r : Nat} (hr : c.Serves r) (a : α) :
    (c.announce a).2.cursor r = c.cursor r := by
  obtain ⟨p, hp⟩ := Option.isSome_iff_exists.mp hr
  unfold announce
  split
  · rfl
  · simp only [cursor, hp, Option.getD_some]

theorem isReady_announce {c : Channel α} {r : Nat} (hs : c.Sound) (hr : c.Serves r) (a : α) :
    (c.announce a).2.isReady r = true := by
  obtain ⟨p, hp⟩ := Option.isSome_iff_exists.mp hr
  have hmem : (r, p) ∈ c.cursors := by
    obtain ⟨before, after, hsplit, _⟩ := List.lookup_eq_some_iff.mp hp
    rw [hsplit]
    exact List.mem_append_right _ List.mem_cons_self
  have hnonempty : c.cursors.isEmpty = false := by
    cases hc : c.cursors with
    | nil => rw [hc] at hmem; exact absurd hmem List.not_mem_nil
    | cons e rest => rfl
  have hle : p ≤ c.sent := (hs (r, p) hmem).2
  have hlt : p < c.sent + 1 := by omega
  simp [isReady, announce, hnonempty, cursor, hp, hlt]

end CoreBroker.Channel
