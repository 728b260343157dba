import CoreBroker.Proofs.Channel.Receivers
set_option autoImplicit false

/-!
# What a channel sends

Whatever receivers do, the values a channel announces reach each of them in the order in which they
were announced.  A receiver that was there all the while, had got everything before and has not looked
since gets just the values announced since, as long as the window holds them.
-/

namespace CoreBroker

/-! ## Windows that values were put into -/

namespace Window

variable {α : Type}

/-- A window into which values were put keeps the newest of all. -/
theorem toList_foldl_push (values : List α) (w : Window α) (hpos : 0 < w.limit)
    (hle : w.size ≤ w.limit) : (values.foldl push w).toList =
      (w.toList ++ values).drop (w.size + values.length - w.limit) := by
  induction values generalizing w with
  | nil => simp [Nat.sub_eq_zero_of_le hle]
  | cons a values ih =>
    have hlimit := limit_push w a
    have hsize := size_push_le w a hpos hle
    have hlength : (w.push a).size = if w.limit ≤ w.size then w.size else w.size + 1 := by
      rw [← length_toList, toList_push]
      split <;> simp [length_toList]
      omega
    rw [List.foldl_cons, ih _ (hlimit ▸ hpos) (hlimit.symm ▸ hsize), hlimit, hlength, toList_push]
    split
    · -- The oldest value is given up at once, and is the first to be dropped.
      have hdrop : w.size + (a :: values).length - w.limit =
          1 + (w.size + values.length - w.limit) := by
        simp only [List.length_cons]
        omega
      rw [hdrop, ← List.drop_drop, List.append_assoc, List.singleton_append]
      cases hold : w.toList with
      | nil => have := length_toList w; simp [hold] at this; omega
      | cons x rest => rfl
    · have hdrop : w.size + 1 + values.length - w.limit =
          w.size + (a :: values).length - w.limit := by
        simp only [List.length_cons]
        omega
      rw [hdrop, List.append_assoc, List.singleton_append]

end Window

namespace Channel

variable {α : Type}

/-- The window is never fuller than it may be, nor holds more than was announced. -/
structure Fits (c : Channel α) : Prop where
  limit_pos : 0 < c.window.limit
  size_le : c.window.size ≤ c.window.limit
  size_le_sent : c.window.size ≤ c.sent

theorem fits_new (capacity : Nat) : (new capacity : Channel α).Fits where
  limit_pos := Nat.pos_of_ne_zero fun hzero => by
    have hpow := Nat.isPowerOfTwo_nextPowerOfTwo (max capacity 1)
    rw [show (new capacity : Channel α).window.limit = (max capacity 1).nextPowerOfTwo from rfl] at hzero
    rw [hzero] at hpow
    obtain ⟨k, hk⟩ := hpow
    exact absurd hk (Nat.ne_of_lt (Nat.two_pow_pos k))
  size_le := Nat.zero_le _
  size_le_sent := Nat.zero_le _

theorem Fits.announce {c : Channel α} (hc : c.Fits) (a : α) : (c.announce a).2.Fits := by
  unfold Channel.announce
  split
  · exact hc
  · refine ⟨?_, ?_, ?_⟩
    · exact (Window.limit_push c.window a).symm ▸ hc.limit_pos
    · exact (Window.limit_push c.window a).symm ▸ Window.size_push_le _ a hc.limit_pos hc.size_le
    · have hlength := Window.length_toList (c.window.push a)
      have hold := Window.length_toList c.window
      have hsent := hc.size_le_sent
      rw [Window.toList_push, List.length_append] at hlength
      split at hlength <;> simp at hlength ⊢ <;> omega

theorem Attends.fits {r : Nat} {before after : Channel α} (h : Attends r before after)
    (hbefore : before.Fits) : after.Fits where
  limit_pos := by rw [h.window]; exact hbefore.limit_pos
  size_le := by rw [h.window]; exact hbefore.size_le
  size_le_sent := by rw [h.window, h.sent]; exact hbefore.size_le_sent

/-! ## What a receiver gets -/

/-- A receiver that has not fallen behind gets the value at its cursor and moves on. -/
theorem poll_eq {c : Channel α} {r : Nat} (hcursor : c.oldest ≤ c.cursor r) {a : α}
    (ha : c.window.toList[c.cursor r - c.oldest]? = some a) :
    c.poll r = (.value a, c.setCursor r (c.cursor r + 1)) := by
  simp only [poll, Nat.not_lt.mpr hcursor, if_false, ha]

/-- A receiver that has not fallen behind gets what was announced from its cursor on, in order. -/
theorem pollAll_eq {c : Channel α} {r : Nat} (hfits : c.Fits) (hserves : c.Serves r)
    (hcursor : c.oldest ≤ c.cursor r) :
    (c.pollAll r).1 = (c.window.toList.drop (c.cursor r - c.oldest)).map .value := by
  fun_induction pollAll c r with
  | case1 c hnext rest after heq ih =>
    have hsome := hnext.2.resolve_left (Nat.not_lt.mpr hcursor)
    obtain ⟨a, ha⟩ := Option.isSome_iff_exists.mp hsome
    have hpoll := poll_eq hcursor ha
    have hattends := setCursor_attends c r (Nat.succ_le_of_lt hnext.1)
    have hcursor' : (c.setCursor r (c.cursor r + 1)).cursor r = c.cursor r + 1 := by
      rw [cursor_setCursor]
      exact if_pos hserves
    have holdest' : (c.setCursor r (c.cursor r + 1)).oldest = c.oldest := rfl
    obtain ⟨hlt, hat⟩ := List.getElem?_eq_some_iff.mp ha
    rw [hpoll] at heq ih ⊢
    have hrest := ih (hattends.fits hfits) ((hattends.serves r).mpr hserves)
      (by rw [hcursor', holdest']; omega)
    rw [heq, hcursor', holdest'] at hrest
    have hnextIndex : c.cursor r + 1 - c.oldest = c.cursor r - c.oldest + 1 := by omega
    rw [List.drop_eq_getElem_cons hlt, List.map_cons, hat, ← hnextIndex]
    exact congrArg (Received.value a :: ·) hrest
  | case2 c hnone =>
    -- Nothing is left from the cursor on: the receiver has got everything that was announced.
    have hlength := c.window.length_toList
    have hle := hfits.size_le_sent
    have hbeyond : c.window.toList.length ≤ c.cursor r - c.oldest := by
      refine Nat.le_of_not_lt fun hshort => hnone ⟨?_, .inr ?_⟩
      · unfold oldest at hcursor hshort
        omega
      · rw [List.getElem?_eq_getElem hshort]
        rfl
    rw [List.drop_eq_nil_of_le hbeyond]
    rfl

/-! ## Announcing while receivers come and go -/

/-- A channel announced some values, oldest first; in between receivers looked, came and left. -/
inductive Announces (c : Channel α) : List α → Channel α → Prop
  | refl : Announces c [] c
  | announced {values : List α} {c₁ : Channel α} (hannounces : Announces c values c₁) (a : α) :
      Announces c (values ++ [a]) (c₁.announce a).2
  | looked {values : List α} {c₁ c₂ : Channel α} {r : Nat} (hannounces : Announces c values c₁)
      (hattends : Attends r c₁ c₂) : Announces c values c₂
  | joined {values : List α} {c₁ : Channel α} (hannounces : Announces c values c₁) :
      Announces c values c₁.subscribe.2
  | left {values : List α} {c₁ : Channel α} (hannounces : Announces c values c₁) (r : Nat) :
      Announces c values (c₁.unsubscribe r)

namespace Announces

variable {c c₁ c₂ : Channel α} {values values' : List α} {r : Nat}

theorem trans (h₁ : Announces c values c₁) (h₂ : Announces c₁ values' c₂) :
    Announces c (values ++ values') c₂ := by
  induction h₂ with
  | refl => rw [List.append_nil]; exact h₁
  | announced _ a ih => rw [← List.append_assoc]; exact ih.announced a
  | looked _ hattends ih => exact ih.looked hattends
  | joined _ ih => exact ih.joined
  | left _ r ih => exact ih.left r

theorem fits (h : Announces c values c₁) (hc : c.Fits) : c₁.Fits := by
  induction h with
  | refl => exact hc
  | announced _ a ih => exact ih.announce a
  | looked _ hattends ih => exact hattends.fits ih
  | joined _ ih => exact ⟨ih.limit_pos, ih.size_le, ih.size_le_sent⟩
  | left _ _ ih => exact ⟨ih.limit_pos, ih.size_le, ih.size_le_sent⟩

theorem sound (h : Announces c values c₁) (hc : c.Sound) : c₁.Sound := by
  induction h with
  | refl => exact hc
  | announced _ a ih => exact sound_announce ih a
  | looked _ hattends ih => exact hattends.sound ih
  | joined _ ih => exact sound_subscribe ih
  | left _ r ih => exact sound_unsubscribe ih r

theorem limit_eq (h : Announces c values c₁) : c₁.window.limit = c.window.limit := by
  induction h with
  | refl => rfl
  | announced _ a ih =>
    unfold announce
    split
    · exact ih
    · exact (Window.limit_push _ a).trans ih
  | looked _ hattends ih => rw [hattends.window]; exact ih
  | joined _ ih => exact ih
  | left _ _ ih => exact ih

/-- Whatever is announced, and whoever looks, comes or leaves, the channel stays open or closed. -/
theorem isOpen_eq (h : Announces c values c₁) : c₁.isOpen = c.isOpen := by
  induction h with
  | refl => rfl
  | announced _ a ih =>
    unfold announce
    split
    · exact ih
    · exact ih
  | looked _ hattends ih => rw [hattends.isOpen]; exact ih
  | joined _ ih => exact ih
  | left _ _ ih => exact ih

theorem issued_le (h : Announces c values c₁) : c.issued ≤ c₁.issued := by
  induction h with
  | refl => exact Nat.le_refl _
  | announced _ a ih => rw [issued_announce]; exact ih
  | looked _ hattends ih => rw [hattends.issued]; exact ih
  | joined _ ih => exact Nat.le_succ_of_le ih
  | left _ _ ih => exact ih

/-- Whatever is announced while a receiver is there is numbered and put into the window. -/
theorem announced_to (h : Announces c values c₁) (hr : r < c.issued) (hserves : c₁.Serves r) :
    c.Serves r ∧ c₁.sent = c.sent + values.length ∧
      c₁.window = values.foldl Window.push c.window := by
  induction h with
  | refl => exact ⟨hserves, rfl, rfl⟩
  | @announced values c₁ hannounces a ih =>
    have hnonempty : c₁.cursors.isEmpty = false := by
      unfold announce at hserves
      cases hcursors : c₁.cursors with
      | nil => simp [Serves, hcursors] at hserves
      | cons e rest => rfl
    have hserves₁ : c₁.Serves r := by
      unfold announce at hserves
      rw [if_neg (by simp [hnonempty])] at hserves
      exact hserves
    obtain ⟨hbefore, hsent, hwindow⟩ := ih hserves₁
    refine ⟨hbefore, ?_, ?_⟩
    · simp only [announce, hnonempty, hsent, List.length_append, List.length_singleton]
      rfl
    · simp only [announce, hnonempty, hwindow, List.foldl_append]
      rfl
  | looked _ hattends ih =>
    rw [hattends.sent, hattends.window]
    exact ih ((hattends.serves r).mp hserves)
  | @joined values c₁ hannounces ih =>
    -- A receiver whose number was issued before is not the one that joins.
    refine ih ?_
    have hne : (r == c₁.issued) = false :=
      beq_false_of_ne (Nat.ne_of_lt (Nat.lt_of_lt_of_le hr hannounces.issued_le))
    unfold Serves at hserves ⊢
    simpa only [subscribe, List.lookup_append, List.lookup_cons, hne, List.lookup_nil,
      Option.or_none] using hserves
  | @left values c₁ hannounces k ih =>
    refine ih ?_
    by_cases hk : r = k
    · subst hk
      have hgone : (c₁.unsubscribe r).cursors.lookup r = none := by
        rw [List.lookup_eq_none_iff]
        intro e he
        have hne := bne_iff_ne.mp (List.mem_filter.mp he).2
        exact bne_iff_ne.mpr hne.symm
      rw [Serves, hgone] at hserves
      exact absurd hserves (by simp)
    · rw [Serves, lookup_unsubscribe_ne hk] at hserves
      exact hserves

/-- A receiver that had got everything before and has not looked since gets just what was announced
since, in order, as long as the window holds it all. -/
theorem received (h : Announces c values c₁) (hfits : c.Fits) (hr : r < c.issued)
    (hserves : c₁.Serves r) (hcursor : c₁.cursor r = c.sent)
    (hlimit : values.length ≤ c.window.limit) : (c₁.pollAll r).1 = values.map .value := by
  obtain ⟨-, hsent, hwindow⟩ := h.announced_to hr hserves
  have hfits₁ := h.fits hfits
  have hlist := Window.toList_foldl_push values c.window hfits.limit_pos hfits.size_le
  have hlength := Window.length_toList (values.foldl Window.push c.window)
  have hold := Window.length_toList c.window
  have hle := hfits.size_le_sent
  rw [hlist, List.length_drop, List.length_append, hold] at hlength
  have holdest : c₁.oldest = c.sent + values.length - (values.foldl Window.push c.window).size := by
    rw [oldest, hsent, hwindow]
  rw [pollAll_eq hfits₁ hserves (by rw [hcursor, holdest]; omega), hcursor, holdest, hwindow, hlist,
    List.drop_drop]
  congr 1
  -- Of the values kept before just those are passed over that the window has not given up.
  have hskip : c.window.size + values.length - c.window.limit +
      (c.sent - (c.sent + values.length - (values.foldl Window.push c.window).size)) =
        c.window.toList.length := by
    omega
  rw [hskip, List.drop_left]

end Announces

end Channel

end CoreBroker
