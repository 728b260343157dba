set_option autoImplicit false

/-!
# Windows

A window keeps the newest values put into it, up to a limit, oldest first.  It is held as two lists
so that a value is added and the oldest one given up without walking through the others; every law
is stated on `toList`.
-/

namespace CoreBroker

/-- The newest values of a sequence; `front` holds older ones in order, `back` newer ones in
reverse. -/
structure Window (α : Type) where
  limit : Nat
  front : List α
  back : List α
  size : Nat
  size_eq : size = front.length + back.length
  deriving Repr

namespace Window

variable {α : Type}

/-- A window that has seen nothing. -/
def empty (limit : Nat) : Window α := ⟨limit, [], [], 0, rfl⟩

/-- The values kept, oldest first. -/
def toList (w : Window α) : List α := w.front ++ w.back.reverse

/-- The window without its oldest value. -/
def dropOldest (w : Window α) : Window α :=
  match h : w.front with
  | _ :: rest => ⟨w.limit, rest, w.back, w.size - 1, by simp [w.size_eq, h]⟩
  | [] => ⟨w.limit, w.back.reverse.tail, [], w.size - 1, by simp [w.size_eq, h]⟩

/-- The window with a value added, whatever its limit. -/
def add (w : Window α) (a : α) : Window α :=
  ⟨w.limit, w.front, a :: w.back, w.size + 1, by simp [w.size_eq]; omega⟩

/-- Puts a value into the window; a full window gives up its oldest one. -/
def push (w : Window α) (a : α) : Window α :=
  if w.limit ≤ w.size then w.dropOldest.add a else w.add a

/-! ## Laws -/

theorem length_toList (w : Window α) : w.toList.length = w.size := by
  simp [toList, w.size_eq]

theorem toList_dropOldest (w : Window α) : w.dropOldest.toList = w.toList.tail := by
  obtain ⟨limit, front, back, size, h⟩ := w
  cases front <;> simp [dropOldest, toList]

theorem toList_add (w : Window α) (a : α) : (w.add a).toList = w.toList ++ [a] := by
  simp [add, toList]

theorem toList_push (w : Window α) (a : α) :
    (w.push a).toList = (if w.limit ≤ w.size then w.toList.tail else w.toList) ++ [a] := by
  unfold push
  split <;> simp [toList_add, toList_dropOldest]

theorem limit_push (w : Window α) (a : α) : (w.push a).limit = w.limit := by
  unfold push
  split
  · simp only [add, dropOldest]; split <;> rfl
  · rfl

theorem size_push_le (w : Window α) (a : α) (hpos : 0 < w.limit) (h : w.size ≤ w.limit) :
    (w.push a).size ≤ w.limit := by
  rw [← length_toList, toList_push]
  split
  · have := length_toList w
    simp only [List.length_append, List.length_tail, List.length_singleton]
    omega
  · have := length_toList w
    simp only [List.length_append, List.length_singleton]
    omega

end Window

end CoreBroker
