import Mathlib.Data.List.Basic

/-!
# A vector that recycles its slots

Clearing such a vector only resets its size: the slots keep what they last held, and a later
append swaps the new element with whatever is in the next slot, handing the old content back.
How storage grows is left open by `SlotPolicy`: a new slot may hold a default element or any
element an old spare slot held.
-/

/-- How a vector of recycled slots provides at least `want` slots past its end. -/
structure SlotPolicy (α : Type*) [Inhabited α] where
  grow : ℕ → List α → List α
  length_grow : ∀ want spare, want ≤ (grow want spare).length
  mem_grow : ∀ want spare, ∀ x ∈ grow want spare, x ∈ spare ∨ x = default

/-- Keep every spare slot and add default ones. -/
def SlotPolicy.padded (α : Type*) [Inhabited α] : SlotPolicy α where
  grow := fun want spare => spare ++ List.replicate (want - spare.length) default
  length_grow := fun want spare => by simp; omega
  mem_grow := fun want spare x hx => by
    rcases List.mem_append.mp hx with hold | hnew
    · exact Or.inl hold
    · exact Or.inr (List.eq_of_mem_replicate hnew)

/-- The elements in use, and the slots past the end with what they last held. -/
structure SlotVector (α : Type*) where
  live : List α
  spare : List α

namespace SlotVector

variable {α : Type*}

/-- A vector without storage. -/
def empty : SlotVector α := ⟨[], []⟩

/-- The number of slots. -/
def capacity (v : SlotVector α) : ℕ := v.live.length + v.spare.length

/-- Reset the size and keep every slot as it is. -/
def clear (v : SlotVector α) : SlotVector α := ⟨[], v.live ++ v.spare⟩

@[simp] theorem live_clear (v : SlotVector α) : v.clear.live = [] := rfl

/-- The next append finds a slot. -/
def HasRoom (v : SlotVector α) : Prop := v.live.length < v.capacity

/-- There is room exactly when a slot is spare. -/
theorem hasRoom_iff (v : SlotVector α) : v.HasRoom ↔ v.spare ≠ [] := by
  rw [HasRoom, capacity, ← List.length_pos_iff]
  omega

/-- Every slot, in use or spare, holds an element with property `p`. -/
def All (p : α → Prop) (v : SlotVector α) : Prop := ∀ x ∈ v.live ++ v.spare, p x

variable {p : α → Prop}

theorem all_empty : (empty : SlotVector α).All p := fun _ hx => absurd hx List.not_mem_nil

/-- Clearing keeps every slot. -/
theorem All.clear {v : SlotVector α} (h : v.All p) : v.clear.All p := h

variable [Inhabited α]

/-- Provide storage for at least `n` elements. -/
def reserve (policy : SlotPolicy α) (n : ℕ) (v : SlotVector α) : SlotVector α :=
  if n ≤ v.capacity then v else { v with spare := policy.grow (n - v.live.length) v.spare }

/-- Append `x` by swapping it with the next slot, and hand back what that slot held. -/
def swapDataBack (policy : SlotPolicy α) (x : α) (v : SlotVector α) : SlotVector α × α :=
  let slots := if v.spare.isEmpty then policy.grow 1 [] else v.spare
  (⟨v.live ++ [x], slots.tail⟩, slots.headD default)

/-- Reserving storage leaves the elements alone. -/
@[simp] theorem live_reserve (policy : SlotPolicy α) (n : ℕ) (v : SlotVector α) :
    (v.reserve policy n).live = v.live := by
  unfold reserve
  split <;> rfl

/-- Reserving provides the storage that was asked for. -/
theorem le_capacity_reserve (policy : SlotPolicy α) (n : ℕ) (v : SlotVector α) :
    n ≤ (v.reserve policy n).capacity := by
  unfold reserve
  split
  · assumption
  · have hgrown := policy.length_grow (n - v.live.length) v.spare
    simp only [capacity]
    omega

/-- An append adds its element at the end. -/
@[simp] theorem live_swapDataBack (policy : SlotPolicy α) (x : α) (v : SlotVector α) :
    (v.swapDataBack policy x).1.live = v.live ++ [x] := rfl

/-- Where there is room, an append asks for no storage. -/
theorem HasRoom.capacity_swapDataBack {v : SlotVector α} (h : v.HasRoom) (policy : SlotPolicy α)
    (x : α) : (v.swapDataBack policy x).1.capacity = v.capacity := by
  have hspare := v.hasRoom_iff.mp h
  have hlength := List.length_pos_iff.mpr hspare
  simp only [swapDataBack, capacity, List.isEmpty_eq_false_iff.mpr hspare, List.length_append,
    List.length_singleton, List.length_tail, Bool.false_eq_true, if_false]
  omega

/-- New slots hold old elements or the default one. -/
theorem All.reserve {v : SlotVector α} (h : v.All p) (hdefault : p default)
    (policy : SlotPolicy α) (n : ℕ) : (v.reserve policy n).All p := by
  unfold SlotVector.reserve
  split
  · exact h
  · intro x hx
    rcases List.mem_append.mp hx with hlive | hspare
    · exact h x (List.mem_append_left _ hlive)
    · rcases policy.mem_grow _ _ x hspare with hold | rfl
      · exact h x (List.mem_append_right _ hold)
      · exact hdefault

/-- The swap keeps the property of every slot, and the element handed back has it too. -/
theorem All.swapDataBack {v : SlotVector α} (h : v.All p) (hdefault : p default)
    (policy : SlotPolicy α) {x : α} (hx : p x) :
    (v.swapDataBack policy x).1.All p ∧ p (v.swapDataBack policy x).2 := by
  have hslots : ∀ y ∈ (if v.spare.isEmpty then policy.grow 1 [] else v.spare), p y := by
    intro y hy
    split at hy
    · rcases policy.mem_grow _ _ y hy with hnil | rfl
      · exact absurd hnil List.not_mem_nil
      · exact hdefault
    · exact h y (List.mem_append_right _ hy)
  refine ⟨fun y hy => ?_, ?_⟩
  · rcases List.mem_append.mp hy with hlive | hspare
    · rcases List.mem_append.mp hlive with hold | hnew
      · exact h y (List.mem_append_left _ hold)
      · exact List.mem_singleton.mp hnew ▸ hx
    · exact hslots y (List.mem_of_mem_tail hspare)
  · unfold SlotVector.swapDataBack
    generalize (if v.spare.isEmpty then policy.grow 1 [] else v.spare) = slots at hslots ⊢
    cases slots with
    | nil => exact hdefault
    | cons s rest => exact hslots s List.mem_cons_self

end SlotVector
