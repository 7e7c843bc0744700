import Mathlib.Data.List.InsertIdx
import Mathlib.Data.List.Pairwise
import Mathlib.Order.Lattice

/-!
# Strictly increasing vectors and flat sets

A vector kept strictly increasing is a set with a fixed iteration order. New elements go in
at the lower bound, the number of leading elements below the new one; that keeps the vector
strictly increasing and adds exactly one element. A flat set is such a vector together with
the proof of its order.
-/

/-- The position of the first element that is not below `x`. -/
def lowerBound {α : Type*} [LinearOrder α] : List α → α → ℕ
  | [], _ => 0
  | y :: v, x => if y < x then lowerBound v x + 1 else 0

section LowerBound

variable {α : Type*} [LinearOrder α]

/-- The lower bound is a position of the vector or its end. -/
theorem lowerBound_le (v : List α) (x : α) : lowerBound v x ≤ v.length := by
  induction v with
  | nil => exact Nat.le_refl _
  | cons y v ih =>
    rw [lowerBound]
    split
    · exact Nat.succ_le_succ ih
    · exact Nat.zero_le _

/-- Insertion at the lower bound adds the element and nothing else. -/
theorem mem_insertIdx_lowerBound (v : List α) (x y : α) :
    y ∈ v.insertIdx (lowerBound v x) x ↔ y = x ∨ y ∈ v :=
  List.mem_insertIdx (lowerBound_le v x)

/-- Inserting an absent element at its lower bound keeps the vector strictly increasing. -/
theorem pairwise_insertIdx_lowerBound (v : List α) (x : α) (hsorted : v.Pairwise (· < ·))
    (habsent : x ∉ v) : (v.insertIdx (lowerBound v x) x).Pairwise (· < ·) := by
  induction v with
  | nil => simp [lowerBound]
  | cons y v ih =>
    obtain ⟨hy, hv⟩ := List.pairwise_cons.mp hsorted
    have hne : x ≠ y := fun h => habsent (h ▸ List.mem_cons_self)
    have hrest : x ∉ v := fun h => habsent (List.mem_cons_of_mem _ h)
    rw [lowerBound]
    split
    · rename_i hlt
      rw [List.insertIdx_succ_cons, List.pairwise_cons]
      refine ⟨fun z hz => ?_, ih hv hrest⟩
      rcases (mem_insertIdx_lowerBound v x z).mp hz with rfl | hz
      · exact hlt
      · exact hy z hz
    · rename_i hge
      have hxy : x < y := lt_of_le_of_ne (not_lt.mp hge) hne
      rw [List.insertIdx_zero, List.pairwise_cons]
      refine ⟨fun z hz => ?_, hsorted⟩
      rcases List.mem_cons.mp hz with rfl | hz
      · exact hxy
      · exact lt_trans hxy (hy z hz)

/-- What a search in a strictly increasing vector promises: the lower bound of the element,
and whether the element is there. Nothing is promised about other vectors. -/
def LowerBoundSearch (search : List α → α → ℕ × Bool) : Prop :=
  ∀ (v : List α) (x : α), v.Pairwise (· < ·) → search v x = (lowerBound v x, decide (x ∈ v))

end LowerBound

/-- A set kept as a strictly increasing vector. -/
structure FlatSet (α : Type*) [LinearOrder α] where
  elems : List α
  sorted : elems.Pairwise (· < ·)

namespace FlatSet

variable {α : Type*} [LinearOrder α]

instance : EmptyCollection (FlatSet α) := ⟨⟨[], List.Pairwise.nil⟩⟩

instance : Membership α (FlatSet α) := ⟨fun s x => x ∈ s.elems⟩

instance (x : α) (s : FlatSet α) : Decidable (x ∈ s) := inferInstanceAs (Decidable (x ∈ s.elems))

/-- The empty flat set has no members. -/
@[simp] theorem not_mem_empty (x : α) : x ∉ (∅ : FlatSet α) := List.not_mem_nil

/-- Put an element in unless it is there, and say whether it was put in. -/
def emplace (s : FlatSet α) (x : α) : FlatSet α × Bool :=
  if h : x ∈ s then (s, false)
  else (⟨s.elems.insertIdx (lowerBound s.elems x) x,
    pairwise_insertIdx_lowerBound s.elems x s.sorted h⟩, true)

/-- Emplacing reports an insertion exactly for absent elements. -/
@[simp] theorem emplace_inserted (s : FlatSet α) (x : α) : (s.emplace x).2 = decide (x ∉ s) := by
  unfold emplace
  split <;> simp [*]

/-- Emplacing adds the element and nothing else. -/
@[simp] theorem mem_emplace (s : FlatSet α) (x y : α) : y ∈ (s.emplace x).1 ↔ y = x ∨ y ∈ s := by
  unfold emplace
  split
  · rename_i h
    exact ⟨Or.inr, fun hy => hy.elim (fun he => he ▸ h) id⟩
  · exact mem_insertIdx_lowerBound s.elems x y

end FlatSet
