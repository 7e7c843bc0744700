import Mathlib.Data.Finmap
import Mathlib.Data.List.Induction

/-!
# Maps filled by emplacing and updated in place

A finite map with the two operations of a flat map: `emplace` adds an entry unless the key has
one, and `update` changes the value of an existing entry through the position a search returns.
A map of lists that is only ever pushed to is determined by the log of what was pushed.
-/

/-- A finite map from keys to values. -/
abbrev FlatMap (κ ν : Type*) := Finmap fun _ : κ => ν

namespace FlatMap

variable {κ ν : Type*} [DecidableEq κ]

/-- Add an entry unless the key has one, and say whether it was added. -/
def emplace (m : FlatMap κ ν) (k : κ) (v : ν) : FlatMap κ ν × Bool :=
  if k ∈ m then (m, false) else (m.insert k v, true)

/-- Change the value of an entry in place; without an entry nothing changes. -/
def update (m : FlatMap κ ν) (k : κ) (f : ν → ν) : FlatMap κ ν :=
  match m.lookup k with
  | none => m
  | some v => m.insert k (f v)

/-- After emplacing, the key has its old value or else the new one; other keys are untouched. -/
theorem lookup_emplace (m : FlatMap κ ν) (k : κ) (v : ν) (k' : κ) :
    (m.emplace k v).1.lookup k' = if k' = k then some ((m.lookup k).getD v) else m.lookup k' := by
  unfold emplace
  by_cases hk : k ∈ m
  · obtain ⟨w, hw⟩ := Finmap.mem_iff.mp hk
    by_cases h : k' = k
    · subst h
      simp [hk, hw]
    · simp [h, hk]
  · by_cases h : k' = k
    · subst h
      simp [hk, Finmap.lookup_eq_none.mpr hk]
    · simp [h, hk]

/-- An update changes the value of its own key only. -/
theorem lookup_update (m : FlatMap κ ν) (k : κ) (f : ν → ν) (k' : κ) :
    (m.update k f).lookup k' = if k' = k then (m.lookup k).map f else m.lookup k' := by
  unfold update
  cases hm : m.lookup k with
  | none =>
    by_cases h : k' = k
    · subst h
      simp [hm]
    · simp [h]
  | some v =>
    by_cases h : k' = k
    · subst h
      simp
    · simp [h]

/-- The value a key has after emplacing a default and updating it. -/
theorem lookup_update_emplace (m : FlatMap κ ν) (k : κ) (v : ν) (f : ν → ν) (k' : κ) :
    ((m.emplace k v).1.update k f).lookup k' =
      if k' = k then some (f ((m.lookup k).getD v)) else m.lookup k' := by
  rw [lookup_update, lookup_emplace, if_pos rfl, lookup_emplace]
  by_cases h : k' = k <;> simp [h]

section Push

variable {α : Type*}

/-- Append an element to the list of a key, which is opened when it is first used. -/
def push (m : FlatMap κ (List α)) (k : κ) (x : α) : FlatMap κ (List α) :=
  (m.emplace k []).1.update k (· ++ [x])

/-- The map that a log of elements with their keys fills. -/
def ofLog (log : List (κ × α)) : FlatMap κ (List α) :=
  log.foldl (fun m entry => m.push entry.1 entry.2) ∅

/-- The elements of a log that have a key, in order. -/
def loggedUnder (log : List (κ × α)) (k : κ) : List α :=
  (log.filter fun entry => entry.1 = k).map Prod.snd

/-- One more log entry is one more push. -/
theorem ofLog_concat (log : List (κ × α)) (k : κ) (x : α) :
    ofLog (log ++ [(k, x)]) = (ofLog log).push k x := by
  rw [ofLog, List.foldl_append]
  rfl

/-- The list of a key holds its logged elements; a key without any has no list. -/
theorem lookup_ofLog (log : List (κ × α)) (k : κ) :
    (ofLog log).lookup k =
      if (loggedUnder log k).isEmpty then none else some (loggedUnder log k) := by
  induction log using List.reverseRecOn generalizing k with
  | nil => simp [ofLog, loggedUnder]
  | append_singleton log entry ih =>
    obtain ⟨k', x⟩ := entry
    have hlogged : loggedUnder (log ++ [(k', x)]) k =
        loggedUnder log k ++ if k' = k then [x] else [] := by
      by_cases h : k' = k <;> simp [loggedUnder, List.filter_append, h]
    have hold : ((ofLog log).lookup k').getD [] = loggedUnder log k' := by
      rw [ih k']
      by_cases hempty : loggedUnder log k' = [] <;> simp [hempty]
    rw [ofLog_concat, push, lookup_update_emplace, hold, hlogged]
    by_cases h : k = k'
    · subst h
      simp
    · have hne : ¬k' = k := fun he => h he.symm
      rw [if_neg h, if_neg hne, List.append_nil]
      exact ih k

/-- A key without logged elements has no list, which reads as an empty one. -/
theorem getD_lookup_ofLog (log : List (κ × α)) (k : κ) :
    ((ofLog log).lookup k).getD [] = loggedUnder log k := by
  rw [lookup_ofLog]
  by_cases hempty : loggedUnder log k = [] <;> simp [hempty]

/-- Changing every logged element changes the elements of the lists. -/
theorem lookup_ofLog_map {β : Type*} (f : α → β) (log : List (κ × α)) (k : κ) :
    (ofLog (log.map (Prod.map id f))).lookup k = ((ofLog log).lookup k).map (List.map f) := by
  have hlogged : loggedUnder (log.map (Prod.map id f)) k = (loggedUnder log k).map f := by
    simp [loggedUnder, List.filter_map, Function.comp_def]
  rw [lookup_ofLog, lookup_ofLog, hlogged, List.isEmpty_map]
  split <;> rfl

end Push

end FlatMap
