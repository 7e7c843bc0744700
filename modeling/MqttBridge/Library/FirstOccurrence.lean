import Mathlib.Data.List.Induction
import Mathlib.Data.List.Nodup

/-!
# First occurrences by key

A loop that remembers the keys it has handled and skips an element whose key it has seen
handles exactly the first element of each key, in order. `firstBy` is that selection as a
function of the whole list.

A partial function selects what it is defined on. Two such selections, one of them a part of the
other, are the same list only if they select the same elements.
-/

section FirstOccurrence

variable {α κ : Type*} [DecidableEq κ]

/-- Keep an element unless its key is already among the kept ones. -/
def keepFirst (key : α → κ) (kept : List α) (x : α) : List α :=
  if key x ∈ kept.map key then kept else kept ++ [x]

/-- The first element of every key, in list order. -/
def firstBy (key : α → κ) (l : List α) : List α := l.foldl (keepFirst key) []

@[simp] theorem firstBy_nil (key : α → κ) : firstBy key [] = [] := rfl

/-- One more element changes the selection by one loop step. -/
theorem firstBy_concat (key : α → κ) (l : List α) (x : α) :
    firstBy key (l ++ [x]) = keepFirst key (firstBy key l) x := by
  rw [firstBy, List.foldl_append]
  rfl

/-- The selection has the keys of the whole list. -/
theorem mem_map_key_firstBy (key : α → κ) (l : List α) (k : κ) :
    k ∈ (firstBy key l).map key ↔ k ∈ l.map key := by
  induction l using List.reverseRecOn with
  | nil => rfl
  | append_singleton l x ih =>
    rw [firstBy_concat, keepFirst, List.map_append, List.mem_append, ← ih]
    split
    · rename_i hx
      refine ⟨Or.inl, fun h => h.elim id fun hk => ?_⟩
      rwa [List.mem_singleton.mp hk]
    · rw [List.map_append, List.mem_append]

/-- An element whose key is already in the list is skipped. -/
theorem firstBy_concat_of_mem (key : α → κ) (l : List α) (x : α) (h : key x ∈ l.map key) :
    firstBy key (l ++ [x]) = firstBy key l := by
  rw [firstBy_concat, keepFirst, if_pos ((mem_map_key_firstBy key l _).mpr h)]

/-- An element with a new key is kept. -/
theorem firstBy_concat_of_notMem (key : α → κ) (l : List α) (x : α) (h : key x ∉ l.map key) :
    firstBy key (l ++ [x]) = firstBy key l ++ [x] := by
  rw [firstBy_concat, keepFirst, if_neg (mt (mem_map_key_firstBy key l _).mp h)]

/-- Every kept element is an element of the list. -/
theorem mem_of_mem_firstBy (key : α → κ) (l : List α) (x : α) (h : x ∈ firstBy key l) : x ∈ l := by
  induction l using List.reverseRecOn with
  | nil => exact h
  | append_singleton l y ih =>
    rw [firstBy_concat, keepFirst] at h
    rw [List.mem_append]
    split at h
    · exact Or.inl (ih h)
    · exact (List.mem_append.mp h).imp ih id

/-- No key is kept twice. -/
theorem nodup_map_key_firstBy (key : α → κ) (l : List α) : ((firstBy key l).map key).Nodup := by
  induction l using List.reverseRecOn with
  | nil => exact List.nodup_nil
  | append_singleton l x ih =>
    rw [firstBy_concat, keepFirst]
    split
    · exact ih
    · rename_i hx
      rw [List.map_append, List.nodup_append]
      refine ⟨ih, List.nodup_singleton _, fun a ha b hb hab => hx ?_⟩
      rwa [← List.mem_singleton.mp hb, ← hab]

/-- The kept elements are those a search for their key finds first. -/
theorem mem_firstBy_iff (key : α → κ) (l : List α) (x : α) :
    x ∈ firstBy key l ↔ (l.find? fun y => key y = key x) = some x := by
  induction l using List.reverseRecOn with
  | nil => simp
  | append_singleton l y ih =>
    rw [List.find?_append]
    by_cases hy : key y ∈ l.map key
    · rw [firstBy_concat_of_mem key l y hy, ih]
      cases hfind : l.find? fun y => key y = key x with
      | some z => simp
      | none =>
        have hne : key y ≠ key x := by
          obtain ⟨z, hz, hkey⟩ := List.mem_map.mp hy
          have hz := List.find?_eq_none.mp hfind z hz
          simpa [hkey] using hz
        simp [hne]
    · rw [firstBy_concat_of_notMem key l y hy, List.mem_append, ih, List.mem_singleton]
      cases hfind : l.find? fun y => key y = key x with
      | some z =>
        have hkey : key z = key x := by simpa using List.find?_some hfind
        have hne : x ≠ y := by
          rintro rfl
          exact hy (hkey ▸ List.mem_map_of_mem (List.mem_of_find?_eq_some hfind))
        simp [hne]
      | none =>
        by_cases hxy : x = y
        · simp [hxy]
        · have hyx : ¬y = x := fun he => hxy he.symm
          simp [hxy, hyx]

/-- Of the kept elements, the one with a key is the one a search for the key finds first. -/
theorem filter_firstBy (key : α → κ) (l : List α) (k : κ) :
    ((firstBy key l).filter fun x => key x = k) = (l.find? fun x => key x = k).toList := by
  induction l using List.reverseRecOn with
  | nil => rfl
  | append_singleton l x ih =>
    rw [List.find?_append]
    by_cases hx : key x ∈ l.map key
    · rw [firstBy_concat_of_mem key l x hx, ih]
      cases hfind : l.find? fun x => key x = k with
      | some y => rfl
      | none =>
        have hne : key x ≠ k := by
          intro he
          obtain ⟨y, hy, hkey⟩ := List.mem_map.mp hx
          exact absurd (hkey.trans he) (by simpa using List.find?_eq_none.mp hfind y hy)
        simp [hne]
    · rw [firstBy_concat_of_notMem key l x hx, List.filter_append, ih]
      cases hfind : l.find? fun x => key x = k with
      | some y =>
        have hkey : key y = k := by simpa using List.find?_some hfind
        have hne : key x ≠ k := fun he =>
          hx (List.mem_map.mpr ⟨y, List.mem_of_find?_eq_some hfind, hkey.trans he.symm⟩)
        simp [hne]
      | none => by_cases he : key x = k <;> simp [he]

/-- Elements may be changed before the selection if their keys stay the same. -/
theorem firstBy_map (key : α → κ) (f : α → α) (hf : ∀ x, key (f x) = key x) (l : List α) :
    firstBy key (l.map f) = (firstBy key l).map f := by
  have hkeys : ∀ kept : List α, (kept.map f).map key = kept.map key := by
    intro kept
    rw [List.map_map]
    exact List.map_congr_left fun x _ => hf x
  induction l using List.reverseRecOn with
  | nil => rfl
  | append_singleton l x ih =>
    rw [List.map_append, List.map_singleton, firstBy_concat, firstBy_concat, ih, keepFirst,
      keepFirst, hkeys, hf]
    split
    · rfl
    · rw [List.map_append, List.map_singleton]

/-- Sorting the elements of a list by distinct keys rearranges those with one of the keys. -/
theorem flatMap_filter_perm (key : α → κ) (l : List α) (keys : List κ) (hnodup : keys.Nodup) :
    (keys.flatMap fun k => l.filter fun x => key x = k).Perm
      (l.filter fun x => key x ∈ keys) := by
  induction keys with
  | nil => simp
  | cons k keys ih =>
    obtain ⟨hfresh, hnodup⟩ := List.nodup_cons.mp hnodup
    have hsplit := List.filter_append_perm (fun x => decide (key x = k))
      (l.filter fun x => key x ∈ k :: keys)
    have hhead : (l.filter fun x => key x ∈ k :: keys).filter (fun x => key x = k) =
        l.filter fun x => key x = k := by
      rw [List.filter_filter]
      refine List.filter_congr fun x _ => ?_
      by_cases h : key x = k <;> simp [h]
    have htail : (l.filter fun x => key x ∈ k :: keys).filter (fun x => !decide (key x = k)) =
        l.filter fun x => key x ∈ keys := by
      rw [List.filter_filter]
      refine List.filter_congr fun x _ => ?_
      by_cases h : key x = k
      · simp [h, hfresh]
      · simp [h]
    rw [hhead, htail] at hsplit
    rw [List.flatMap_cons]
    exact (List.Perm.append_left _ (ih hnodup)).trans hsplit

end FirstOccurrence

section Selections

variable {α β : Type*} {f g : α → Option β}

/-- The first element selected is what is made of the first one that is selected from. -/
theorem findSome?_eq_bind_find? (l : List α) :
    l.findSome? f = (l.find? fun x => (f x).isSome).bind f := by
  induction l with
  | nil => rfl
  | cons x l ih =>
    rw [List.findSome?_cons, List.find?_cons]
    cases hf : f x with
    | some y => simp [hf]
    | none => simpa using ih

/-- A search finds the same element in any order of a list if at most one can be found. -/
theorem find?_eq_of_perm {l l' : List α} {p : α → Bool} (hperm : l.Perm l')
    (hunique : ∀ x ∈ l, ∀ y ∈ l, p x = true → p y = true → x = y) : l.find? p = l'.find? p := by
  cases hfind : l.find? p with
  | none =>
    refine (List.find?_eq_none.mpr fun y hy => ?_).symm
    exact List.find?_eq_none.mp hfind y (hperm.mem_iff.mpr hy)
  | some x =>
    have hx := List.mem_of_find?_eq_some hfind
    have hsome : (l'.find? p).isSome = true :=
      List.find?_isSome.mpr ⟨x, hperm.mem_iff.mp hx, List.find?_some hfind⟩
    obtain ⟨y, hy⟩ := Option.isSome_iff_exists.mp hsome
    have hmem := hperm.mem_iff.mpr (List.mem_of_find?_eq_some hy)
    rw [hy, hunique x hx y hmem (List.find?_some hfind) (List.find?_some hy)]

/-- A part of a selection is not longer. -/
theorem length_filterMap_le_of_le (l : List α) (h : ∀ x ∈ l, ∀ y, f x = some y → g x = some y) :
    (l.filterMap f).length ≤ (l.filterMap g).length := by
  rw [List.length_filterMap_eq_countP, List.length_filterMap_eq_countP]
  refine List.countP_mono_left fun x hx hsome => ?_
  obtain ⟨y, hy⟩ := Option.isSome_iff_exists.mp hsome
  rw [h x hx y hy]
  rfl

/-- A selection that is defined on every element keeps each of them. -/
theorem forall₂_filterMap (l : List α) (h : ∀ x ∈ l, (f x).isSome = true) :
    List.Forall₂ (fun x y => f x = some y) l (l.filterMap f) := by
  induction l with
  | nil => exact List.Forall₂.nil
  | cons x l ih =>
    obtain ⟨y, hy⟩ := Option.isSome_iff_exists.mp (h x List.mem_cons_self)
    rw [List.filterMap_cons_some hy]
    exact .cons hy (ih fun z hz => h z (List.mem_cons_of_mem x hz))

/-- If a part of a selection is the same list, it selects the same elements. -/
theorem filterMap_eq_iff_of_le (l : List α) (h : ∀ x ∈ l, ∀ y, f x = some y → g x = some y) :
    l.filterMap f = l.filterMap g ↔ ∀ x ∈ l, f x = g x := by
  refine ⟨fun hsame => ?_, List.filterMap_congr⟩
  induction l with
  | nil => exact fun x hx => absurd hx List.not_mem_nil
  | cons x l ih =>
    have hrest : ∀ z ∈ l, ∀ y, f z = some y → g z = some y := fun z hz =>
      h z (List.mem_cons_of_mem x hz)
    cases hf : f x with
    | some y =>
      have hg := h x List.mem_cons_self y hf
      rw [List.filterMap_cons_some hf, List.filterMap_cons_some hg] at hsame
      intro z hz
      rcases List.mem_cons.mp hz with rfl | hz
      · rw [hf, hg]
      · exact ih hrest (List.cons.inj hsame).2 z hz
    | none =>
      cases hg : g x with
      | some y =>
        -- The larger selection has one element more, so the lists differ in length.
        rw [List.filterMap_cons_none hf, List.filterMap_cons_some hg] at hsame
        have hlength := length_filterMap_le_of_le l hrest
        rw [hsame, List.length_cons] at hlength
        omega
      | none =>
        rw [List.filterMap_cons_none hf, List.filterMap_cons_none hg] at hsame
        intro z hz
        rcases List.mem_cons.mp hz with rfl | hz
        · rw [hf, hg]
        · exact ih hrest hsame z hz

/-- It is enough that what the one selection shares with the other list is a part of it. -/
theorem filterMap_eq_iff_of_mem (l : List α)
    (h : ∀ x ∈ l, ∀ y ∈ l.filterMap g, f x = some y → g x = some y) :
    l.filterMap f = l.filterMap g ↔ ∀ x ∈ l, f x = g x := by
  refine ⟨fun hsame => (filterMap_eq_iff_of_le l fun x hx y hf => ?_).mp hsame,
    List.filterMap_congr⟩
  exact h x hx y (hsame ▸ List.mem_filterMap.mpr ⟨x, hx, hf⟩) hf

end Selections
