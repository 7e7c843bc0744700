import Mathlib.Algebra.GroupWithZero.Nat
import Mathlib.Data.List.Flatten
import Mathlib.Data.List.Perm.Basic
import MqttBridge.Library.FirstOccurrence

/-!
# Buckets opened on first use

Batches of elements arrive with keys; a bucket is opened the first time its key is used and
grows at its end. `collect` is the outcome as a function of all batches: one bucket per key in
order of first use, holding the batches of that key in order of arrival.
-/

section Buckets

variable {κ α : Type*} [DecidableEq κ]

/-- Open an empty bucket at the end unless the key has one. -/
def openBucket (buckets : List (κ × List α)) (k : κ) : List (κ × List α) :=
  if k ∈ buckets.map Prod.fst then buckets else buckets ++ [(k, [])]

/-- Append elements to the bucket of a key. -/
def pushBucket (buckets : List (κ × List α)) (k : κ) (xs : List α) : List (κ × List α) :=
  buckets.map fun bucket => if bucket.1 = k then (bucket.1, bucket.2 ++ xs) else bucket

/-- The elements of one key, in order of arrival. -/
def batchesOf (batches : List (κ × List α)) (k : κ) : List α :=
  (batches.filter fun batch => batch.1 = k).flatMap Prod.snd

/-- One bucket per key, in order of first use. -/
def collect (batches : List (κ × List α)) : List (κ × List α) :=
  (firstBy id (batches.map Prod.fst)).map fun k => (k, batchesOf batches k)

/-- A further batch adds its elements to its own key only. -/
theorem batchesOf_concat (batches : List (κ × List α)) (k : κ) (xs : List α) (k' : κ) :
    batchesOf (batches ++ [(k, xs)]) k' =
      if k' = k then batchesOf batches k ++ xs else batchesOf batches k' := by
  unfold batchesOf
  by_cases h : k' = k
  · subst h
    simp
  · have hne : k ≠ k' := fun he => h he.symm
    simp [h, hne]

/-- A key without batches has no elements. -/
theorem batchesOf_eq_nil (batches : List (κ × List α)) (k : κ) (h : k ∉ batches.map Prod.fst) :
    batchesOf batches k = [] := by
  have hfilter : (batches.filter fun batch => batch.1 = k) = [] := by
    rw [List.filter_eq_nil_iff]
    intro batch hbatch hk
    exact h (of_decide_eq_true hk ▸ List.mem_map_of_mem hbatch)
  rw [batchesOf, hfilter, List.flatMap_nil]

/-- The keys of the buckets, in order of first use. -/
theorem map_fst_collect (batches : List (κ × List α)) :
    (collect batches).map Prod.fst = firstBy id (batches.map Prod.fst) := by
  simp [collect, Function.comp_def]

/-- No two buckets share a key. -/
theorem nodup_map_fst_collect (batches : List (κ × List α)) :
    ((collect batches).map Prod.fst).Nodup := by
  rw [map_fst_collect]
  simpa using nodup_map_key_firstBy id (batches.map Prod.fst)

/-- Exactly the keys of the batches have buckets. -/
theorem mem_map_fst_collect (batches : List (κ × List α)) (k : κ) :
    k ∈ (collect batches).map Prod.fst ↔ k ∈ batches.map Prod.fst := by
  rw [map_fst_collect]
  simpa using mem_map_key_firstBy id (batches.map Prod.fst) k

/-- Handling one more batch is opening its bucket and appending to it. -/
theorem collect_concat (batches : List (κ × List α)) (k : κ) (xs : List α) :
    collect (batches ++ [(k, xs)]) = pushBucket (openBucket (collect batches) k) k xs := by
  have hpush : ∀ keys : List κ,
      keys.map (fun k' => (k', batchesOf (batches ++ [(k, xs)]) k')) =
        pushBucket (keys.map fun k' => (k', batchesOf batches k')) k xs := by
    intro keys
    rw [pushBucket, List.map_map]
    refine List.map_congr_left fun k' _ => ?_
    rw [batchesOf_concat]
    by_cases h : k' = k
    · subst h
      simp
    · simp [h]
  rw [collect, List.map_append, List.map_singleton]
  by_cases hk : k ∈ batches.map Prod.fst
  · have hopen : openBucket (collect batches) k = collect batches :=
      if_pos ((mem_map_fst_collect batches k).mpr hk)
    rw [firstBy_concat_of_mem id _ _ (by simpa using hk), hpush, hopen]
    rfl
  · have hopen : openBucket (collect batches) k = collect batches ++ [(k, [])] :=
      if_neg (mt (mem_map_fst_collect batches k).mp hk)
    rw [firstBy_concat_of_notMem id _ _ (by simpa using hk), hpush, List.map_append,
      List.map_singleton, batchesOf_eq_nil batches k hk, hopen]
    rfl

/-- Appending to the one bucket of a key adds exactly the new elements. -/
theorem flatMap_pushBucket_perm (buckets : List (κ × List α)) (k : κ) (xs : List α)
    (hnodup : (buckets.map Prod.fst).Nodup) (hk : k ∈ buckets.map Prod.fst) :
    ((pushBucket buckets k xs).flatMap Prod.snd).Perm (buckets.flatMap Prod.snd ++ xs) := by
  induction buckets with
  | nil => exact absurd hk List.not_mem_nil
  | cons bucket buckets ih =>
    rw [List.map_cons, List.nodup_cons] at hnodup
    obtain ⟨hfresh, hnodup⟩ := hnodup
    by_cases h : bucket.1 = k
    · have hrest : pushBucket buckets k xs = buckets := by
        refine (List.map_congr_left fun other hother => ?_).trans (List.map_id buckets)
        have hne : other.1 ≠ k := fun he =>
          hfresh (h.trans he.symm ▸ List.mem_map_of_mem hother)
        simp [hne]
      have hsplit : pushBucket (bucket :: buckets) k xs =
          (bucket.1, bucket.2 ++ xs) :: pushBucket buckets k xs := by
        simp [pushBucket, h]
      rw [hsplit, hrest, List.flatMap_cons, List.flatMap_cons, List.append_assoc,
        List.append_assoc]
      exact List.Perm.append_left _ List.perm_append_comm
    · have hk' : k ∈ buckets.map Prod.fst := by
        rw [List.map_cons, List.mem_cons] at hk
        exact hk.resolve_left fun he => h he.symm
      have hsplit : pushBucket (bucket :: buckets) k xs = bucket :: pushBucket buckets k xs := by
        simp [pushBucket, h]
      rw [hsplit, List.flatMap_cons, List.flatMap_cons, List.append_assoc]
      exact List.Perm.append_left _ (ih hnodup hk')

/-- The buckets hold exactly the elements of all batches. -/
theorem flatMap_collect_perm (batches : List (κ × List α)) :
    ((collect batches).flatMap Prod.snd).Perm (batches.flatMap Prod.snd) := by
  induction batches using List.reverseRecOn with
  | nil => exact List.Perm.refl _
  | append_singleton batches batch ih =>
    obtain ⟨k, xs⟩ := batch
    have hopen : ((openBucket (collect batches) k).flatMap Prod.snd) =
        (collect batches).flatMap Prod.snd := by
      unfold openBucket
      split <;> simp
    have hkeys : (((openBucket (collect batches) k).map Prod.fst).Nodup) ∧
        k ∈ (openBucket (collect batches) k).map Prod.fst := by
      unfold openBucket
      split
      · rename_i hk
        exact ⟨nodup_map_fst_collect batches, hk⟩
      · rename_i hk
        rw [List.map_append, List.nodup_append]
        refine ⟨⟨nodup_map_fst_collect batches, List.nodup_singleton _, ?_⟩, by simp⟩
        intro a ha b hb hab
        rw [List.map_singleton, List.mem_singleton] at hb
        rw [hab, hb] at ha
        exact hk ha
    rw [collect_concat, List.flatMap_append]
    have hpush := flatMap_pushBucket_perm (openBucket (collect batches) k) k xs hkeys.1 hkeys.2
    rw [hopen] at hpush
    simpa using hpush.trans (List.Perm.append_right xs ih)

/-- Looking up a bucket gives the elements of its key. -/
theorem lookup_collect (batches : List (κ × List α)) (k : κ) :
    ((collect batches).lookup k).getD [] = batchesOf batches k := by
  have hlookup : ∀ keys : List κ, (keys.map fun k' => (k', batchesOf batches k')).lookup k =
      if k ∈ keys then some (batchesOf batches k) else none := by
    intro keys
    induction keys with
    | nil => rfl
    | cons k' keys ih =>
      rw [List.map_cons, List.lookup_cons, ih]
      by_cases h : k = k'
      · subst h
        simp
      · have hne : (k == k') = false := by simpa using h
        simp [h, hne]
  rw [collect, hlookup]
  split
  · rfl
  · rename_i hk
    have hk' : k ∉ batches.map Prod.fst := fun hmem =>
      hk (by
        simpa using (mem_map_key_firstBy id (batches.map Prod.fst) k).mpr (by simpa using hmem))
    rw [batchesOf_eq_nil batches k hk', Option.getD_none]

/-- Changing every element of the batches changes the elements of the buckets. -/
theorem collect_map {β : Type*} (f : α → β) (batches : List (κ × List α)) :
    collect (batches.map fun batch => (batch.1, batch.2.map f)) =
      (collect batches).map fun bucket => (bucket.1, bucket.2.map f) := by
  have hbatches : ∀ k, batchesOf (batches.map fun batch => (batch.1, batch.2.map f)) k =
      (batchesOf batches k).map f := by
    intro k
    simp [batchesOf, List.filter_map, List.flatMap_map, List.map_flatMap, Function.comp_def]
  simp [collect, hbatches, Function.comp_def]

/-- The buckets of different keys hold no more elements than all buckets together. -/
theorem sum_length_lookup_le (buckets : List (κ × List α)) (keys : List κ) (hnodup : keys.Nodup) :
    (keys.map fun k => ((buckets.lookup k).getD []).length).sum ≤
      (buckets.flatMap Prod.snd).length := by
  induction buckets generalizing keys with
  | nil => simp
  | cons bucket buckets ih =>
    obtain ⟨k₀, xs⟩ := bucket
    rw [List.flatMap_cons, List.length_append]
    have hother : ∀ k, k ≠ k₀ → ((k₀, xs) :: buckets).lookup k = buckets.lookup k := by
      intro k hk
      have hne : (k == k₀) = false := by simpa using hk
      rw [List.lookup_cons, hne]
    by_cases hk₀ : k₀ ∈ keys
    · have hperm := List.perm_cons_erase hk₀
      have hrest : ∀ k ∈ keys.erase k₀, k ≠ k₀ := fun k hk =>
        ((hnodup.mem_erase_iff).mp hk).1
      have hsum := (hperm.map fun k =>
        ((((k₀, xs) :: buckets).lookup k).getD []).length).sum_nat
      rw [hsum, List.map_cons, List.sum_cons, List.lookup_cons_self, Option.getD_some]
      rw [List.map_congr_left fun k hk => by rw [hother k (hrest k hk)]]
      exact Nat.add_le_add_left (ih _ (hnodup.erase k₀)) _
    · rw [List.map_congr_left fun k hk => by
        rw [hother k fun he => hk₀ (he ▸ hk)]]
      exact Nat.le_trans (ih keys hnodup) (Nat.le_add_left _ _)

end Buckets
