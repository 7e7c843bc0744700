import Mathlib.Data.List.Basic

/-!
# Announcing every change of key

A stream of items is written with an announcement in front of each item whose key differs
from the key of the item just before it. When items of one key are contiguous, each key is
announced exactly once, ahead of all its items.
-/

/-- One block of the written stream. An announcement knows the item it introduces and the item
written before it. -/
inductive Announced (α : Type*)
  | announce (previous : Option α) (x : α)
  | item (x : α)

section Announcements

variable {α κ : Type*}

namespace Announced

/-- The item a block belongs to. -/
def of : Announced α → α
  | announce _ x => x
  | item x => x

/-- Whether a block is an announcement. -/
def isAnnouncement : Announced α → Bool
  | announce _ _ => true
  | item _ => false

end Announced

/-- Items of one key are contiguous: nothing with another key stands between two of them. -/
def Contiguous (key : α → κ) (l : List α) : Prop :=
  ∀ before x between y after, l = before ++ x :: (between ++ y :: after) → key x = key y →
    ∀ z ∈ between, key z = key x

/-- Contiguity is inherited by the rest of the list. -/
theorem Contiguous.tail {key : α → κ} {x : α} {l : List α} (h : Contiguous key (x :: l)) :
    Contiguous key l := by
  intro before y between z after hl
  exact h (x :: before) y between z after (by rw [hl]; rfl)

/-- Items with equal keys everywhere are contiguous. -/
theorem Contiguous.of_const {key : α → κ} {l : List α}
    (h : ∀ x ∈ l, ∀ y ∈ l, key x = key y) : Contiguous key l := by
  intro before x between y after hl _ z hz
  exact h z (by rw [hl]; simp [hz]) x (by rw [hl]; simp)

/-- Items of different keys are contiguous. -/
theorem Contiguous.of_nodup {key : α → κ} {l : List α} (h : (l.map key).Nodup) :
    Contiguous key l := by
  intro before x between y after hl hkey
  rw [hl, List.map_append, List.nodup_append] at h
  have htail := h.2.1
  rw [List.map_cons, List.nodup_cons] at htail
  exact absurd (List.mem_map.mpr ⟨y, by simp, hkey.symm⟩) htail.1

/-- If the head's key occurs again, it occurs right after the head. -/
theorem Contiguous.head_next {key : α → κ} {x y z : α} {l : List α}
    (h : Contiguous key (x :: y :: l)) (hz : z ∈ y :: l) (hkey : key z = key x) :
    key y = key x := by
  rcases List.mem_cons.mp hz with rfl | hz
  · exact hkey
  · obtain ⟨between, after, rfl⟩ := List.append_of_mem hz
    exact h [] x (y :: between) z after rfl hkey.symm y List.mem_cons_self

/-- Where the key changes in a contiguous list, the new key has not occurred before. -/
theorem Contiguous.notMem_of_change {key : α → κ} {before after : List α} {x y : α}
    (h : Contiguous key (before ++ x :: y :: after)) (hchange : key x ≠ key y) :
    key y ∉ (before ++ [x]).map key := by
  intro hmem
  obtain ⟨z, hz, hkey⟩ := List.mem_map.mp hmem
  rcases List.mem_append.mp hz with hz | hz
  · obtain ⟨front, between, rfl⟩ := List.append_of_mem hz
    have hbetween := h front z (between ++ [x]) y after (by simp) hkey x (by simp)
    exact hchange (hbetween.trans hkey)
  · rw [List.mem_singleton.mp hz] at hkey
    exact hchange hkey

variable [DecidableEq κ]

/-- Write the items, announcing each one whose key differs from its predecessor's. -/
def announceChanges (key : α → κ) : Option α → List α → List (Announced α)
  | _, [] => []
  | previous, x :: l =>
    (if previous.map key = some (key x) then [] else [.announce previous x]) ++
      .item x :: announceChanges key (some x) l

/-- A stream may be written in two parts: the second one remembers the last item of the first. -/
theorem announceChanges_append (key : α → κ) (previous : Option α) (l₁ l₂ : List α) :
    announceChanges key previous (l₁ ++ l₂) =
      announceChanges key previous l₁ ++ announceChanges key (l₁.getLast?.or previous) l₂ := by
  induction l₁ generalizing previous with
  | nil => rfl
  | cons x l₁ ih =>
    have hlast : (x :: l₁).getLast?.or previous = l₁.getLast?.or (some x) := by
      cases l₁ with
      | nil => rfl
      | cons y l₁ => simp [List.getLast?_cons]
    rw [List.cons_append, announceChanges, announceChanges, ih, hlast]
    simp

/-- Every block belongs to an item of the stream. -/
theorem of_mem_of_mem_announceChanges (key : α → κ) (previous : Option α) (l : List α)
    (b : Announced α) (hb : b ∈ announceChanges key previous l) : b.of ∈ l := by
  induction l generalizing previous with
  | nil => exact absurd hb List.not_mem_nil
  | cons x l ih =>
    rw [announceChanges, List.mem_append, List.mem_cons] at hb
    rcases hb with hb | rfl | hb
    · split at hb
      · exact absurd hb List.not_mem_nil
      · rw [List.mem_singleton.mp hb]
        exact List.mem_cons_self
    · exact List.mem_cons_self
    · exact List.mem_cons_of_mem _ (ih _ hb)

/-- Read blocks one after the other: each item with the one announced last before it. -/
def readBlocks : Option α → List (Announced α) → List (Option α × α)
  | _, [] => []
  | _, .announce _ x :: blocks => readBlocks (some x) blocks
  | last, .item x :: blocks => (last, x) :: readBlocks last blocks

/-- Whatever the order of the items, each one is read after an announcement of its own key, if what
was announced before the stream has the key of the item written before it. -/
theorem readBlocks_announceChanges (key : α → κ) (previous last : Option α) (l : List α)
    (hlast : last.map key = previous.map key) :
    (readBlocks last (announceChanges key previous l)).map (Prod.map (Option.map key) id) =
      l.map fun x => (some (key x), x) := by
  induction l generalizing previous last with
  | nil => rfl
  | cons x l ih =>
    rw [announceChanges]
    by_cases hsame : previous.map key = some (key x)
    · rw [if_pos hsame, List.nil_append, readBlocks, List.map_cons, List.map_cons,
        ih (some x) last (hlast.trans hsame), Prod.map_apply, hlast, hsame]
      rfl
    · rw [if_neg hsame, List.singleton_append, readBlocks, readBlocks, List.map_cons,
        List.map_cons, ih (some x) (some x) rfl]
      rfl

/-- Right after an item, a contiguous stream announces that item's key no more. -/
theorem no_announcement_after (key : α → κ) (x : α) (l : List α)
    (h : Contiguous key (x :: l)) :
    ∀ b ∈ announceChanges key (some x) l, b.isAnnouncement = true → key b.of ≠ key x := by
  induction l generalizing x with
  | nil => intro b hb; exact absurd hb List.not_mem_nil
  | cons y l ih =>
    intro b hb hannounce hkey
    have hnext : key y = key x :=
      h.head_next (of_mem_of_mem_announceChanges key _ _ b hb) hkey
    rw [announceChanges, if_pos (by rw [Option.map_some, hnext]), List.nil_append,
      List.mem_cons] at hb
    rcases hb with rfl | hb
    · cases hannounce
    · exact ih y h.tail b hb hannounce (hkey.trans hnext.symm)

/-- In a contiguous stream, each key is announced exactly once, ahead of all its items. -/
theorem announced_once (key : α → κ) (previous : Option α) (l : List α) (k : κ)
    (h : Contiguous key l) (hprevious : previous.map key ≠ some k) (hk : k ∈ l.map key) :
    ∃ before prior y after,
      announceChanges key previous l = before ++ .announce prior y :: after ∧ key y = k ∧
        (∀ b ∈ before, key b.of ≠ k) ∧
        (∀ b ∈ after, b.isAnnouncement = true → key b.of ≠ k) := by
  induction l generalizing previous with
  | nil => exact absurd hk List.not_mem_nil
  | cons x l ih =>
    by_cases hx : key x = k
    · subst hx
      refine ⟨[], previous, x, .item x :: announceChanges key (some x) l, ?_, rfl,
        fun b hb => absurd hb List.not_mem_nil, fun b hb hannounce => ?_⟩
      · rw [announceChanges, if_neg hprevious]
        rfl
      · rcases List.mem_cons.mp hb with rfl | hb
        · cases hannounce
        · exact no_announcement_after key x l h b hb hannounce
    · have hrest : k ∈ l.map key := by
        rw [List.map_cons] at hk
        exact (List.mem_cons.mp hk).resolve_left fun he => hx he.symm
      obtain ⟨before, prior, y, after, heq, hy, hbefore, hafter⟩ :=
        ih (some x) h.tail (fun he => hx (Option.some.inj he)) hrest
      refine ⟨(if previous.map key = some (key x) then [] else [.announce previous x]) ++
        .item x :: before, prior, y, after, ?_, hy, fun b hb => ?_, hafter⟩
      · rw [announceChanges, heq]
        simp
      · have hof : b.of = x ∨ b ∈ before := by
          rcases List.mem_append.mp hb with hb | hb
          · split at hb
            · exact absurd hb List.not_mem_nil
            · exact Or.inl (by rw [List.mem_singleton.mp hb]; rfl)
          · exact (List.mem_cons.mp hb).imp (fun he => by rw [he]; rfl) id
        rcases hof with rfl | hb
        · exact hx
        · exact hbefore b hb

/-- The blocks hold exactly one announcement with a name, and it is their first block with it. -/
structure AnnouncedOnce {ν : Type*} [DecidableEq ν] (name : α → ν) (n : ν)
    (blocks : List (Announced α)) : Prop where
  count : (blocks.countP fun b => b.isAnnouncement && decide (name b.of = n)) = 1
  first : (blocks.find? fun b => decide (name b.of = n)).map Announced.isAnnouncement = some true

/-- When items of one name are contiguous and agree in their key, every name is announced once. -/
theorem announcedOnce_of_agree {ν : Type*} [DecidableEq ν] {name : α → ν} {key : α → κ}
    {l : List α} (hgrouped : Contiguous name l) (hname : ∀ x y, key x = key y → name x = name y)
    (hagree : ∀ x ∈ l, ∀ y ∈ l, name x = name y → key x = key y) {n : ν} (hn : n ∈ l.map name) :
    AnnouncedOnce name n (announceChanges key none l) := by
  obtain ⟨x, hx, rfl⟩ := List.mem_map.mp hn
  have hcontiguous : Contiguous key l := by
    intro before y between y' after hl hkey z hz
    have hzy := hgrouped before y between y' after hl (hname y y' hkey) z hz
    exact hagree z (by rw [hl]; simp [hz]) y (by rw [hl]; simp) hzy
  obtain ⟨before, prior, y, after, heq, hy, hbefore, hafter⟩ :=
    announced_once key none l (key x) hcontiguous (by simp) (List.mem_map_of_mem hx)
  have hblocks : ∀ b ∈ announceChanges key none l, name b.of = name x → key b.of = key x :=
    fun b hb => hagree b.of (of_mem_of_mem_announceChanges key none l b hb) x hx
  rw [heq] at hblocks ⊢
  have hbefore' : ∀ b ∈ before, name b.of ≠ name x := fun b hb hb' =>
    hbefore b hb (hblocks b (by simp [hb]) hb')
  have hafter' : ∀ b ∈ after, b.isAnnouncement = true → name b.of ≠ name x :=
    fun b hb hannounce hb' => hafter b hb hannounce (hblocks b (by simp [hb]) hb')
  have hy' : name y = name x := hname y x hy
  constructor
  · have hnone : (before.countP fun b => b.isAnnouncement && decide (name b.of = name x)) = 0 :=
      List.countP_eq_zero.mpr fun b hb => by simp [hbefore' b hb]
    have hnone' : (after.countP fun b => b.isAnnouncement && decide (name b.of = name x)) = 0 :=
      List.countP_eq_zero.mpr fun b hb => by simpa using hafter' b hb
    rw [List.countP_append, List.countP_cons, hnone, hnone']
    simp [Announced.isAnnouncement, Announced.of, hy']
  · have hnone : (before.find? fun b => decide (name b.of = name x)) = none :=
      List.find?_eq_none.mpr fun b hb => by simp [hbefore' b hb]
    rw [List.find?_append, hnone, Option.none_or, List.find?_cons]
    simp [Announced.isAnnouncement, Announced.of, hy']

end Announcements
