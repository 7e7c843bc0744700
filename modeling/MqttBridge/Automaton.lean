import Mathlib.Data.List.Dedup
import MqttBridge.Client

/-!
# The topics automaton

The automaton is built outside this repository from the `add` calls of the topics section. What
is known of it is what `find` returns. Its weakest useful property is that it invents nothing;
the full one is that it holds one of the lists added under each filter and finds those of the
matching filters. Which list is kept for a filter that is added twice is left open.
-/

namespace MqttBridge

namespace Topics

/-- An automaton finds only handler lists that were added under a filter matching the topic. -/
def Sound (topics : Topics) (filterMatches : String → String → Bool)
    (added : List (String × MqttHandlerList)) : Prop :=
  ∀ topic, ∀ handlers ∈ topics.find topic, ∃ filter,
    (filter, handlers) ∈ added ∧ filterMatches filter topic = true

/-- The automaton holds `kept filter` for each added filter, one of the lists added under it, and
finds the lists of the filters matching a topic, each filter once and in any order. -/
structure Keeps (topics : Topics) (filterMatches : String → String → Bool)
    (added : List (String × MqttHandlerList)) (kept : String → MqttHandlerList) : Prop where
  kept_mem : ∀ filter ∈ added.map Prod.fst, (filter, kept filter) ∈ added
  find_eq : ∀ topic, ∃ filters : List String, filters.Nodup ∧
    (∀ filter, filter ∈ filters ↔
      filter ∈ added.map Prod.fst ∧ filterMatches filter topic = true) ∧
    topics.find topic = filters.map kept

variable {topics : Topics} {filterMatches : String → String → Bool}
  {added : List (String × MqttHandlerList)} {kept : String → MqttHandlerList}

/-- The lists found for a topic are those kept for the matching filters. -/
theorem Keeps.mem_find (h : topics.Keeps filterMatches added kept) (topic : String)
    (handlers : MqttHandlerList) :
    handlers ∈ topics.find topic ↔ ∃ filter ∈ added.map Prod.fst,
      filterMatches filter topic = true ∧ kept filter = handlers := by
  obtain ⟨filters, _, hfilters, hfind⟩ := h.find_eq topic
  rw [hfind, List.mem_map]
  simp only [hfilters, and_assoc]

/-- An automaton that keeps added lists invents nothing. -/
theorem Keeps.sound (h : topics.Keeps filterMatches added kept) :
    topics.Sound filterMatches added := by
  intro topic handlers hhandlers
  obtain ⟨filter, hfilter, hmatches, rfl⟩ := (h.mem_find topic handlers).mp hhandlers
  exact ⟨filter, h.kept_mem filter hfilter, hmatches⟩

/-- The automaton that keeps the given lists. -/
def keeping (filterMatches : String → String → Bool) (added : List (String × MqttHandlerList))
    (kept : String → MqttHandlerList) : Topics :=
  ⟨fun topic => ((added.map Prod.fst).dedup.filter (filterMatches · topic)).map kept⟩

/-- Any choice of added lists is kept by some automaton. -/
theorem keeps_keeping (filterMatches : String → String → Bool)
    (hkept : ∀ filter ∈ added.map Prod.fst, (filter, kept filter) ∈ added) :
    (keeping filterMatches added kept).Keeps filterMatches added kept where
  kept_mem := hkept
  find_eq := fun topic =>
    ⟨_, (List.nodup_dedup (added.map Prod.fst)).filter _,
      fun filter => by rw [List.mem_filter, List.mem_dedup], rfl⟩

/-- The automaton that keeps the given lists and finds those of a topic in a given order. -/
def ordering (filterMatches : String → String → Bool) (added : List (String × MqttHandlerList))
    (kept : String → MqttHandlerList) (topic : String) (filters : List String) : Topics :=
  ⟨fun other =>
    if other = topic then filters.map kept else (keeping filterMatches added kept).find other⟩

/-- Any order of the matching filters is the one some automaton finds them in. -/
theorem keeps_ordering {topic : String} {filters : List String} (hnodup : filters.Nodup)
    (hfilters : ∀ filter, filter ∈ filters ↔
      filter ∈ added.map Prod.fst ∧ filterMatches filter topic = true)
    (hkept : ∀ filter ∈ added.map Prod.fst, (filter, kept filter) ∈ added) :
    (ordering filterMatches added kept topic filters).Keeps filterMatches added kept where
  kept_mem := hkept
  find_eq := by
    intro other
    by_cases hother : other = topic
    · subst hother
      exact ⟨filters, hnodup, hfilters, if_pos rfl⟩
    · obtain ⟨found, hfound⟩ := (keeps_keeping filterMatches hkept).find_eq other
      refine ⟨found, hfound.1, hfound.2.1, ?_⟩
      rw [← hfound.2.2, ordering]
      exact if_neg hother

/-- The list that was added first under a filter. -/
def firstAdded (added : List (String × MqttHandlerList)) (filter : String) : MqttHandlerList :=
  (added.lookup filter).getD []

/-- The first list added under an added filter is one of its lists. -/
theorem mem_firstAdded (added : List (String × MqttHandlerList)) :
    ∀ filter ∈ added.map Prod.fst, (filter, firstAdded added filter) ∈ added := by
  intro filter hfilter
  unfold firstAdded
  induction added with
  | nil => exact absurd hfilter List.not_mem_nil
  | cons add added ih =>
    obtain ⟨name, handlers⟩ := add
    by_cases h : filter = name
    · subst h
      simp
    · have hne : (filter == name) = false := by simpa using h
      have hrest : filter ∈ added.map Prod.fst := by
        rw [List.map_cons] at hfilter
        exact (List.mem_cons.mp hfilter).resolve_left h
      rw [List.lookup_cons, hne]
      exact List.mem_cons_of_mem _ (ih hrest)

/-- So the first lists added are kept by some automaton. -/
theorem keeps_firstAdded (filterMatches : String → String → Bool)
    (added : List (String × MqttHandlerList)) :
    (keeping filterMatches added (firstAdded added)).Keeps filterMatches added (firstAdded added) :=
  keeps_keeping filterMatches (mem_firstAdded added)

end Topics

end MqttBridge
