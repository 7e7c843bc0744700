import MqttBridge.Interpretation
import MqttBridge.Repetition

/-!
# The order of the entries

Sections are sequences, and the passes go through them one entry after the other. The order of the
topics entries makes no difference to what is subscribed to, that of the metrics and handlers
entries none to which handler an id gets, as long as no two handlers entries compete for one id.
Where two topics entries share a filter, it may decide which of them is served. Where none do, the
records of a batch change places at most.
-/

namespace MqttBridge

namespace BridgeConfig

/-- A handlers entry takes a metric of its own id. -/
def Competes (platform : ConfigPlatform) (config : BridgeConfig) (node : HandlerNode) : Prop :=
  ∃ metric ∈ config.metricsOf platform (platform.trim node.id), node.Takes platform metric.property

instance (platform : ConfigPlatform) (config : BridgeConfig) (node : HandlerNode) :
    Decidable (config.Competes platform node) :=
  inferInstanceAs (Decidable (∃ metric ∈ _, _))

/-- At most one handlers entry takes metrics of an id. -/
def Uncontested (platform : ConfigPlatform) (config : BridgeConfig) : Prop :=
  ∀ node₁ ∈ config.handlers.getD [], ∀ node₂ ∈ config.handlers.getD [],
    platform.trim node₁.id = platform.trim node₂.id → config.Competes platform node₁ →
      config.Competes platform node₂ → node₁ = node₂

instance (platform : ConfigPlatform) (config : BridgeConfig) :
    Decidable (config.Uncontested platform) :=
  inferInstanceAs (Decidable (∀ node₁ ∈ _, ∀ node₂ ∈ _, _ → _ → _ → _))

/-- Two configurations have the same entries in each section. -/
structure Reordered (config config' : BridgeConfig) : Prop where
  defaultTimestamp : config.defaultTimestamp = config'.defaultTimestamp
  metrics : (config.metrics.getD []).Perm (config'.metrics.getD [])
  handlers : (config.handlers.getD []).Perm (config'.handlers.getD [])
  topics : config.topics.Perm config'.topics

section Order

variable {platform : ConfigPlatform} {config config' : BridgeConfig}

/-- An id has the same metrics, in some order. -/
theorem Reordered.metricsOf (h : config.Reordered config') (id : String) :
    (config.metricsOf platform id).Perm (config'.metricsOf platform id) := by
  unfold BridgeConfig.metricsOf
  rw [h.defaultTimestamp]
  exact h.metrics.filterMap _

/-- An id is served by the same handlers entry. -/
theorem Reordered.server (h : config.Reordered config') (hone : config.Uncontested platform)
    (id : String) : config.server platform id = config'.server platform id := by
  unfold BridgeConfig.server
  split
  · rfl
  · have hsame : ∀ node : HandlerNode,
        (∃ metric ∈ config'.metricsOf platform id, node.Takes platform metric.property) ↔
          ∃ metric ∈ config.metricsOf platform id, node.Takes platform metric.property :=
      fun node => exists_congr fun metric => and_congr_left fun _ => ((h.metricsOf id).mem_iff).symm
    simp only [hsame]
    refine find?_eq_of_perm h.handlers fun node₁ h₁ node₂ h₂ hfound₁ hfound₂ => ?_
    obtain ⟨hid₁, htakes₁⟩ := of_decide_eq_true hfound₁
    obtain ⟨hid₂, htakes₂⟩ := of_decide_eq_true hfound₂
    subst hid₁
    exact hone node₁ h₁ node₂ h₂ hid₂.symm htakes₁ (by rw [Competes, hid₂]; exact htakes₂)

/-- The same ids of a topics entry are served. -/
theorem Reordered.servedIds (h : config.Reordered config') (hone : config.Uncontested platform)
    (node : TopicNode) : config.servedIds platform node = config'.servedIds platform node :=
  List.filter_congr fun id _ => by rw [h.server hone id]

/-- The same entries listen to a filter. -/
theorem Reordered.listens_iff (h : config.Reordered config') (hone : config.Uncontested platform)
    (filter : String) (node : TopicNode) :
    config.Listens platform node filter ↔ config'.Listens platform node filter := by
  have hserved := h.servedIds hone node
  constructor
  · intro hlistens
    exact ⟨h.topics.mem_iff.mp hlistens.mem, hlistens.lists, hserved ▸ hlistens.served⟩
  · intro hlistens
    exact ⟨h.topics.mem_iff.mpr hlistens.mem, hlistens.lists, hserved ▸ hlistens.served⟩

/-- The subscriptions are the same vector. -/
theorem Reordered.subscriptions_eq (h : config.Reordered config')
    (hone : config.Uncontested platform) (hsearch : LowerBoundSearch platform.findIterPos) :
    (config.routes platform).subscriptions = (config'.routes platform).subscriptions := by
  have hsorted := (agree_configureMqttTopics hsearch (config.store platform) config.topics).sorted
  have hsorted' :=
    (agree_configureMqttTopics hsearch (config'.store platform) config'.topics).sorted
  refine List.Pairwise.eq_of_mem_iff hsorted hsorted' fun filter => ?_
  rw [mem_subscriptions_iff hsearch, mem_subscriptions_iff hsearch]
  exact exists_congr (h.listens_iff hone filter)

end Order

end BridgeConfig

/-- A handlers entry reads the same for the same metrics, in some order. -/
theorem HandlerNode.readings_perm (runtime : Platform) (platform : ConfigPlatform)
    (node : HandlerNode) {metrics metrics' : List Metric} (h : metrics.Perm metrics')
    (payload : String) :
    (node.readings runtime platform metrics payload).Perm
      (node.readings runtime platform metrics' payload) := by
  unfold readings
  by_cases hvalue : node.typeName platform = "value"
  · rw [if_pos hvalue, if_pos hvalue]
    exact h.map _
  · rw [if_neg hvalue, if_neg hvalue]
    by_cases htext : node.typeName platform = "text"
    · rw [if_pos htext, if_pos htext]
    · rw [if_neg htext, if_neg htext]
      refine List.Perm.flatMap_left _ fun callback _ => List.Perm.flatMap_left _ fun p _ => ?_
      exact (h.filter _).map _

namespace BridgeConfig

section Order

variable {platform : ConfigPlatform} {config config' : BridgeConfig}

/-- A topics entry asks for the same records, in some order. -/
theorem Reordered.records (h : config.Reordered config') (hone : config.Uncontested platform)
    (runtime : Platform) (node : TopicNode) (message : Message) :
    (config.records runtime platform node message).Perm
      (config'.records runtime platform node message) := by
  unfold BridgeConfig.records
  rw [h.servedIds hone]
  refine List.Perm.flatMap_left _ fun id _ => List.Perm.map _ ?_
  unfold BridgeConfig.readings
  rw [h.server hone id]
  cases config'.server platform id with
  | none => exact List.Perm.refl _
  | some entry => exact entry.readings_perm runtime platform (h.metricsOf id) message.payload

/-- Where no filter is shared, answers in both orders are for the same filters and by the same
entries. -/
theorem Reordered.batch_perm (h : config.Reordered config') (hone : config.Uncontested platform)
    (hunshared : config.Unshared platform) {runtime : Platform}
    {filterMatches : String → String → Bool} {message : Message}
    (answer : Answer runtime platform filterMatches config message)
    (answer' : Answer runtime platform filterMatches config' message) :
    Option.Rel List.Perm answer.batch answer'.batch := by
  have hfilters : answer.filters.Perm answer'.filters := by
    refine (List.perm_ext_iff_of_nodup answer.nodup answer'.nodup).mpr fun filter => ?_
    rw [answer.mem_filters, answer'.mem_filters]
    exact and_congr_left fun _ => exists_congr (h.listens_iff hone filter)
  have hentry : ∀ filter ∈ answer'.filters, answer.entry filter = answer'.entry filter := by
    intro filter hfilter
    exact hunshared filter _ _ (answer.listens filter (hfilters.mem_iff.mpr hfilter))
      ((h.listens_iff hone filter _).mpr (answer'.listens filter hfilter))
  have hrecords : (answer.filters.flatMap fun filter =>
      config.records runtime platform (answer.entry filter) message).Perm
        (answer'.filters.flatMap fun filter =>
          config'.records runtime platform (answer'.entry filter) message) := by
    refine (hfilters.flatMap_right _).trans (List.Perm.flatMap_left _ fun filter hfilter => ?_)
    rw [← hentry filter hfilter]
    exact h.records hone runtime (answer.entry filter) message
  unfold Answer.batch
  by_cases hempty : answer.filters = []
  · have hempty' : answer'.filters = [] := List.nil_perm.mp (hempty ▸ hfilters)
    rw [if_pos hempty, if_pos hempty']
    exact Option.Rel.none
  · have hempty' : answer'.filters ≠ [] := fun hnone =>
      hempty (List.perm_nil.mp (hnone ▸ hfilters))
    rw [if_neg hempty, if_neg hempty']
    exact Option.Rel.some hrecords

end Order

end BridgeConfig

/-- The order of the entries in the three sections makes no difference, as long as no two handlers
entries compete for an id. The subscriptions are the same vector. If no two topics entries listen to
one filter, then any two bridges built from the two orders, each with an automaton of its own and
after messages of its own, add the same batch for a message but for the order of its records. -/
theorem publishes_reordered (runtime : Platform) (hadds : runtime.AddsNoHelp)
    (platform : ConfigPlatform) (hsearch : LowerBoundSearch platform.findIterPos)
    (filterMatches : String → String → Bool) (config config' : BridgeConfig)
    (hreordered : config.Reordered config') (hone : config.Uncontested platform) :
    (config.routes platform).subscriptions = (config'.routes platform).subscriptions ∧
      (config.Unshared platform → ∀ automaton kept automaton' kept',
        automaton.Keeps filterMatches (config.routes platform).added kept →
        automaton'.Keeps filterMatches (config'.routes platform).added kept' →
        ∀ messages messages' message, Option.Rel List.Perm
          (((config.client platform automaton true).run runtime messages).1.onMessage runtime
            message).added
          (((config'.client platform automaton' true).run runtime messages').1.onMessage runtime
            message).added) := by
  refine ⟨hreordered.subscriptions_eq hone hsearch, fun hunshared automaton kept automaton' kept'
    hkeeps hkeeps' messages messages' message => ?_⟩
  obtain ⟨answer, hanswer⟩ := BridgeConfig.Publishes.means hadds ⟨automaton, kept, hkeeps, rfl⟩
  obtain ⟨answer', hanswer'⟩ := BridgeConfig.Publishes.means hadds ⟨automaton', kept', hkeeps', rfl⟩
  rw [← hanswer, ← hanswer']
  exact hreordered.batch_perm hone hunshared answer answer'

/-- A configuration with its sections in reverse. -/
def BridgeConfig.reversed (config : BridgeConfig) : BridgeConfig where
  defaultTimestamp := config.defaultTimestamp
  metrics := config.metrics.map List.reverse
  handlers := config.handlers.map List.reverse
  topics := config.topics.reverse

/-- Reversing the sections is one way to reorder them. -/
theorem BridgeConfig.reordered_reversed (config : BridgeConfig) :
    config.Reordered config.reversed := by
  have hperm : ∀ {α : Type} (nodes : Option (List α)),
      (nodes.getD []).Perm ((nodes.map List.reverse).getD []) := by
    intro α nodes
    cases nodes with
    | none => exact List.Perm.refl _
    | some nodes => exact (List.reverse_perm nodes).symm
  exact ⟨rfl, hperm config.metrics, hperm config.handlers, (List.reverse_perm _).symm⟩

/-- Two entries whose filters match the same topic. -/
def BridgeConfig.twoFilters : BridgeConfig where
  defaultTimestamp := .on
  metrics := some
    [{ metric := "inside", handlers := [{ handlerId := "a", property := some "t" }] },
     { metric := "outside", handlers := [{ handlerId := "b", property := some "t" }] }]
  handlers := some [{ id := "a", type := "value" }, { id := "b", type := "value" }]
  topics :=
    [{ handlers := some ["a"], subscriptions := ["home/#"] },
     { handlers := some ["b"], subscriptions := ["home/kitchen"] }]

/-- The entries list different filters. -/
theorem BridgeConfig.unshared_twoFilters : twoFilters.Unshared .reference := by
  have hfilter : ∀ node ∈ twoFilters.topics, ∀ filter, node.Lists .reference filter →
      node = if filter = "home/#" then { handlers := some ["a"], subscriptions := ["home/#"] }
        else { handlers := some ["b"], subscriptions := ["home/kitchen"] } := by
    intro node hnode filter hlists
    obtain ⟨⟨subscription, hsubscription, rfl⟩, _⟩ := hlists
    revert node subscription
    decide
  intro filter node₁ node₂ h₁ h₂
  rw [hfilter node₁ h₁.mem filter h₁.lists, hfilter node₂ h₂.mem filter h₂.lists]

/-- What a bridge adds for a message after some others, if its automaton keeps the first list added
under each filter. -/
def BridgeConfig.addsFirst (config : BridgeConfig) (messages : List Message) (message : Message) :
    Option (List MetricData) :=
  (((config.client .reference (.keeping Topics.wildcards (config.routes .reference).added
    (Topics.firstAdded (config.routes .reference).added)) true).run .reference
      messages).1.onMessage .reference message).added

/-- Bridges for the two entries and for them the other way round, the second one after another
message: one subscriptions vector, and batches with the same records in different places. -/
theorem publishes_reordered_twoFilters :
    (BridgeConfig.twoFilters.routes .reference).subscriptions =
        (BridgeConfig.twoFilters.reversed.routes .reference).subscriptions ∧
      ∃ batch batch' : List MetricData,
        BridgeConfig.twoFilters.addsFirst [] ⟨"home/kitchen", "21.5", 2⟩ = some batch ∧
        BridgeConfig.twoFilters.reversed.addsFirst [⟨"home/hall", "20.0", 1⟩]
          ⟨"home/kitchen", "21.5", 2⟩ = some batch' ∧
        batch.map (fun data => (data.id.name, data.value)) =
          [("inside", "21.5"), ("outside", "21.5")] ∧
        batch'.map (fun data => (data.id.name, data.value)) =
          [("outside", "21.5"), ("inside", "21.5")] ∧
        batch.Perm batch' := by
  have hkeeps := Topics.keeps_firstAdded Topics.wildcards
    (BridgeConfig.twoFilters.routes .reference).added
  have hkeeps' := Topics.keeps_firstAdded Topics.wildcards
    (BridgeConfig.twoFilters.reversed.routes .reference).added
  obtain ⟨hsubscriptions, hbatches⟩ := publishes_reordered .reference Platform.addsNoHelp_reference
    .reference (fun _ _ _ => rfl) Topics.wildcards .twoFilters BridgeConfig.twoFilters.reversed
    (BridgeConfig.reordered_reversed _) (by decide)
  have hperm := hbatches BridgeConfig.unshared_twoFilters _ _ _ _ hkeeps hkeeps' []
    [⟨"home/hall", "20.0", 1⟩] ⟨"home/kitchen", "21.5", 2⟩
  refine ⟨hsubscriptions, _, _, rfl, rfl, ?_, ?_, Option.rel_some_some.mp hperm⟩
  · decide
  · decide

end MqttBridge
