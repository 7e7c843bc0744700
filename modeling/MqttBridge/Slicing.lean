import MqttBridge.Interpretation

/-!
# The part of a configuration a message depends on

A message is answered from the topics entries with a filter that matches its topic, the handlers
entries of the ids these name, and the handler entries of the metrics section with these ids. The
passes link all of them through one map of metrics and one store of handlers that they fill and
empty entry by entry; still, without every other entry the message would publish the same.
-/

namespace MqttBridge

/-- A topics entry lists a filter that matches a topic. -/
def TopicNode.reaches (platform : ConfigPlatform) (filterMatches : String → String → Bool)
    (topic : String) (node : TopicNode) : Bool :=
  node.subscriptions.any fun subscription =>
    platform.topicValidate (platform.topicTrim subscription) &&
      filterMatches (platform.topicTrim subscription) topic

/-- A metrics entry without the handler entries of other ids. -/
def MetricNode.only (platform : ConfigPlatform) (ids : List String) (node : MetricNode) :
    MetricNode :=
  { node with handlers := node.handlers.filter fun entry => platform.trim entry.handlerId ∈ ids }

namespace BridgeConfig

section Slice

variable (platform : ConfigPlatform) (filterMatches : String → String → Bool)
  (config : BridgeConfig) (topic : String)

/-- The handler ids that the entries for a topic name. -/
def namedIds : List String :=
  (config.topics.filter (TopicNode.reaches platform filterMatches topic)).flatMap fun node =>
    (node.handlers.getD []).map platform.trim

/-- The part of a configuration that a topic reaches. -/
def slice : BridgeConfig where
  defaultTimestamp := config.defaultTimestamp
  metrics := config.metrics.map fun nodes =>
    (nodes.map (MetricNode.only platform (config.namedIds platform filterMatches topic))).filter
      fun node => !node.handlers.isEmpty
  handlers := config.handlers.map (List.filter fun node =>
    platform.trim node.id ∈ config.namedIds platform filterMatches topic)
  topics := config.topics.filter (TopicNode.reaches platform filterMatches topic)

end Slice

section SliceCorrect

variable {runtime : Platform} {platform : ConfigPlatform}
  {filterMatches : String → String → Bool} {config : BridgeConfig} {topic : String}

/-- The ids of an entry for the topic are named. -/
theorem mem_namedIds {node : TopicNode} (hmem : node ∈ config.topics)
    (hreaches : node.reaches platform filterMatches topic = true) :
    ∀ id ∈ (node.handlers.getD []).map platform.trim,
      id ∈ config.namedIds platform filterMatches topic := fun _ hid =>
  List.mem_flatMap.mpr ⟨node, List.mem_filter.mpr ⟨hmem, hreaches⟩, hid⟩

/-- An entry that lists a matching filter is one for the topic. -/
theorem reaches_of_lists {node : TopicNode} {filter : String} (hlists : node.Lists platform filter)
    (hmatches : filterMatches filter topic = true) :
    node.reaches platform filterMatches topic = true := by
  obtain ⟨⟨subscription, hsubscription, rfl⟩, hvalid⟩ := hlists
  exact List.any_eq_true.mpr ⟨subscription, hsubscription, by rw [hvalid, hmatches]; rfl⟩

/-- Handler entries of other ids decide nothing about the metric listed under an id. -/
theorem listed_only (defaultTimestamp : MetricTimestamp) {ids : List String} {id : String}
    (hid : id ∈ ids) (node : MetricNode) :
    (node.only platform ids).listed platform defaultTimestamp id =
      node.listed platform defaultTimestamp id := by
  unfold MetricNode.listed MetricNode.only
  rw [List.find?_filter]
  have hsame : ∀ entry : MetricHandlerNode,
      (decide (platform.trim entry.handlerId ∈ ids) &&
          decide (platform.trim entry.handlerId = id)) =
        decide (platform.trim entry.handlerId = id) := by
    intro entry
    by_cases h : platform.trim entry.handlerId = id
    · simp [h, hid]
    · simp [h]
  simp only [Bool.decide_and, Bool.decide_eq_true, hsame]
  rfl

/-- A named id has the same metrics in the slice. -/
theorem metricsOf_slice {id : String} (hid : id ∈ config.namedIds platform filterMatches topic) :
    (config.slice platform filterMatches topic).metricsOf platform id =
      config.metricsOf platform id := by
  unfold metricsOf slice
  cases config.metrics with
  | none => rfl
  | some nodes =>
    rw [Option.map_some, Option.getD_some, Option.getD_some, List.filterMap_filter,
      List.filterMap_map]
    refine List.filterMap_congr fun node _ => ?_
    rw [Function.comp_apply, listed_only _ hid, ite_eq_left_iff]
    -- An entry without a handler entry of a named id lists nothing under one.
    intro hempty
    have hnone :
        (node.only platform (config.namedIds platform filterMatches topic)).handlers = [] := by
      simpa using hempty
    rw [← listed_only config.defaultTimestamp hid, MetricNode.listed, hnone]
    rfl

/-- A named id is served by the same entry in the slice. -/
theorem server_slice {id : String} (hid : id ∈ config.namedIds platform filterMatches topic) :
    (config.slice platform filterMatches topic).server platform id =
      config.server platform id := by
  unfold server
  rw [metricsOf_slice hid]
  split
  · rfl
  · unfold slice
    cases config.handlers with
    | none => rfl
    | some nodes =>
      rw [Option.map_some, Option.getD_some, Option.getD_some, List.find?_filter]
      congr 1
      funext node
      by_cases h : platform.trim node.id = id
      · simp [h, hid]
      · simp [h]

/-- An entry whose ids are named has the same ids served in the slice. -/
theorem servedIds_slice {node : TopicNode}
    (hids : ∀ id ∈ (node.handlers.getD []).map platform.trim,
      id ∈ config.namedIds platform filterMatches topic) :
    (config.slice platform filterMatches topic).servedIds platform node =
      config.servedIds platform node :=
  servedIds_congr fun id hid => server_slice (hids id hid)

/-- An entry whose ids are named asks for the same records in the slice. -/
theorem records_slice {node : TopicNode}
    (hids : ∀ id ∈ (node.handlers.getD []).map platform.trim,
      id ∈ config.namedIds platform filterMatches topic) (message : Message) :
    (config.slice platform filterMatches topic).records runtime platform node message =
      config.records runtime platform node message :=
  records_congr runtime (fun id hid => server_slice (hids id hid))
    (fun id hid => metricsOf_slice (hids id hid)) message

/-- In the slice, the same entries listen to the matching filters. -/
theorem listens_slice_iff {filter : String} (hmatches : filterMatches filter topic = true)
    (node : TopicNode) :
    (config.slice platform filterMatches topic).Listens platform node filter ↔
      config.Listens platform node filter := by
  constructor
  · intro h
    obtain ⟨hmem, hreaches⟩ := List.mem_filter.mp h.mem
    exact ⟨hmem, h.lists, servedIds_slice (mem_namedIds hmem hreaches) ▸ h.served⟩
  · intro h
    have hreaches := reaches_of_lists h.lists hmatches
    refine ⟨List.mem_filter.mpr ⟨h.mem, hreaches⟩, h.lists, ?_⟩
    rw [servedIds_slice (mem_namedIds h.mem hreaches)]
    exact h.served

end SliceCorrect

end BridgeConfig

/-- What a message publishes depends only on the part of the configuration its topic reaches: the
topics entries with a matching filter, the handlers entries of the ids these name, and the metrics
of these ids. Without all other entries, and after any messages, it may add exactly the same
batches. -/
theorem publishes_slice_iff (runtime : Platform) (hadds : runtime.AddsNoHelp)
    (platform : ConfigPlatform) (filterMatches : String → String → Bool) (config : BridgeConfig)
    (messages : List Message) (message : Message) (batch : Option (List MetricData)) :
    (config.slice platform filterMatches (runtime.topicTrim message.topic)).Publishes runtime
        platform filterMatches messages message batch ↔
      config.Publishes runtime platform filterMatches messages message batch := by
  have hlistens : ∀ filter, filterMatches filter (runtime.topicTrim message.topic) = true →
      ∀ node, (config.slice platform filterMatches (runtime.topicTrim message.topic)).Listens
          platform node filter ↔ config.Listens platform node filter :=
    fun _ hmatches => BridgeConfig.listens_slice_iff hmatches
  have hrecords : ∀ filter node,
      filterMatches filter (runtime.topicTrim message.topic) = true →
      config.Listens platform node filter →
        (config.slice platform filterMatches (runtime.topicTrim message.topic)).records runtime
            platform node message = config.records runtime platform node message :=
    fun _ _ hmatches h => BridgeConfig.records_slice (BridgeConfig.mem_namedIds h.mem
      (BridgeConfig.reaches_of_lists h.lists hmatches)) message
  constructor
  · intro h
    have hmeans := (h.means hadds).of_agree hlistens fun filter node hmatches hnode =>
      (hrecords filter node hmatches ((hlistens filter hmatches node).mp hnode)).symm
    exact hmeans.publishes hadds messages
  · intro h
    have hmeans := (h.means hadds).of_agree
      (fun filter hmatches node => (hlistens filter hmatches node).symm) hrecords
    exact hmeans.publishes hadds messages

/-- Two rooms: a topics entry, a handlers entry and a metrics entry for each. -/
def BridgeConfig.twoRooms : BridgeConfig where
  defaultTimestamp := .on
  metrics := some
    [{ metric := "kitchen", handlers := [{ handlerId := "a", property := some "t" }] },
     { metric := "bath", handlers := [{ handlerId := "b", property := some "t" }] }]
  handlers := some [{ id := "a", type := "value" }, { id := "b", type := "value" }]
  topics :=
    [{ handlers := some ["a"], subscriptions := ["home/kitchen"] },
     { handlers := some ["b"], subscriptions := ["home/bath"] }]

/-- A message for the bath is published by the part with the second entries, and so by the whole. -/
theorem publishes_slice_iff_bath :
    (BridgeConfig.twoRooms.slice .reference (· == ·) "home/bath").handlers =
        some [{ id := "b", type := "value" }] ∧
      ∃ batch : List MetricData,
        batch.map (fun data => (data.id.name, data.value)) = [("bath", "21.5")] ∧
        (BridgeConfig.twoRooms.slice .reference (· == ·) "home/bath").Publishes
          .reference .reference (· == ·) [⟨"home/kitchen", "20.0", 1⟩]
          ⟨"home/bath", "21.5", 2⟩ (some batch) ∧
        BridgeConfig.twoRooms.Publishes .reference .reference (· == ·)
          [⟨"home/kitchen", "20.0", 1⟩] ⟨"home/bath", "21.5", 2⟩ (some batch) := by
  have hkeeps := Topics.keeps_firstAdded (· == ·)
    ((BridgeConfig.twoRooms.slice .reference (· == ·) "home/bath").routes .reference).added
  obtain ⟨batch, hvalues, hslice⟩ : ∃ batch : List MetricData,
      batch.map (fun data => (data.id.name, data.value)) = [("bath", "21.5")] ∧
        (BridgeConfig.twoRooms.slice .reference (· == ·) "home/bath").Publishes .reference
          .reference (· == ·) [⟨"home/kitchen", "20.0", 1⟩] ⟨"home/bath", "21.5", 2⟩
            (some batch) := ⟨_, by decide, _, _, hkeeps, rfl⟩
  exact ⟨by decide, batch, hvalues, hslice, (publishes_slice_iff .reference
    Platform.addsNoHelp_reference .reference (· == ·) .twoRooms _ ⟨"home/bath", "21.5", 2⟩ _).mp
      hslice⟩

end MqttBridge
