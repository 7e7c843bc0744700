import MqttBridge.Provenance
import MqttBridge.TrimmedNames

/-!
# What a configuration means

The passes make metric objects, put them into a map, let the handlers take them out of it, and
route filters to the handlers. Here the three sections are read directly, with no object, map,
store, route or heap. An id has the metrics the metrics section lists under it, and is served by
the first handlers entry that takes one of them; a topics entry listens to its filters for the
served ids it names. A bridge built by the passes publishes for a message, whatever came before,
exactly what the configuration means for that message alone.
-/

namespace MqttBridge

/-- A value read for a metric. -/
structure Reading where
  metric : Metric
  value : String
  valueType : ValueType

/-- The record a reading is published as. -/
def Reading.record (topic : String) (levels : TopicLevelsView) (timestamp : ℤ) (reading : Reading) :
    MetricData :=
  reading.metric.emit reading.value topic levels timestamp reading.valueType

instance (platform : ConfigPlatform) (node : HandlerNode) (property : String) :
    Decidable (node.Takes platform property) := inferInstanceAs (Decidable (_ ∨ _))

/-- The different pointers of some pairs, in order of first use. -/
def distinctPointers (pairs : List JsonProperty) : List String :=
  firstBy id (pairs.map JsonProperty.pointer)

/-- What a handlers entry reads from a payload for some metrics: the whole payload for each if its
type is `value`, nothing if it is `text`, and otherwise each reported scalar for the metrics whose
property is listed with its pointer. -/
def HandlerNode.readings (runtime : Platform) (platform : ConfigPlatform) (node : HandlerNode)
    (metrics : List Metric) (payload : String) : List Reading :=
  if node.typeName platform = "value" then metrics.map fun metric => ⟨metric, payload, .unknown⟩
  else if node.typeName platform = "text" then []
  else
    let pairs := attachable platform (node.properties.listed platform)
    (runtime.parse (distinctPointers pairs) payload).callbacks.flatMap fun callback =>
      (pairs.filter fun p => p.pointer = callback.pointer).flatMap fun p =>
        (metrics.filter fun metric => metric.property = p.property).map fun metric =>
          ⟨metric, callback.value.scalar.1, callback.value.scalar.2⟩

namespace BridgeConfig

variable (runtime : Platform) (platform : ConfigPlatform) (filterMatches : String → String → Bool)
  (config : BridgeConfig)

/-- The metrics of a handler id, in section order. -/
def metricsOf (id : String) : List Metric :=
  (config.metrics.getD []).filterMap fun node =>
    node.listed platform config.defaultTimestamp id

/-- The handlers entry that serves an id: the first one of the id that takes one of its metrics. -/
def server (id : String) : Option HandlerNode :=
  if id.isEmpty then none
  else (config.handlers.getD []).find? fun node =>
    platform.trim node.id = id ∧
      ∃ metric ∈ config.metricsOf platform id, node.Takes platform metric.property

/-- What is read from a payload for an id. -/
def readings (id payload : String) : List Reading :=
  match config.server platform id with
  | none => []
  | some node => node.readings runtime platform (config.metricsOf platform id) payload

/-- The ids a topics entry names that are served, in the order it names them. -/
def servedIds (node : TopicNode) : List String :=
  ((node.handlers.getD []).map platform.trim).filter fun id => (config.server platform id).isSome

/-- The records a topics entry asks for when it receives a message. -/
def records (node : TopicNode) (message : Message) : List MetricData :=
  let topic := runtime.topicTrim message.topic
  (config.servedIds platform node).flatMap fun id =>
    (config.readings runtime platform id message.payload).map
      (Reading.record topic (runtime.topicTokenizeView topic) message.now)

/-- A topics entry listens to a filter: it lists the filter and names an id that is served. -/
structure Listens (node : TopicNode) (filter : String) : Prop where
  mem : node ∈ config.topics
  lists : node.Lists platform filter
  served : config.servedIds platform node ≠ []

/-- No two topics entries listen to one filter. -/
def Unshared : Prop :=
  ∀ filter node₁ node₂, config.Listens platform node₁ filter →
    config.Listens platform node₂ filter → node₁ = node₂

/-- One way to answer a message: the listened-to filters that match its topic, each once and in any
order, and for each of them one of the entries that listen to it. Which entry that is, where there
are several, is not settled by the configuration. -/
structure Answer (message : Message) where
  filters : List String
  entry : String → TopicNode
  nodup : filters.Nodup
  mem_filters : ∀ filter, filter ∈ filters ↔
    (∃ node, config.Listens platform node filter) ∧
      filterMatches filter (runtime.topicTrim message.topic) = true
  listens : ∀ filter ∈ filters, config.Listens platform (entry filter) filter

/-- The batch of an answer: the records of its entries, or none if no filter matches. -/
def Answer.batch {runtime : Platform} {platform : ConfigPlatform}
    {filterMatches : String → String → Bool} {config : BridgeConfig} {message : Message}
    (answer : Answer runtime platform filterMatches config message) : Option (List MetricData) :=
  if answer.filters = [] then none
  else some (answer.filters.flatMap fun filter =>
    config.records runtime platform (answer.entry filter) message)

/-- What a configuration means for a message: the batches of its answers. -/
def Means (message : Message) (batch : Option (List MetricData)) : Prop :=
  ∃ answer : Answer runtime platform filterMatches config message, answer.batch = batch

section Congruence

variable {platform : ConfigPlatform} {config config' : BridgeConfig} {node : TopicNode}

/-- A topics entry has the same ids served in two configurations that serve the ids it names
alike. -/
theorem servedIds_congr (hserver : ∀ id ∈ (node.handlers.getD []).map platform.trim,
      config.server platform id = config'.server platform id) :
    config.servedIds platform node = config'.servedIds platform node :=
  List.filter_congr fun id hid => by rw [hserver id hid]

/-- It asks for the same records if the ids have the same metrics, too. -/
theorem records_congr (runtime : Platform)
    (hserver : ∀ id ∈ (node.handlers.getD []).map platform.trim,
      config.server platform id = config'.server platform id)
    (hmetrics : ∀ id ∈ (node.handlers.getD []).map platform.trim,
      config.metricsOf platform id = config'.metricsOf platform id) (message : Message) :
    config.records runtime platform node message =
      config'.records runtime platform node message := by
  unfold records
  rw [servedIds_congr hserver]
  refine List.flatMap_congr fun id hid => ?_
  have hnamed := (List.mem_filter.mp hid).1
  rw [readings, readings, hserver id hnamed, hmetrics id hnamed]

end Congruence

section Transfer

variable {runtime : Platform} {platform : ConfigPlatform}
  {filterMatches : String → String → Bool} {config config' : BridgeConfig} {message : Message}

/-- An answer from one configuration is an answer from another one whose entries listen to the same
of the matching filters. -/
def Answer.transfer (answer : Answer runtime platform filterMatches config message)
    (hlistens : ∀ filter, filterMatches filter (runtime.topicTrim message.topic) = true →
      ∀ node, config.Listens platform node filter ↔ config'.Listens platform node filter) :
    Answer runtime platform filterMatches config' message where
  filters := answer.filters
  entry := answer.entry
  nodup := answer.nodup
  mem_filters := fun filter => (answer.mem_filters filter).trans
    (and_congr_left fun hmatches => exists_congr (hlistens filter hmatches))
  listens := fun filter hfilter =>
    (hlistens filter ((answer.mem_filters filter).mp hfilter).2 _).mp
      (answer.listens filter hfilter)

/-- The transferred answer has the same batch if the entries ask for the same records. -/
theorem Answer.batch_transfer (answer : Answer runtime platform filterMatches config message)
    (hlistens : ∀ filter, filterMatches filter (runtime.topicTrim message.topic) = true →
      ∀ node, config.Listens platform node filter ↔ config'.Listens platform node filter)
    (hrecords : ∀ filter ∈ answer.filters,
      config'.records runtime platform (answer.entry filter) message =
        config.records runtime platform (answer.entry filter) message) :
    (answer.transfer hlistens).batch = answer.batch := by
  have hbatch : (answer.filters.flatMap fun filter =>
      config'.records runtime platform (answer.entry filter) message) =
        answer.filters.flatMap fun filter =>
          config.records runtime platform (answer.entry filter) message :=
    List.flatMap_congr hrecords
  rw [batch, batch, ← hbatch]
  rfl

/-- What one configuration means for a message another one means too, if its entries listen to the
same of the matching filters and ask for the same records. -/
theorem Means.of_agree {batch : Option (List MetricData)}
    (h : config.Means runtime platform filterMatches message batch)
    (hlistens : ∀ filter, filterMatches filter (runtime.topicTrim message.topic) = true →
      ∀ node, config.Listens platform node filter ↔ config'.Listens platform node filter)
    (hrecords : ∀ filter node, filterMatches filter (runtime.topicTrim message.topic) = true →
      config.Listens platform node filter →
        config'.records runtime platform node message =
          config.records runtime platform node message) :
    config'.Means runtime platform filterMatches message batch := by
  obtain ⟨answer, rfl⟩ := h
  exact ⟨answer.transfer hlistens, answer.batch_transfer hlistens fun filter hfilter =>
    hrecords filter _ ((answer.mem_filters filter).mp hfilter).2 (answer.listens filter hfilter)⟩

end Transfer

end BridgeConfig

/-- A captured handler's events emit what its entry reads for the metrics of the list. -/
theorem HandlerNode.emit_calls (runtime : Platform) (platform : ConfigPlatform)
    {node : HandlerNode} {list : List MetricPtr} {handler : MqttHandler}
    (h : node.captured platform list = some handler) (payload topic : String)
    (levels : TopicLevelsView) (timestamp : ℤ) :
    (handler.calls runtime payload topic levels timestamp).map MetricCall.emit =
      (node.readings runtime platform (list.reduceOption.map MetricRef.metric) payload).map
        (Reading.record topic levels timestamp) := by
  unfold readings
  obtain ⟨htype, _, rfl⟩ | ⟨htype, _, rfl⟩ := node.captured_cases platform h
  · obtain ⟨hvalue, htext⟩ := (node.decodeType_eq_json platform).mp htype
    rw [if_neg hvalue, if_neg htext]
    dsimp only
    generalize attachable platform (node.properties.listed platform) = pairs
    have hpointers : (collect (attachments list pairs)).map Prod.fst = distinctPointers pairs := by
      rw [map_fst_collect, distinctPointers, attachments, List.map_map]
      rfl
    rw [MqttHandler.calls, hpointers, List.map_flatMap, List.map_flatMap]
    refine List.flatMap_congr fun callback _ => ?_
    -- Under a reported pointer lie the metrics of the pairs with that pointer.
    rw [JsonCallback.calls, lookup_collect, batchesOf_attachments, List.map_flatMap,
      List.map_flatMap, List.map_flatMap]
    refine List.flatMap_congr fun p _ => ?_
    simp [metricsWith, List.filter_map, Function.comp_def, MetricCall.emit, Reading.record,
      JsonValue.scalar_eq]
  · rw [if_pos ((node.decodeType_eq_value platform).mp htype)]
    simp [MqttHandler.calls, MetricCall.emit, Reading.record, Function.comp_def]

namespace BridgeConfig

section Sections

variable {platform : ConfigPlatform} {config : BridgeConfig}

/-- The objects the metrics section lists under an id hold the metrics of the id. -/
theorem metrics_metricsMap (id : String) :
    (((config.metricsMap platform).lookup id).getD []).reduceOption.map MetricRef.metric =
      config.metricsOf platform id := by
  have hlisted := MetricsBuild.metrics_ofLog
    (createdMetrics platform config.defaultTimestamp (config.metrics.getD [])) id
  rw [← configurePrometheusMetrics_eq, loggedUnder_createdMetrics] at hlisted
  have hlist :
      (((config.metricsMap platform).lookup id).getD []).map (Option.map MetricRef.metric) =
      (config.metricsOf platform id).map some := by
    have hgetD : (((config.metricsMap platform).lookup id).getD []).map
        (Option.map MetricRef.metric) = (((config.metricsMap platform).lookup id).map
          (List.map (Option.map MetricRef.metric))).getD [] := by
      cases (config.metricsMap platform).lookup id <;> rfl
    rw [hgetD, metricsMap, hlisted, metricsOf]
    split
    · rename_i hempty
      rw [List.isEmpty_iff.mp hempty]
      rfl
    · rfl
  rw [← List.reduceOption_map, hlist]
  simp [List.reduceOption]

/-- A handlers entry captures a handler from the list of an id exactly if it takes one of the
metrics of the id. -/
theorem isSome_captured_iff (node : HandlerNode) (id : String) :
    (node.captured platform (((config.metricsMap platform).lookup id).getD [])).isSome = true ↔
      ∃ metric ∈ config.metricsOf platform id, node.Takes platform metric.property := by
  rw [HandlerNode.isSome_captured, ← metrics_metricsMap]
  simp [List.reduceOption_mem_iff]

/-- The handler stored under an id is the one its serving entry captures. -/
theorem lookup_store_eq_bind (id : String) :
    (config.store platform).lookup id = (config.server platform id).bind fun node =>
      node.captured platform (((config.metricsMap platform).lookup id).getD []) := by
  rw [lookup_store, storedHandler, server]
  split
  · rfl
  · rw [findSome?_eq_bind_find?]
    have htakes : ∀ node : HandlerNode,
        (if platform.trim node.id = id then
          node.captured platform (((config.metricsMap platform).lookup id).getD [])
          else none).isSome = decide (platform.trim node.id = id ∧
            ∃ metric ∈ config.metricsOf platform id, node.Takes platform metric.property) := by
      intro node
      split
      · rename_i htrim
        rw [Bool.eq_iff_iff, isSome_captured_iff]
        simp [htrim]
      · rename_i htrim
        simp [htrim]
    simp only [htakes]
    refine Option.bind_congr fun node hnode => ?_
    have hid := List.find?_some hnode
    rw [if_pos (of_decide_eq_true hid).1]

/-- An id that is served has a handler in the store, captured by the serving entry. -/
theorem exists_handler_of_server {id : String} {node : HandlerNode}
    (h : config.server platform id = some node) :
    ∃ handler, (config.store platform).lookup id = some handler ∧
      node.captured platform (((config.metricsMap platform).lookup id).getD []) =
        some handler := by
  have htakes : ∃ metric ∈ config.metricsOf platform id, node.Takes platform metric.property := by
    unfold server at h
    split at h
    · cases h
    · have hfound := List.find?_some h
      exact (of_decide_eq_true hfound).2
  obtain ⟨handler, hhandler⟩ :=
    Option.isSome_iff_exists.mp ((isSome_captured_iff node id).mpr htakes)
  refine ⟨handler, ?_, hhandler⟩
  rw [lookup_store_eq_bind, h, Option.bind_some, hhandler]

/-- An id has a handler in the store exactly if it is served. -/
theorem isSome_lookup_store (id : String) :
    ((config.store platform).lookup id).isSome = (config.server platform id).isSome := by
  cases hserver : config.server platform id with
  | none =>
    rw [lookup_store_eq_bind, hserver, Option.bind_none]
    rfl
  | some node =>
    obtain ⟨handler, hlookup, _⟩ := exists_handler_of_server hserver
    rw [hlookup]
    rfl

/-- A topics entry resolves a handler exactly if it names a served id. -/
theorem resolved_eq_nil_iff (node : TopicNode) :
    node.resolved platform (config.store platform) = [] ↔ config.servedIds platform node = [] := by
  rw [TopicNode.resolved, servedIds, List.filterMap_eq_nil_iff, List.filter_eq_nil_iff]
  simp [← isSome_lookup_store]

/-- A filter is given to the automaton exactly if some entry listens to it. -/
theorem mem_added_iff_listens (filter : String) :
    filter ∈ (config.routes platform).added.map Prod.fst ↔
      ∃ node, config.Listens platform node filter := by
  rw [routes, mem_map_fst_added]
  constructor
  · intro h
    obtain ⟨node, hnode, hresolved, hlists⟩ := h
    exact ⟨node, hnode, hlists, mt (resolved_eq_nil_iff node).mpr hresolved⟩
  · intro h
    obtain ⟨node, hlistens⟩ := h
    exact ⟨node, hlistens.mem, mt (resolved_eq_nil_iff node).mp hlistens.served, hlistens.lists⟩

/-- Exactly the filters that some entry listens to are asked for. -/
theorem mem_subscriptions_iff (hsearch : LowerBoundSearch platform.findIterPos) (filter : String) :
    filter ∈ (config.routes platform).subscriptions ↔
      ∃ node, config.Listens platform node filter :=
  ((agree_configureMqttTopics hsearch (config.store platform) config.topics).same filter).trans
    (mem_added_iff_listens filter)

/-- The handlers a topics entry resolves emit the records it asks for. -/
theorem emit_resolved (runtime : Platform) (node : TopicNode) (message : Message) :
    ((node.resolved platform (config.store platform)).flatMap fun handler =>
      handler.calls runtime message.payload (runtime.topicTrim message.topic)
        (runtime.topicTokenizeView (runtime.topicTrim message.topic)) message.now).map
          MetricCall.emit =
      config.records runtime platform node message := by
  rw [TopicNode.resolved, records, servedIds]
  induction node.handlers.getD [] with
  | nil => rfl
  | cons id ids ih =>
    rw [List.map_cons, List.filter_cons]
    cases hserver : config.server platform (platform.trim id) with
    | none =>
      have hlookup : (config.store platform).lookup (platform.trim id) = none := by
        rw [lookup_store_eq_bind, hserver, Option.bind_none]
      simp only [List.filterMap_cons, hlookup]
      rw [ih]
      rfl
    | some entry =>
      obtain ⟨handler, hlookup, hcaptured⟩ := exists_handler_of_server hserver
      simp only [List.filterMap_cons, hlookup]
      rw [List.flatMap_cons, List.map_append, ih, Option.isSome_some, if_pos rfl,
        List.flatMap_cons, HandlerNode.emit_calls runtime platform hcaptured, metrics_metricsMap,
        readings, hserver]

end Sections

end BridgeConfig

/-- The batch expected of a client whose automaton finds the lists kept for some filters, each that
of an entry: the entries' records. -/
theorem MqttClient.expectedBatch_of_find {runtime : Platform} {platform : ConfigPlatform}
    {config : BridgeConfig} {automaton : Topics} {message : Message} {filters : List String}
    {kept : String → MqttHandlerList} {entry : String → TopicNode}
    (hfind : automaton.find (runtime.topicTrim message.topic) = filters.map kept)
    (hkept : ∀ filter ∈ filters,
      kept filter = (entry filter).resolved platform (config.store platform)) :
    (config.client platform automaton true).expectedBatch runtime message =
      if filters = [] then none
      else some (filters.flatMap fun filter =>
        config.records runtime platform (entry filter) message) := by
  have hcalls : (automaton.calls runtime message).map MetricCall.emit =
      filters.flatMap fun filter => config.records runtime platform (entry filter) message := by
    rw [Topics.calls, Topics.handlers, hfind, ← List.flatMap_def, List.flatMap_assoc,
      List.map_flatMap]
    refine List.flatMap_congr fun filter hfilter => ?_
    rw [hkept filter hfilter, BridgeConfig.emit_resolved]
  change (if true = true ∧ automaton.find _ ≠ [] then some ((automaton.calls runtime message).map _)
    else none) = _
  rw [hcalls, hfind]
  cases filters <;> simp

/-- Whatever lists an automaton keeps, a message is expected to add a batch the configuration means
for it. -/
theorem BridgeConfig.means_expectedBatch {runtime : Platform} {platform : ConfigPlatform}
    {filterMatches : String → String → Bool} {config : BridgeConfig} {automaton : Topics}
    {kept : String → MqttHandlerList}
    (hkeeps : automaton.Keeps filterMatches (config.routes platform).added kept)
    (message : Message) :
    config.Means runtime platform filterMatches message
      ((config.client platform automaton true).expectedBatch runtime message) := by
  obtain ⟨filters, hnodup, hfilters, hfind⟩ := hkeeps.find_eq (runtime.topicTrim message.topic)
  -- Each found list is that of an entry which listens to the filter.
  have hentry : ∀ filter, ∃ node, filter ∈ filters →
      config.Listens platform node filter ∧
        kept filter = node.resolved platform (config.store platform) := by
    intro filter
    by_cases hmem : filter ∈ filters
    · obtain ⟨node, hnode, hresolved, hlists, hkept⟩ :=
        (mem_added platform _ _ _).mp (hkeeps.kept_mem filter ((hfilters filter).mp hmem).1)
      exact ⟨node, fun _ => ⟨⟨hnode, hlists, mt (resolved_eq_nil_iff node).mpr hresolved⟩, hkept⟩⟩
    · exact ⟨⟨none, []⟩, fun h => absurd h hmem⟩
  choose entry hentry using hentry
  have hmem : ∀ filter, filter ∈ filters ↔ (∃ node, config.Listens platform node filter) ∧
      filterMatches filter (runtime.topicTrim message.topic) = true := fun filter => by
    rw [hfilters, mem_added_iff_listens]
  refine ⟨⟨filters, entry, hnodup, hmem, fun filter hfilter => (hentry filter hfilter).1⟩, ?_⟩
  exact (MqttClient.expectedBatch_of_find hfind fun filter hfilter =>
    (hentry filter hfilter).2).symm

/-- Each batch a configuration means for a message is the one expected of the client with some
automaton: it keeps the answer's choice and finds its filters in the answer's order. -/
theorem BridgeConfig.Answer.exists_expectedBatch {runtime : Platform} {platform : ConfigPlatform}
    {filterMatches : String → String → Bool} {config : BridgeConfig} {message : Message}
    (answer : Answer runtime platform filterMatches config message) :
    ∃ automaton kept, automaton.Keeps filterMatches (config.routes platform).added kept ∧
      (config.client platform automaton true).expectedBatch runtime message = answer.batch := by
  let kept : String → MqttHandlerList := fun filter =>
    if filter ∈ answer.filters then
      (answer.entry filter).resolved platform (config.store platform)
    else Topics.firstAdded (config.routes platform).added filter
  have hkept : ∀ filter ∈ (config.routes platform).added.map Prod.fst,
      (filter, kept filter) ∈ (config.routes platform).added := by
    intro filter hadded
    by_cases hmem : filter ∈ answer.filters
    · have hlistens := answer.listens filter hmem
      refine (mem_added platform _ _ _).mpr ⟨_, hlistens.mem,
        mt (resolved_eq_nil_iff _).mp hlistens.served, hlistens.lists, ?_⟩
      exact if_pos hmem
    · have hfirst := Topics.mem_firstAdded (config.routes platform).added filter hadded
      simpa only [kept, if_neg hmem] using hfirst
  have hfilters : ∀ filter, filter ∈ answer.filters ↔
      filter ∈ (config.routes platform).added.map Prod.fst ∧
        filterMatches filter (runtime.topicTrim message.topic) = true := fun filter => by
    rw [answer.mem_filters, mem_added_iff_listens]
  refine ⟨_, kept, Topics.keeps_ordering answer.nodup hfilters hkept, ?_⟩
  exact MqttClient.expectedBatch_of_find (if_pos rfl) fun filter hfilter => if_pos hfilter

/-- A bridge built from the configuration may add this batch for a message that comes after some
others: some automaton that holds a list added under each filter makes it do so. -/
def BridgeConfig.Publishes (runtime : Platform) (platform : ConfigPlatform)
    (filterMatches : String → String → Bool) (config : BridgeConfig) (messages : List Message)
    (message : Message) (batch : Option (List MetricData)) : Prop :=
  ∃ automaton kept, automaton.Keeps filterMatches (config.routes platform).added kept ∧
    (((config.client platform automaton true).run runtime messages).1.onMessage runtime
      message).added = batch

section Publishing

variable {runtime : Platform} {platform : ConfigPlatform} {filterMatches : String → String → Bool}
  {config : BridgeConfig} {message : Message} {batch : Option (List MetricData)}

/-- What is published is meant. -/
theorem BridgeConfig.Publishes.means (hadds : runtime.AddsNoHelp) {messages : List Message}
    (h : config.Publishes runtime platform filterMatches messages message batch) :
    config.Means runtime platform filterMatches message batch := by
  obtain ⟨automaton, kept, hkeeps, rfl⟩ := h
  rw [client, MqttClient.added_onMessage_run runtime hadds]
  exact means_expectedBatch hkeeps message

/-- What is meant may be published, whatever came before. -/
theorem BridgeConfig.Means.publishes (hadds : runtime.AddsNoHelp)
    (h : config.Means runtime platform filterMatches message batch) (messages : List Message) :
    config.Publishes runtime platform filterMatches messages message batch := by
  obtain ⟨answer, rfl⟩ := h
  obtain ⟨automaton, kept, hkeeps, hbatch⟩ := answer.exists_expectedBatch
  refine ⟨automaton, kept, hkeeps, ?_⟩
  rw [client, MqttClient.added_onMessage_run runtime hadds]
  exact hbatch

end Publishing

/-- Building the bridge preserves the meaning of its configuration. After any messages, a message
may add exactly the batches the configuration means for it: the maps of metric objects the passes
take apart, the store, the routes, the reused records and visitors leave no trace, as long as the
cache puts no help text into the batch. -/
theorem publishes_iff_means (runtime : Platform) (hadds : runtime.AddsNoHelp)
    (platform : ConfigPlatform) (filterMatches : String → String → Bool) (config : BridgeConfig)
    (messages : List Message) (message : Message) (batch : Option (List MetricData)) :
    config.Publishes runtime platform filterMatches messages message batch ↔
      config.Means runtime platform filterMatches message batch :=
  ⟨fun h => h.means hadds, fun h => h.publishes hadds messages⟩

/-- The reading of the temperature document is meant, and so it is published after any messages. -/
theorem publishes_iff_means_temperature :
    ∃ batch : List MetricData,
      batch.map (fun data => (data.id.name, data.value)) = [("room_temperature", "21.5")] ∧
        BridgeConfig.temperature.Means .reference .reference (· == ·)
          ⟨"home/kitchen", "\x7b\"temperature\": 21.5\x7d", 2⟩ (some batch) ∧
        ∀ messages, BridgeConfig.temperature.Publishes .reference .reference (· == ·) messages
          ⟨"home/kitchen", "\x7b\"temperature\": 21.5\x7d", 2⟩ (some batch) := by
  have hkeeps := Topics.keeps_firstAdded (· == ·) (BridgeConfig.temperature.routes .reference).added
  obtain ⟨batch, hvalues, hpublished⟩ : ∃ batch : List MetricData,
      batch.map (fun data => (data.id.name, data.value)) = [("room_temperature", "21.5")] ∧
        BridgeConfig.temperature.Publishes .reference .reference (· == ·) []
          ⟨"home/kitchen", "\x7b\"temperature\": 21.5\x7d", 2⟩ (some batch) :=
    ⟨_, by decide, _, _, hkeeps, rfl⟩
  have hmeans := (publishes_iff_means .reference Platform.addsNoHelp_reference .reference (· == ·)
    .temperature [] _ _).mp hpublished
  exact ⟨batch, hvalues, hmeans, fun messages => (publishes_iff_means .reference
    Platform.addsNoHelp_reference .reference (· == ·) .temperature messages _ _).mpr hmeans⟩

end MqttBridge
