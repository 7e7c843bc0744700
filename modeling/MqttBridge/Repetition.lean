import MqttBridge.Routing

/-!
# How often a message reaches a handler

The dispatch loop calls `Event` for every entry of every handler list the automaton finds. A
handler is in several of them when several filters match, and several times in one of them when
the topics entry lists its id more than once. Nothing compares the handlers with those called
before, so the number of calls is the number of listings behind the matching filters.
-/

namespace MqttBridge

/-- How often an entry lists a handler id. -/
def TopicNode.listings (platform : ConfigPlatform) (node : TopicNode) (id : String) : ℕ :=
  ((node.handlers.getD []).map platform.trim).count id

/-- Every handler is stored under its own id. -/
def MqttHandlerStore.Keyed (store : MqttHandlerStore) : Prop :=
  ∀ id handler, store.lookup id = some handler → handler.id = id

/-- A message is never handed to a handler twice, whatever came before and whichever lists the
automaton keeps. -/
def EventsAtMostOnce (runtime : Platform) (platform : ConfigPlatform)
    (filterMatches : String → String → Bool) (store : MqttHandlerStore) (nodes : List TopicNode)
    (message : Message) : Prop :=
  ∀ automaton kept,
    automaton.Keeps filterMatches (configureMqttTopics platform store nodes).added kept →
    ∀ messages, ((((MqttClient.create automaton (configureMqttTopics platform store
      nodes).subscriptions true).run runtime messages).1.onMessage runtime message).events.map
        MqttHandler.id).Nodup

/-- The handlers pass stores every handler under its own id. -/
theorem keyed_configureMqttHandlers (platform : ConfigPlatform) (nodes : Option (List HandlerNode))
    (metrics : MetricsMap) :
    MqttHandlerStore.Keyed (configureMqttHandlers platform nodes metrics).1 := by
  intro id handler hlookup
  cases nodes with
  | none => cases hlookup
  | some nodes =>
    rw [lookup_configureMqttHandlers] at hlookup
    obtain ⟨_, node, _, htrim, hcaptured⟩ := storedHandler_source hlookup
    rw [(node.captured_spec platform hcaptured).1, htrim]

/-- A stored handler is resolved once for each listing of its id. -/
theorem TopicNode.count_resolved (platform : ConfigPlatform) {store : MqttHandlerStore}
    (hkeyed : store.Keyed) (node : TopicNode) {id : String} (hid : id ∈ store) :
    ((node.resolved platform store).map MqttHandler.id).count id = node.listings platform id := by
  unfold resolved listings
  induction node.handlers.getD [] with
  | nil => rfl
  | cons listed ids ih =>
    rw [List.map_cons, List.count_cons, List.filterMap_cons]
    cases hlookup : store.lookup (platform.trim listed) with
    | none =>
      have hne : platform.trim listed ≠ id := by
        intro he
        rw [he, Finmap.lookup_eq_none] at hlookup
        exact hlookup hid
      simpa [hne] using ih
    | some handler =>
      rw [List.map_cons, List.count_cons, ih, hkeyed _ handler hlookup]

/-- A resolved handler's id is stored. -/
theorem TopicNode.id_mem_of_mem_resolved (platform : ConfigPlatform) {store : MqttHandlerStore}
    (hkeyed : store.Keyed) (node : TopicNode) {handler : MqttHandler}
    (h : handler ∈ node.resolved platform store) : handler.id ∈ store := by
  obtain ⟨listed, _, hlookup⟩ := (node.mem_resolved platform store handler).mp h
  rw [hkeyed _ handler hlookup]
  exact Finmap.mem_of_lookup_eq_some hlookup

/-- How often a message is handed to a handler. The handlers called are those of the lists kept
for the distinct matching filters that were added; each list is the one of an entry with the
filter, and has a stored handler as often as that entry lists its id. A handler's `Event` is
called that many times over all matching filters: at most once exactly if that is at most one. Each
call adds the handler's records once, one for each value it is given and each metric that reads
it, as long as the cache puts no help text into the batch. -/
theorem onMessage_events_count (runtime : Platform) (platform : ConfigPlatform)
    (filterMatches : String → String → Bool) (store : MqttHandlerStore) (hkeyed : store.Keyed)
    (nodes : List TopicNode) (automaton : Topics) (kept : String → MqttHandlerList)
    (hkeeps : automaton.Keeps filterMatches (configureMqttTopics platform store nodes).added kept)
    (messages : List Message) (message : Message) :
    let topic := runtime.topicTrim message.topic
    let delivery := ((MqttClient.create automaton (configureMqttTopics platform store
      nodes).subscriptions true).run runtime messages).1.onMessage runtime message
    ∃ filters : List String, filters.Nodup ∧
      (∀ filter, filter ∈ filters ↔
        (∃ node ∈ nodes, node.resolved platform store ≠ [] ∧ node.Lists platform filter) ∧
          filterMatches filter topic = true) ∧
      (∀ filter ∈ filters, ∃ node ∈ nodes, node.Lists platform filter ∧
        kept filter = node.resolved platform store ∧
        ∀ id ∈ store, ((kept filter).map MqttHandler.id).count id = node.listings platform id) ∧
      delivery.events = filters.flatMap kept ∧
      (∀ id ∈ store, (delivery.events.map MqttHandler.id).count id =
        (filters.map fun filter => ((kept filter).map MqttHandler.id).count id).sum) ∧
      ((delivery.events.map MqttHandler.id).Nodup ↔ ∀ id ∈ store,
        (filters.map fun filter => ((kept filter).map MqttHandler.id).count id).sum ≤ 1) ∧
      (runtime.AddsNoHelp → ∀ batch, delivery.added = some batch →
        batch = (delivery.events.flatMap fun handler => handler.calls runtime message.payload topic
          (runtime.topicTokenizeView topic) message.now).map MetricCall.emit) := by
  intro topic delivery
  obtain ⟨filters, hnodup, hfilters, hfind⟩ := hkeeps.find_eq topic
  have hevents : delivery.events = filters.flatMap kept := by
    rw [List.flatMap, ← hfind]
    exact MqttClient.events_run ..
  have hsource : ∀ filter ∈ filters, ∃ node ∈ nodes, node.resolved platform store ≠ [] ∧
      node.Lists platform filter ∧ kept filter = node.resolved platform store :=
    fun filter hfilter => exists_node_of_kept hkeeps ((hfilters filter).mp hfilter).1
  have hcount : ∀ id, (delivery.events.map MqttHandler.id).count id =
      (filters.map fun filter => ((kept filter).map MqttHandler.id).count id).sum := by
    intro id
    rw [hevents, List.map_flatMap, List.count_flatMap]
    rfl
  -- Handlers that are called are stored ones, so only stored ids need counting.
  have hstored : ∀ id, id ∉ store → (delivery.events.map MqttHandler.id).count id = 0 := by
    intro id hid
    apply List.count_eq_zero_of_not_mem
    intro hmem
    obtain ⟨handler, hhandler, rfl⟩ := List.mem_map.mp hmem
    rw [hevents, List.mem_flatMap] at hhandler
    obtain ⟨filter, hfilter, hhandler⟩ := hhandler
    obtain ⟨node, _, _, _, hkept⟩ := hsource filter hfilter
    rw [hkept] at hhandler
    exact hid (node.id_mem_of_mem_resolved platform hkeyed hhandler)
  refine ⟨filters, hnodup, fun filter => ?_, fun filter hfilter => ?_, hevents,
    fun id _ => hcount id, ?_, fun hadds batch hbatch => ?_⟩
  · rw [hfilters filter, mem_map_fst_added]
  · obtain ⟨node, hnode, _, hlists, hkept⟩ := hsource filter hfilter
    refine ⟨node, hnode, hlists, hkept, fun id hid => ?_⟩
    rw [hkept, node.count_resolved platform hkeyed hid]
  · rw [List.nodup_iff_count_le_one]
    constructor
    · intro hle id _
      rw [← hcount id]
      exact hle id
    · intro hle id
      by_cases hid : id ∈ store
      · rw [hcount id]
        exact hle id hid
      · rw [hstored id hid]
        exact Nat.zero_le 1
  · have hdelivered : delivery.events = automaton.handlers topic := MqttClient.events_run ..
    rw [hdelivered]
    exact MqttClient.added_run runtime hadds automaton _ messages message batch hbatch

/-- Whether the levels of a filter match those of a topic: `+` matches one level, a final `#` all
that remain. -/
def Topics.matchLevels : List String → TopicLevelsView → Bool
  | [], levels => levels.isEmpty
  | filter :: filters, levels =>
    if filter = "#" then filters.isEmpty
    else
      match levels with
      | [] => false
      | level :: levels => (filter = "+" || filter = level) && matchLevels filters levels

/-- Whether a filter matches a topic. -/
def Topics.wildcards (filter topic : String) : Bool :=
  matchLevels (Platform.reference.topicTokenizeView filter)
    (Platform.reference.topicTokenizeView topic)

/-- One entry with two filters for the same topic. -/
def BridgeConfig.overlapping : BridgeConfig where
  defaultTimestamp := .on
  metrics := some
    [{ metric := "inside", handlers := [{ handlerId := "a", property := some "t" }] }]
  handlers := some [{ id := "a", type := "value" }]
  topics := [{ handlers := some ["a"], subscriptions := ["home/+", "home/kitchen"] }]

/-- A message on the topic of both filters: each of their lists has the handler once, which is
called twice, so that the batch has two records. -/
theorem onMessage_events_count_overlapping :
    let routes := BridgeConfig.overlapping.routes .reference
    let kept := Topics.firstAdded routes.added
    let delivery := ((MqttClient.create (.keeping Topics.wildcards routes.added kept)
      routes.subscriptions true).run .reference []).1.onMessage .reference
        ⟨"home/kitchen", "21.5", 1⟩
    (∃ filters : List String, filters.Perm ["home/+", "home/kitchen"] ∧
      delivery.events = filters.flatMap kept ∧
      (delivery.events.map MqttHandler.id).count "a" =
        (filters.map fun filter => ((kept filter).map MqttHandler.id).count "a").sum) ∧
      (delivery.events.map MqttHandler.id).count "a" = 2 ∧
      ∀ batch, delivery.added = some batch →
        batch.map (fun data => (data.id.name, data.value)) =
          [("inside", "21.5"), ("inside", "21.5")] := by
  intro routes kept delivery
  obtain ⟨filters, hnodup, hfilters, _, hevents, hcount, _, hbatch⟩ := onMessage_events_count
    .reference .reference Topics.wildcards (BridgeConfig.overlapping.store .reference)
    (keyed_configureMqttHandlers _ _ _) BridgeConfig.overlapping.topics _ _
    (Topics.keeps_firstAdded Topics.wildcards routes.added) []
    ⟨"home/kitchen", "21.5", 1⟩
  have hadded : routes.added.map Prod.fst = ["home/+", "home/kitchen"] := by decide
  have hmatch : ∀ filter ∈ ["home/+", "home/kitchen"],
      Topics.wildcards filter (Platform.reference.topicTrim "home/kitchen") = true := by decide
  have hperm : filters.Perm ["home/+", "home/kitchen"] := by
    refine (List.perm_ext_iff_of_nodup hnodup (by decide)).mpr fun filter => ?_
    rw [hfilters, ← mem_map_fst_added, ← hadded]
    exact ⟨And.left, fun h => ⟨h, hmatch filter (hadded ▸ h)⟩⟩
  have hstored : "a" ∈ BridgeConfig.overlapping.store .reference :=
    Finmap.lookup_isSome.mp (by decide)
  have htwice := hcount "a" hstored
  refine ⟨⟨filters, hperm, hevents, htwice⟩, ?_, ?_⟩
  · exact htwice.trans ((hperm.map _).sum_eq.trans (by decide))
  · intro batch hadded
    rw [hbatch Platform.addsNoHelp_reference batch hadded]
    decide

/-- The message is handed to the entry's handler twice, once for each of the two filters. -/
theorem event_twice_overlapping :
    ¬EventsAtMostOnce .reference .reference Topics.wildcards
      (BridgeConfig.overlapping.store .reference) BridgeConfig.overlapping.topics
      ⟨"home/kitchen", "21.5", 1⟩ := by
  intro h
  have honce := h _ _ (Topics.keeps_firstAdded Topics.wildcards
    (BridgeConfig.overlapping.routes .reference).added) []
  exact absurd honce (by decide)

end MqttBridge
