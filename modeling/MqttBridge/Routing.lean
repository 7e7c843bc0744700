import MqttBridge.Provenance

/-!
# Handlers behind shared filters

Every topics entry adds its filters with only its own handlers, and the result of `add` is
ignored. When several entries share a filter, one of their handler lists is kept and the others
are lost. A handler survives in every case only behind some matching filter that is added with
it by every entry that adds the filter.
-/

namespace MqttBridge

/-- Every handler that some entry resolves, where the entry lists a filter matching the message,
has its `Event` called, whatever came before and whichever lists the automaton keeps. -/
def NoHandlerLost (runtime : Platform) (platform : ConfigPlatform)
    (filterMatches : String → String → Bool) (store : MqttHandlerStore) (nodes : List TopicNode)
    (message : Message) : Prop :=
  ∀ automaton kept,
    automaton.Keeps filterMatches (configureMqttTopics platform store nodes).added kept →
    ∀ messages, ∀ node ∈ nodes, ∀ filter, node.Lists platform filter →
      filterMatches filter (runtime.topicTrim message.topic) = true →
      ∀ handler ∈ node.resolved platform store,
        handler ∈ (((MqttClient.create automaton (configureMqttTopics platform store
          nodes).subscriptions true).run runtime messages).1.onMessage runtime message).events

/-- Every entry that adds the filter resolves the handler, and there is such an entry. -/
def TopicNode.Carried (platform : ConfigPlatform) (store : MqttHandlerStore)
    (nodes : List TopicNode) (filter : String) (handler : MqttHandler) : Prop :=
  (∃ node ∈ nodes, node.Lists platform filter ∧ handler ∈ node.resolved platform store) ∧
    ∀ node ∈ nodes, node.Lists platform filter → node.resolved platform store ≠ [] →
      handler ∈ node.resolved platform store

/-- After any messages, the handlers called for a message are those of the lists found. -/
theorem MqttClient.mem_events_run (runtime : Platform) (automaton : Topics)
    (subscriptions : List String) (messages : List Message) (message : Message)
    (handler : MqttHandler) :
    handler ∈ (((MqttClient.create automaton subscriptions true).run runtime
        messages).1.onMessage runtime message).events ↔
      ∃ handlers ∈ automaton.find (runtime.topicTrim message.topic), handler ∈ handlers := by
  rw [events_run, Topics.handlers, List.mem_flatten]

section Choices

variable {platform : ConfigPlatform} {store : MqttHandlerStore} {nodes : List TopicNode}

/-- The list kept for an added filter is the one of an entry that adds the filter. -/
theorem exists_node_of_kept {automaton : Topics} {filterMatches : String → String → Bool}
    {kept : String → MqttHandlerList} {filter : String}
    (hkeeps : automaton.Keeps filterMatches (configureMqttTopics platform store nodes).added kept)
    (hadded : filter ∈ (configureMqttTopics platform store nodes).added.map Prod.fst) :
    ∃ node ∈ nodes, node.resolved platform store ≠ [] ∧ node.Lists platform filter ∧
      kept filter = node.resolved platform store :=
  (mem_added platform store nodes _).mp (hkeeps.kept_mem filter hadded)

/-- A carried handler is in every list that may be kept for the filter. -/
theorem TopicNode.Carried.mem_kept {filter : String} {handler : MqttHandler}
    (h : TopicNode.Carried platform store nodes filter handler)
    {automaton : Topics} {filterMatches : String → String → Bool} {kept : String → MqttHandlerList}
    (hkeeps : automaton.Keeps filterMatches (configureMqttTopics platform store nodes).added kept) :
    filter ∈ (configureMqttTopics platform store nodes).added.map Prod.fst ∧
      handler ∈ kept filter := by
  obtain ⟨⟨node, hnode, hlists, hhandler⟩, hall⟩ := h
  have hadded : filter ∈ (configureMqttTopics platform store nodes).added.map Prod.fst :=
    (mem_map_fst_added ..).mpr ⟨node, hnode, List.ne_nil_of_mem hhandler, hlists⟩
  obtain ⟨other, hother, hresolved, hlists, hkept⟩ := exists_node_of_kept hkeeps hadded
  exact ⟨hadded, hkept ▸ hall other hother hlists hresolved⟩

variable (platform store nodes) in
/-- The lists an automaton may keep, chosen without a handler wherever that is possible. -/
theorem exists_kept_without (handler : MqttHandler) :
    ∃ kept : String → MqttHandlerList,
      (∀ filter ∈ (configureMqttTopics platform store nodes).added.map Prod.fst,
        (filter, kept filter) ∈ (configureMqttTopics platform store nodes).added) ∧
      ∀ filter ∈ (configureMqttTopics platform store nodes).added.map Prod.fst,
        handler ∈ kept filter → TopicNode.Carried platform store nodes filter handler := by
  have hchoice : ∀ filter, ∃ handlers : MqttHandlerList,
      filter ∈ (configureMqttTopics platform store nodes).added.map Prod.fst →
        (filter, handlers) ∈ (configureMqttTopics platform store nodes).added ∧
          (handler ∈ handlers → TopicNode.Carried platform store nodes filter handler) := by
    intro filter
    by_cases hwithout : ∃ node ∈ nodes, node.Lists platform filter ∧
        node.resolved platform store ≠ [] ∧ handler ∉ node.resolved platform store
    · obtain ⟨node, hnode, hlists, hresolved, hmissing⟩ := hwithout
      refine ⟨node.resolved platform store, fun _ => ⟨?_, fun hmem => absurd hmem hmissing⟩⟩
      exact (mem_added platform store nodes _).mpr ⟨node, hnode, hresolved, hlists, rfl⟩
    · refine ⟨Topics.firstAdded (configureMqttTopics platform store nodes).added filter,
        fun hadded => ⟨Topics.mem_firstAdded _ filter hadded, fun _ => ?_⟩⟩
      have hall : ∀ node ∈ nodes, node.Lists platform filter → node.resolved platform store ≠ [] →
          handler ∈ node.resolved platform store := by
        intro node hnode hlists hresolved
        by_contra hmissing
        exact hwithout ⟨node, hnode, hlists, hresolved, hmissing⟩
      obtain ⟨node, hnode, hresolved, hlists⟩ := (mem_map_fst_added ..).mp hadded
      exact ⟨⟨node, hnode, hlists, hall node hnode hlists hresolved⟩, hall⟩
  choose kept hkept using hchoice
  exact ⟨kept, fun filter hadded => (hkept filter hadded).1,
    fun filter hadded => (hkept filter hadded).2⟩

end Choices

/-- No handler is lost for a message exactly when each handler wanted for it is carried by some
matching filter: a filter that no entry adds without the handler. -/
theorem noHandlerLost_iff (runtime : Platform) (platform : ConfigPlatform)
    (filterMatches : String → String → Bool) (store : MqttHandlerStore) (nodes : List TopicNode)
    (message : Message) :
    NoHandlerLost runtime platform filterMatches store nodes message ↔
      ∀ node ∈ nodes, ∀ filter, node.Lists platform filter →
        filterMatches filter (runtime.topicTrim message.topic) = true →
        ∀ handler ∈ node.resolved platform store, ∃ carrier,
          filterMatches carrier (runtime.topicTrim message.topic) = true ∧
            TopicNode.Carried platform store nodes carrier handler := by
  constructor
  · intro h node hnode filter hlists hmatches handler hhandler
    -- The automaton that keeps a list without the handler wherever it may.
    obtain ⟨kept, hkept, hcarried⟩ := exists_kept_without platform store nodes handler
    have hevent := h _ kept (Topics.keeps_keeping filterMatches hkept) [] node hnode filter hlists
      hmatches handler hhandler
    obtain ⟨handlers, hfound, hmem⟩ := (MqttClient.mem_events_run ..).mp hevent
    obtain ⟨carrier, hadded, hmatches, rfl⟩ :=
      ((Topics.keeps_keeping filterMatches hkept).mem_find _ handlers).mp hfound
    exact ⟨carrier, hmatches, hcarried carrier hadded hmem⟩
  · intro h automaton kept hkeeps messages node hnode filter hlists hmatches handler hhandler
    obtain ⟨carrier, hmatches, hcarried⟩ := h node hnode filter hlists hmatches handler hhandler
    obtain ⟨hadded, hmem⟩ := hcarried.mem_kept hkeeps
    exact (MqttClient.mem_events_run ..).mpr
      ⟨kept carrier, (hkeeps.mem_find _ _).mpr ⟨carrier, hadded, hmatches, rfl⟩, hmem⟩

/-- Two entries that list the same filter for different handlers. -/
def BridgeConfig.sharedFilter : BridgeConfig where
  defaultTimestamp := .on
  metrics := some
    [{ metric := "inside", handlers := [{ handlerId := "a", property := some "t" }] },
     { metric := "outside", handlers := [{ handlerId := "b", property := some "t" }] }]
  handlers := some [{ id := "a", type := "value" }, { id := "b", type := "value" }]
  topics :=
    [{ handlers := some ["a"], subscriptions := ["home/kitchen"] },
     { handlers := some ["b"], subscriptions := ["home/kitchen"] }]

/-- With two entries for one filter, a message reaches only one of their handlers. -/
theorem handler_lost_sharedFilter :
    ¬NoHandlerLost .reference .reference (· == ·) (BridgeConfig.sharedFilter.store .reference)
      BridgeConfig.sharedFilter.topics ⟨"home/kitchen", "21.5", 1⟩ := by
  intro h
  have hids : ∀ handler ∈ (((MqttClient.create (.keeping (· == ·)
        (BridgeConfig.sharedFilter.routes .reference).added
        (Topics.firstAdded (BridgeConfig.sharedFilter.routes .reference).added))
        (BridgeConfig.sharedFilter.routes .reference).subscriptions true).run .reference
        []).1.onMessage .reference ⟨"home/kitchen", "21.5", 1⟩).events,
      handler.id = "a" := by decide
  obtain ⟨handler, hlookup, hid⟩ : ∃ handler,
      (BridgeConfig.sharedFilter.store .reference).lookup "b" = some handler ∧ handler.id = "b" :=
    ⟨_, rfl, by decide⟩
  have hevent := h _ _ (Topics.keeps_firstAdded (· == ·)
    (BridgeConfig.sharedFilter.routes .reference).added) []
    { handlers := some ["b"], subscriptions := ["home/kitchen"] } (by decide) "home/kitchen"
    ⟨⟨"home/kitchen", by decide, by decide⟩, by decide⟩ (by decide) handler
    ((TopicNode.mem_resolved ..).mpr ⟨"b", by decide, hlookup⟩)
  exact absurd ((hids handler hevent).symm.trans hid) (by decide)

end MqttBridge
