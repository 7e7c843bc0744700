import Mathlib.Data.List.Sort
import MqttBridge.Client
import MqttBridge.ConfigureHandlers

/-!
# The topics section

`configure_mqtt_topics` gives each valid filter of an entry to the topics automaton with the
entry's handlers, and keeps the filters in a vector of subscriptions. New subscriptions are
inserted by binary search, which is right only in an increasing vector; the inserted position
keeps the vector increasing for the filters of all later entries.
-/

namespace MqttBridge

/-- One entry of the topics section. -/
structure TopicNode where
  handlers : Option (List String)
  subscriptions : List String
deriving DecidableEq, Repr

/-- The subscriptions vector, and the calls of `topics_config.add` so far. -/
structure MqttTopics where
  subscriptions : List String
  added : List (String × MqttHandlerList)

/-- `do_add_handler` for each listed handler id that `find_value` finds in the store. -/
def findHandlers (platform : ConfigPlatform) (store : MqttHandlerStore) (ids : List String) :
    MqttHandlerList :=
  ids.foldl (fun handlers id =>
    match store.lookup (platform.trim id) with
    | none => handlers
    | some handler => handlers ++ [handler]) []

/-- The set of an entry's valid filters. -/
def findFilters (platform : ConfigPlatform) (subscriptions : List String) : FlatSet String :=
  subscriptions.foldl (fun filters subscription =>
    let topic := platform.topicTrim subscription
    if platform.topicValidate topic then (filters.emplace topic).1 else filters) ∅

/-- One turn of the filter loop: route the filter, and subscribe to it unless that is done. -/
def MqttTopics.addFilter (platform : ConfigPlatform) (handlers : MqttHandlerList)
    (topics : MqttTopics) (filter : String) : MqttTopics :=
  let found := platform.findIterPos topics.subscriptions filter
  { subscriptions :=
      if found.2 then topics.subscriptions else topics.subscriptions.insertIdx found.1 filter
    added := topics.added ++ [(filter, handlers)] }

/-- One turn of the entry loop. -/
def MqttTopics.addNode (platform : ConfigPlatform) (store : MqttHandlerStore) (topics : MqttTopics)
    (node : TopicNode) : MqttTopics :=
  match node.handlers with
  | none => topics
  | some ids =>
    let handlers := findHandlers platform store ids
    if handlers.isEmpty then topics
    else (findFilters platform node.subscriptions).elems.foldl
      (MqttTopics.addFilter platform handlers) topics

/-- `configure_mqtt_topics`, before the automaton is created from the added filters. -/
def configureMqttTopics (platform : ConfigPlatform) (store : MqttHandlerStore)
    (nodes : List TopicNode) : MqttTopics :=
  nodes.foldl (MqttTopics.addNode platform store) ⟨[], []⟩

namespace TopicNode

/-- The handlers an entry resolves in the store, in the order it lists them. -/
def resolved (platform : ConfigPlatform) (store : MqttHandlerStore) (node : TopicNode) :
    MqttHandlerList :=
  (node.handlers.getD []).filterMap fun id => store.lookup (platform.trim id)

/-- An entry lists a filter: some subscription has it as trimmed text, and it is valid. -/
def Lists (platform : ConfigPlatform) (node : TopicNode) (filter : String) : Prop :=
  (∃ subscription ∈ node.subscriptions, platform.topicTrim subscription = filter) ∧
    platform.topicValidate filter = true

/-- The `add` calls of an entry: its filters in increasing order, each with all its resolved
handlers; none without a resolved handler. -/
def adds (platform : ConfigPlatform) (store : MqttHandlerStore) (node : TopicNode) :
    List (String × MqttHandlerList) :=
  if node.resolved platform store = [] then []
  else (findFilters platform node.subscriptions).elems.map fun filter =>
    (filter, node.resolved platform store)

end TopicNode

section Entries

variable (platform : ConfigPlatform) (store : MqttHandlerStore)

/-- The handlers found are those that resolve, in listed order. -/
theorem findHandlers_eq (ids : List String) :
    findHandlers platform store ids = ids.filterMap fun id => store.lookup (platform.trim id) := by
  unfold findHandlers
  induction ids using List.reverseRecOn with
  | nil => rfl
  | append_singleton ids id ih =>
    rw [List.foldl_append, ih, List.filterMap_append]
    cases hlookup : store.lookup (platform.trim id) <;> simp [hlookup]

/-- The filters found are the valid trimmed texts. -/
theorem mem_findFilters (subscriptions : List String) (filter : String) :
    filter ∈ findFilters platform subscriptions ↔
      (∃ subscription ∈ subscriptions, platform.topicTrim subscription = filter) ∧
        platform.topicValidate filter = true := by
  unfold findFilters
  induction subscriptions using List.reverseRecOn with
  | nil => simp
  | append_singleton subscriptions subscription ih =>
    rw [List.foldl_append, List.foldl_cons, List.foldl_nil]
    dsimp only
    have hlast : (∃ s ∈ subscriptions ++ [subscription], platform.topicTrim s = filter) ↔
        (∃ s ∈ subscriptions, platform.topicTrim s = filter) ∨
          platform.topicTrim subscription = filter := by
      simp only [List.mem_append, List.mem_singleton, or_and_right, exists_or, exists_eq_left]
    rw [hlast]
    by_cases hvalid : platform.topicValidate (platform.topicTrim subscription) = true
    · rw [if_pos hvalid, FlatSet.mem_emplace, ih]
      constructor
      · intro hmem
        obtain (rfl | ⟨hold, hfilter⟩) := hmem
        · exact ⟨Or.inr rfl, hvalid⟩
        · exact ⟨Or.inl hold, hfilter⟩
      · intro hmem
        obtain ⟨hold | rfl, hfilter⟩ := hmem
        · exact Or.inr ⟨hold, hfilter⟩
        · exact Or.inl rfl
    · rw [if_neg hvalid, ih]
      constructor
      · intro hmem
        obtain ⟨hold, hfilter⟩ := hmem
        exact ⟨Or.inl hold, hfilter⟩
      · intro hmem
        obtain ⟨hold | rfl, hfilter⟩ := hmem
        · exact ⟨hold, hfilter⟩
        · exact absurd hfilter hvalid

/-- An entry's filter loop, in terms of its `add` calls. -/
theorem MqttTopics.addNode_eq (topics : MqttTopics) (node : TopicNode) :
    topics.addNode platform store node =
      (node.adds platform store).foldl (fun topics add => topics.addFilter platform add.2 add.1)
        topics := by
  unfold addNode TopicNode.adds TopicNode.resolved
  cases node.handlers with
  | none => rfl
  | some ids =>
    dsimp only
    rw [findHandlers_eq, Option.getD_some]
    by_cases hempty : (ids.filterMap fun id => store.lookup (platform.trim id)) = []
    · rw [if_pos (by rw [hempty]; rfl), if_pos hempty]
      rfl
    · rw [if_neg (by simpa using hempty), if_neg hempty, List.foldl_map]

/-- The whole pass, in terms of the `add` calls of all entries. -/
theorem configureMqttTopics_eq (nodes : List TopicNode) :
    configureMqttTopics platform store nodes =
      (nodes.flatMap (TopicNode.adds platform store)).foldl
        (fun topics add => topics.addFilter platform add.2 add.1) ⟨[], []⟩ := by
  unfold configureMqttTopics
  rw [List.foldl_flatMap]
  congr 1
  funext topics node
  exact topics.addNode_eq platform store node

end Entries

/-- The subscriptions are increasing and are the filters added so far. -/
structure MqttTopics.Agree (topics : MqttTopics) : Prop where
  sorted : topics.subscriptions.Pairwise (· < ·)
  same : ∀ filter, filter ∈ topics.subscriptions ↔ filter ∈ topics.added.map Prod.fst

/-- One `add` call keeps subscriptions and routes in agreement, wherever the search puts the
filter. -/
theorem MqttTopics.Agree.addFilter {platform : ConfigPlatform}
    (hsearch : LowerBoundSearch platform.findIterPos) {topics : MqttTopics} (h : topics.Agree)
    (handlers : MqttHandlerList) (filter : String) :
    (topics.addFilter platform handlers filter).Agree := by
  have hfound := hsearch topics.subscriptions filter h.sorted
  by_cases hmem : filter ∈ topics.subscriptions
  · have hsame : (topics.addFilter platform handlers filter).subscriptions =
        topics.subscriptions := by simp [MqttTopics.addFilter, hfound, hmem]
    refine ⟨by rw [hsame]; exact h.sorted, fun f => ?_⟩
    rw [hsame, h.same, MqttTopics.addFilter, List.map_append, List.mem_append]
    refine ⟨Or.inl, fun hf => hf.elim (fun hold => hold) fun hnew => ?_⟩
    rw [List.map_singleton, List.mem_singleton] at hnew
    rw [hnew]
    exact (h.same filter).mp hmem
  · have hinsert : (topics.addFilter platform handlers filter).subscriptions =
        topics.subscriptions.insertIdx (lowerBound topics.subscriptions filter) filter := by
      simp [MqttTopics.addFilter, hfound, hmem]
    refine ⟨by rw [hinsert]; exact pairwise_insertIdx_lowerBound _ _ h.sorted hmem, fun f => ?_⟩
    rw [hinsert, mem_insertIdx_lowerBound, h.same, MqttTopics.addFilter, List.map_append,
      List.mem_append, List.map_singleton, List.mem_singleton, or_comm]

/-- Any sequence of `add` calls keeps the agreement. -/
theorem MqttTopics.Agree.foldl_addFilter {platform : ConfigPlatform}
    (hsearch : LowerBoundSearch platform.findIterPos) (adds : List (String × MqttHandlerList))
    {topics : MqttTopics} (h : topics.Agree) :
    (adds.foldl (fun topics add => topics.addFilter platform add.2 add.1) topics).Agree := by
  induction adds generalizing topics with
  | nil => exact h
  | cons add adds ih => exact ih (h.addFilter hsearch add.2 add.1)

/-- Any sequence of `add` calls is recorded as it is. -/
theorem MqttTopics.added_foldl_addFilter (platform : ConfigPlatform)
    (adds : List (String × MqttHandlerList)) (topics : MqttTopics) :
    (adds.foldl (fun topics add => topics.addFilter platform add.2 add.1) topics).added =
      topics.added ++ adds := by
  induction adds generalizing topics with
  | nil => simp
  | cons add adds ih =>
    rw [List.foldl_cons, ih, MqttTopics.addFilter, List.append_assoc]
    rfl

/-- The automaton is given the `add` calls of all entries, in order. -/
theorem added_configureMqttTopics (platform : ConfigPlatform) (store : MqttHandlerStore)
    (nodes : List TopicNode) :
    (configureMqttTopics platform store nodes).added =
      nodes.flatMap (TopicNode.adds platform store) := by
  rw [configureMqttTopics_eq, MqttTopics.added_foldl_addFilter, List.nil_append]

/-- What is subscribed to and what is routed agree after the pass. -/
theorem agree_configureMqttTopics {platform : ConfigPlatform}
    (hsearch : LowerBoundSearch platform.findIterPos) (store : MqttHandlerStore)
    (nodes : List TopicNode) : (configureMqttTopics platform store nodes).Agree := by
  have hempty : MqttTopics.Agree ⟨[], []⟩ := ⟨List.Pairwise.nil, fun _ => Iff.rfl⟩
  rw [configureMqttTopics_eq]
  exact hempty.foldl_addFilter hsearch (nodes.flatMap (TopicNode.adds platform store))

/-- The filters of an entry's `add` calls, and the handlers they carry. -/
theorem TopicNode.mem_adds (platform : ConfigPlatform) (store : MqttHandlerStore) (node : TopicNode)
    (add : String × MqttHandlerList) :
    add ∈ node.adds platform store ↔
      node.resolved platform store ≠ [] ∧ node.Lists platform add.1 ∧
        add.2 = node.resolved platform store := by
  unfold adds
  split
  · rename_i hempty
    simp [hempty]
  · rename_i hresolved
    rw [List.mem_map]
    constructor
    · intro hmem
      obtain ⟨filter, hfilter, rfl⟩ := hmem
      exact ⟨hresolved, (mem_findFilters platform node.subscriptions filter).mp hfilter, rfl⟩
    · intro hmem
      obtain ⟨_, hlists, hhandlers⟩ := hmem
      exact ⟨add.1, (mem_findFilters platform node.subscriptions add.1).mpr hlists,
        by rw [← hhandlers]⟩

/-- Every `add` call is made for an entry that lists the filter, with all handlers the entry
resolves, and is made for every such entry. -/
theorem mem_added (platform : ConfigPlatform) (store : MqttHandlerStore) (nodes : List TopicNode)
    (add : String × MqttHandlerList) :
    add ∈ (configureMqttTopics platform store nodes).added ↔
      ∃ node ∈ nodes, node.resolved platform store ≠ [] ∧ node.Lists platform add.1 ∧
        add.2 = node.resolved platform store := by
  rw [added_configureMqttTopics, List.mem_flatMap]
  simp only [TopicNode.mem_adds]

/-- The filters that are added are those listed by an entry with a resolved handler. -/
theorem mem_map_fst_added (platform : ConfigPlatform) (store : MqttHandlerStore)
    (nodes : List TopicNode) (filter : String) :
    filter ∈ (configureMqttTopics platform store nodes).added.map Prod.fst ↔
      ∃ node ∈ nodes, node.resolved platform store ≠ [] ∧ node.Lists platform filter := by
  rw [List.mem_map]
  constructor
  · intro hfilter
    obtain ⟨add, hadd, rfl⟩ := hfilter
    obtain ⟨node, hnode, hresolved, hlists, _⟩ := (mem_added platform store nodes add).mp hadd
    exact ⟨node, hnode, hresolved, hlists⟩
  · intro hnode
    obtain ⟨node, hnode, hresolved, hlists⟩ := hnode
    have hadd := (mem_added platform store nodes (filter, node.resolved platform store)).mpr
      ⟨node, hnode, hresolved, hlists, rfl⟩
    exact ⟨_, hadd, rfl⟩

/-- A resolved handler is stored under one of the listed ids. -/
theorem TopicNode.mem_resolved (platform : ConfigPlatform) (store : MqttHandlerStore)
    (node : TopicNode) (handler : MqttHandler) :
    handler ∈ node.resolved platform store ↔
      ∃ id ∈ node.handlers.getD [], store.lookup (platform.trim id) = some handler :=
  List.mem_filterMap

/-- An entry without its invalid subscriptions. -/
def TopicNode.onlyValid (platform : ConfigPlatform) (node : TopicNode) : TopicNode :=
  { node with subscriptions := node.subscriptions.filter fun subscription =>
      platform.topicValidate (platform.topicTrim subscription) }

/-- Invalid subscriptions make no filter. -/
theorem TopicNode.adds_onlyValid (platform : ConfigPlatform) (store : MqttHandlerStore)
    (node : TopicNode) :
    (node.onlyValid platform).adds platform store = node.adds platform store := by
  have hfilters : findFilters platform (node.onlyValid platform).subscriptions =
      findFilters platform node.subscriptions := by
    unfold findFilters onlyValid
    rw [List.foldl_filter]
    congr 1
    funext filters subscription
    by_cases hvalid : platform.topicValidate (platform.topicTrim subscription) = true <;>
      simp [hvalid]
  unfold adds
  rw [hfilters]
  rfl

/-- What is subscribed and what is routed agree, for any topics section and store. The
subscriptions are strictly increasing; a filter is among them exactly when an entry with a
resolved handler lists it; the filters given to the automaton are the same set, and each `add`
call carries all resolved handlers of an entry that lists the filter. Entries without a resolved
handler and invalid filters contribute nothing. The client subscribes to this vector whenever it
connects, after any messages. -/
theorem configureMqttTopics_agree (platform : ConfigPlatform)
    (hsearch : LowerBoundSearch platform.findIterPos) (store : MqttHandlerStore)
    (nodes : List TopicNode) :
    let topics := configureMqttTopics platform store nodes
    topics.subscriptions.Pairwise (· < ·) ∧
      (∀ filter, filter ∈ topics.subscriptions ↔
        ∃ node ∈ nodes, node.resolved platform store ≠ [] ∧ node.Lists platform filter) ∧
      (∀ filter, filter ∈ topics.subscriptions ↔ filter ∈ topics.added.map Prod.fst) ∧
      topics.added = nodes.flatMap (TopicNode.adds platform store) ∧
      (∀ add ∈ topics.added, ∃ node ∈ nodes, node.Lists platform add.1 ∧
        add.2 = node.resolved platform store ∧ add.2 ≠ [] ∧
        ∀ handler ∈ add.2, ∃ id ∈ node.handlers.getD [],
          store.lookup (platform.trim id) = some handler) ∧
      (∀ before node after, nodes = before ++ node :: after → node.resolved platform store = [] →
        configureMqttTopics platform store (before ++ after) = topics) ∧
      configureMqttTopics platform store (nodes.map (TopicNode.onlyValid platform)) = topics ∧
      ∀ runtime automaton metricCache messages,
        ((MqttClient.create automaton topics.subscriptions metricCache).run runtime
          messages).1.onConnect = topics.subscriptions := by
  intro topics
  have hempty : MqttTopics.Agree ⟨[], []⟩ := ⟨List.Pairwise.nil, fun _ => Iff.rfl⟩
  have hloop := hempty.foldl_addFilter hsearch (nodes.flatMap (TopicNode.adds platform store))
  rw [← configureMqttTopics_eq] at hloop
  obtain ⟨hsorted, hsame⟩ := hloop
  have hadded := added_configureMqttTopics platform store nodes
  refine ⟨hsorted, fun filter => ?_, hsame, hadded, fun add hadd => ?_,
    fun before node after hnodes hempty => ?_, ?_, fun runtime automaton metricCache messages =>
      (MqttClient.run_config runtime messages _).2.1⟩
  · exact (hsame filter).trans (mem_map_fst_added platform store nodes filter)
  · obtain ⟨node, hnode, hresolved, hlists, hhandlers⟩ :=
      (mem_added platform store nodes add).mp hadd
    refine ⟨node, hnode, hlists, hhandlers, hhandlers ▸ hresolved, fun handler hhandler => ?_⟩
    rw [hhandlers] at hhandler
    exact (node.mem_resolved platform store handler).mp hhandler
  · have hnone : node.adds platform store = [] := if_pos hempty
    have htopics : topics = configureMqttTopics platform store nodes := rfl
    rw [htopics, configureMqttTopics_eq, configureMqttTopics_eq, hnodes, List.flatMap_append,
      List.flatMap_append, List.flatMap_cons, hnone, List.nil_append]
  · have htopics : topics = configureMqttTopics platform store nodes := rfl
    rw [htopics, configureMqttTopics_eq, configureMqttTopics_eq, List.flatMap_map]
    simp only [TopicNode.adds_onlyValid]

/-- A value handler with one metric, as the handlers pass stores it. -/
def MqttHandlerStore.sensor : MqttHandlerStore :=
  (configureMqttHandlers .reference (some [{ id := "sensor", type := "value" }])
    (configurePrometheusMetrics .reference
      (some [{ metric := "inside", handlers := [{ handlerId := "sensor", property := some "t" }] }])
      .on)).1

/-- Two entries that share a filter, one of them with an unknown handler id, and an entry without
handlers: two subscriptions, for three `add` calls that each carry the handler. -/
theorem configureMqttTopics_agree_shared :
    let topics := configureMqttTopics .reference .sensor
      [⟨some ["sensor"], ["home/b", " home/a"]⟩, ⟨some ["unknown", " sensor "], ["home/b"]⟩,
        ⟨none, ["home/c"]⟩]
    topics.subscriptions = ["home/a", "home/b"] ∧
      (∀ filter, filter ∈ topics.subscriptions ↔ filter ∈ topics.added.map Prod.fst) ∧
      topics.added.map (fun add => (add.1, add.2.map MqttHandler.id)) =
        [("home/a", ["sensor"]), ("home/b", ["sensor"]), ("home/b", ["sensor"])] := by
  intro topics
  obtain ⟨hsorted, _, hsame, hadded, _⟩ := configureMqttTopics_agree .reference
    (fun _ _ _ => rfl) .sensor
    [⟨some ["sensor"], ["home/b", " home/a"]⟩, ⟨some ["unknown", " sensor "], ["home/b"]⟩,
      ⟨none, ["home/c"]⟩]
  have hadds : topics.added.map (fun add => (add.1, add.2.map MqttHandler.id)) =
      [("home/a", ["sensor"]), ("home/b", ["sensor"]), ("home/b", ["sensor"])] := by
    rw [hadded]
    decide
  have hfilters : topics.added.map Prod.fst = ["home/a", "home/b", "home/b"] := by
    rw [hadded]
    decide
  refine ⟨?_, hsame, hadds⟩
  -- An increasing vector is known by its members.
  have hmem : ∀ filter, filter ∈ topics.subscriptions ↔ filter ∈ ["home/a", "home/b"] := by
    intro filter
    rw [hsame, hfilters]
    simp
  have hincreasing : ["home/a", "home/b"].Pairwise (· < ·) := by decide
  exact hsorted.eq_of_mem_iff hincreasing hmem

end MqttBridge
