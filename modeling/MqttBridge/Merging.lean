import MqttBridge.Interpretation
import MqttBridge.Repetition

/-!
# Two configurations in one file

Configurations that have no handler id and no listened-to filter in common can be put into one file,
section by section. The passes then fill one map of metrics, one store and one set of routes from
both; what a message publishes is what it publishes under either of them. A filter that both listen
to would be kept for one of them only.
-/

namespace MqttBridge

namespace BridgeConfig

/-- The entries of two configurations, section by section. -/
def append (config config' : BridgeConfig) : BridgeConfig where
  defaultTimestamp := config.defaultTimestamp
  metrics := some (config.metrics.getD [] ++ config'.metrics.getD [])
  handlers := some (config.handlers.getD [] ++ config'.handlers.getD [])
  topics := config.topics ++ config'.topics

/-- The handler ids that occur in a configuration. -/
def ids (platform : ConfigPlatform) (config : BridgeConfig) : List String :=
  ((config.metrics.getD []).flatMap fun node =>
      node.handlers.map fun entry => platform.trim entry.handlerId) ++
    (config.handlers.getD []).map (fun node => platform.trim node.id) ++
    config.topics.flatMap fun node => (node.handlers.getD []).map platform.trim

/-- Two configurations share neither a handler id nor a listened-to filter. -/
structure Separate (platform : ConfigPlatform) (config config' : BridgeConfig) : Prop where
  defaultTimestamp : config.defaultTimestamp = config'.defaultTimestamp
  ids : ∀ id ∈ config.ids platform, id ∉ config'.ids platform
  filters : ∀ filter node node', config.Listens platform node filter →
    ¬config'.Listens platform node' filter

section Ids

variable {platform : ConfigPlatform} {config : BridgeConfig} {id : String}

/-- An id that does not occur has no metrics. -/
theorem metricsOf_eq_nil (hid : id ∉ config.ids platform) : config.metricsOf platform id = [] := by
  refine List.filterMap_eq_nil_iff.mpr fun node hnode => ?_
  have hnone : (node.handlers.find? fun entry => platform.trim entry.handlerId = id) = none := by
    refine List.find?_eq_none.mpr fun entry hentry heq => hid ?_
    have htrim : platform.trim entry.handlerId = id := by simpa using heq
    refine List.mem_append_left _ (List.mem_append_left _ (List.mem_flatMap.mpr ⟨node, hnode, ?_⟩))
    exact List.mem_map.mpr ⟨entry, hentry, htrim⟩
  rw [MetricNode.listed, hnone, Option.bind_none]

/-- No handlers entry has it. -/
theorem trim_ne_of_notMem (hid : id ∉ config.ids platform) :
    ∀ node ∈ config.handlers.getD [], platform.trim node.id ≠ id := fun node hnode heq =>
  hid (List.mem_append_left _ (List.mem_append_right _ (List.mem_map.mpr ⟨node, hnode, heq⟩)))

/-- The ids a topics entry names occur. -/
theorem mem_ids_of_named {node : TopicNode} (hnode : node ∈ config.topics) :
    ∀ id ∈ (node.handlers.getD []).map platform.trim, id ∈ config.ids platform := fun _ hid =>
  List.mem_append_right _ (List.mem_flatMap.mpr ⟨node, hnode, hid⟩)

end Ids

section Append

variable {platform : ConfigPlatform} {config config' : BridgeConfig} {id : String}

/-- An id has the metrics of both. -/
theorem metricsOf_append (h : config.Separate platform config') (id : String) :
    (config.append config').metricsOf platform id =
      config.metricsOf platform id ++ config'.metricsOf platform id := by
  unfold metricsOf append
  rw [Option.getD_some, List.filterMap_append, h.defaultTimestamp]

/-- An id that does not occur in the second configuration has the metrics of the first one. -/
theorem metricsOf_append_left (h : config.Separate platform config')
    (hid : id ∉ config'.ids platform) :
    (config.append config').metricsOf platform id = config.metricsOf platform id := by
  rw [metricsOf_append h, metricsOf_eq_nil hid, List.append_nil]

/-- One that does not occur in the first configuration has those of the second one. -/
theorem metricsOf_append_right (h : config.Separate platform config')
    (hid : id ∉ config.ids platform) :
    (config.append config').metricsOf platform id = config'.metricsOf platform id := by
  rw [metricsOf_append h, metricsOf_eq_nil hid, List.nil_append]

/-- An id that does not occur in the second configuration is served by the first one. -/
theorem server_append_left (h : config.Separate platform config')
    (hid : id ∉ config'.ids platform) :
    (config.append config').server platform id = config.server platform id := by
  unfold server
  rw [metricsOf_append_left h hid]
  split
  · rfl
  · have hnone : ((config'.handlers.getD []).find? fun node => platform.trim node.id = id ∧
        ∃ metric ∈ config.metricsOf platform id, node.Takes platform metric.property) = none :=
      List.find?_eq_none.mpr fun node hnode => by simp [trim_ne_of_notMem hid node hnode]
    rw [append, Option.getD_some, List.find?_append, hnone, Option.or_none]

/-- One that does not occur in the first configuration is served by the second one. -/
theorem server_append_right (h : config.Separate platform config')
    (hid : id ∉ config.ids platform) :
    (config.append config').server platform id = config'.server platform id := by
  unfold server
  rw [metricsOf_append_right h hid]
  split
  · rfl
  · have hnone : ((config.handlers.getD []).find? fun node => platform.trim node.id = id ∧
        ∃ metric ∈ config'.metricsOf platform id, node.Takes platform metric.property) = none :=
      List.find?_eq_none.mpr fun node hnode => by simp [trim_ne_of_notMem hid node hnode]
    rw [append, Option.getD_some, List.find?_append, hnone, Option.none_or]

variable {node : TopicNode}

/-- An entry of the first configuration names no id of the second one. -/
theorem Separate.named_left (h : config.Separate platform config') (hnode : node ∈ config.topics) :
    ∀ id ∈ (node.handlers.getD []).map platform.trim, id ∉ config'.ids platform := fun id hid =>
  h.ids id (mem_ids_of_named hnode id hid)

/-- Nor does an entry of the second one name an id of the first. -/
theorem Separate.named_right (h : config.Separate platform config')
    (hnode : node ∈ config'.topics) :
    ∀ id ∈ (node.handlers.getD []).map platform.trim, id ∉ config.ids platform :=
  fun id hid hmem => h.ids id hmem (mem_ids_of_named hnode id hid)

/-- An entry asks for the records it asks for in its own configuration. -/
theorem records_append (h : config.Separate platform config') (runtime : Platform)
    (message : Message) :
    (node ∈ config.topics → (config.append config').records runtime platform node message =
        config.records runtime platform node message) ∧
      (node ∈ config'.topics → (config.append config').records runtime platform node message =
        config'.records runtime platform node message) :=
  ⟨fun hnode => records_congr runtime
      (fun id hid => server_append_left h (h.named_left hnode id hid))
      (fun id hid => metricsOf_append_left h (h.named_left hnode id hid)) message,
    fun hnode => records_congr runtime
      (fun id hid => server_append_right h (h.named_right hnode id hid))
      (fun id hid => metricsOf_append_right h (h.named_right hnode id hid)) message⟩

/-- An entry listens to a filter exactly if it does in one of the configurations. -/
theorem listens_append_iff (h : config.Separate platform config') (filter : String) :
    (config.append config').Listens platform node filter ↔
      config.Listens platform node filter ∨ config'.Listens platform node filter := by
  have hleft : node ∈ config.topics →
      (config.append config').servedIds platform node = config.servedIds platform node :=
    fun hnode => servedIds_congr fun id hid => server_append_left h (h.named_left hnode id hid)
  have hright : node ∈ config'.topics →
      (config.append config').servedIds platform node = config'.servedIds platform node :=
    fun hnode => servedIds_congr fun id hid => server_append_right h (h.named_right hnode id hid)
  constructor
  · intro hlistens
    rcases List.mem_append.mp hlistens.mem with hnode | hnode
    · exact Or.inl ⟨hnode, hlistens.lists, hleft hnode ▸ hlistens.served⟩
    · exact Or.inr ⟨hnode, hlistens.lists, hright hnode ▸ hlistens.served⟩
  · intro hlistens
    rcases hlistens with hlistens | hlistens
    · exact ⟨List.mem_append_left _ hlistens.mem, hlistens.lists,
        (hleft hlistens.mem).symm ▸ hlistens.served⟩
    · exact ⟨List.mem_append_right _ hlistens.mem, hlistens.lists,
        (hright hlistens.mem).symm ▸ hlistens.served⟩

end Append

/-- Batches of two parts, where a part may be missing. -/
theorem merge_batches {α β : Type*} (filters filters' : List α) (records records' : α → List β) :
    (if filters = [] then none else some (filters.flatMap records)).merge (· ++ ·)
        (if filters' = [] then none else some (filters'.flatMap records')) =
      if filters ++ filters' = [] then none
      else some (filters.flatMap records ++ filters'.flatMap records') := by
  cases filters <;> cases filters' <;> simp [Option.merge]

section Answers

variable {runtime : Platform} {platform : ConfigPlatform}
  {filterMatches : String → String → Bool} {config config' : BridgeConfig} {message : Message}

/-- Entries that listen in the first configuration ask for its records in the merged one. -/
theorem flatMap_records_left (h : config.Separate platform config') {filters : List String}
    {entry entry' : String → TopicNode}
    (hlistens : ∀ filter ∈ filters, config.Listens platform (entry filter) filter)
    (hentry : ∀ filter ∈ filters, entry' filter = entry filter) :
    (filters.flatMap fun filter =>
        (config.append config').records runtime platform (entry' filter) message) =
      filters.flatMap fun filter => config.records runtime platform (entry filter) message :=
  List.flatMap_congr fun filter hfilter => by
    rw [hentry filter hfilter]
    exact (records_append h runtime message).1 (hlistens filter hfilter).mem

/-- And those that listen in the second one ask for the records of that one. -/
theorem flatMap_records_right (h : config.Separate platform config') {filters : List String}
    {entry entry' : String → TopicNode}
    (hlistens : ∀ filter ∈ filters, config'.Listens platform (entry filter) filter)
    (hentry : ∀ filter ∈ filters, entry' filter = entry filter) :
    (filters.flatMap fun filter =>
        (config.append config').records runtime platform (entry' filter) message) =
      filters.flatMap fun filter => config'.records runtime platform (entry filter) message :=
  List.flatMap_congr fun filter hfilter => by
    rw [hentry filter hfilter]
    exact (records_append h runtime message).2 (hlistens filter hfilter).mem

/-- Answers of both configurations make one of the merged one, first those of the first. -/
theorem Means.append (h : config.Separate platform config')
    {batch batch' : Option (List MetricData)}
    (hmeans : config.Means runtime platform filterMatches message batch)
    (hmeans' : config'.Means runtime platform filterMatches message batch') :
    (config.append config').Means runtime platform filterMatches message
      (batch.merge (· ++ ·) batch') := by
  obtain ⟨answer, rfl⟩ := hmeans
  obtain ⟨answer', rfl⟩ := hmeans'
  let entry : String → TopicNode := fun filter =>
    if filter ∈ answer.filters then answer.entry filter else answer'.entry filter
  have hdisjoint : ∀ filter ∈ answer'.filters, filter ∉ answer.filters := fun filter hright hleft =>
    h.filters filter _ _ (answer.listens filter hleft) (answer'.listens filter hright)
  have hentry : ∀ filter ∈ answer'.filters, entry filter = answer'.entry filter :=
    fun filter hright => if_neg (hdisjoint filter hright)
  have hentry' : ∀ filter ∈ answer.filters, entry filter = answer.entry filter :=
    fun filter hleft => if_pos hleft
  refine ⟨{
    filters := answer.filters ++ answer'.filters
    entry := entry
    nodup := List.nodup_append.mpr ⟨answer.nodup, answer'.nodup, ?_⟩
    mem_filters := fun filter => ?_
    listens := fun filter hfilter => ?_ }, ?_⟩
  · rintro filter hleft _ hright rfl
    exact hdisjoint filter hright hleft
  · simp only [List.mem_append, answer.mem_filters, answer'.mem_filters, listens_append_iff h,
      exists_or, or_and_right]
  · rw [listens_append_iff h]
    rcases List.mem_append.mp hfilter with hleft | hright
    · exact Or.inl (hentry' filter hleft ▸ answer.listens filter hleft)
    · exact Or.inr (hentry filter hright ▸ answer'.listens filter hright)
  · rw [Answer.batch, Answer.batch, Answer.batch, merge_batches]
    dsimp only
    rw [List.flatMap_append, flatMap_records_left h answer.listens hentry',
      flatMap_records_right h answer'.listens hentry]

/-- The part of an answer to some of its filters is an answer of the configuration they belong
to. -/
def Answer.part {merged : BridgeConfig}
    (answer : Answer runtime platform filterMatches merged message) (mine : String → Bool)
    (hmine : ∀ filter, mine filter = true ↔ ∃ node, config.Listens platform node filter)
    (hmerged : ∀ filter node, config.Listens platform node filter →
      merged.Listens platform node filter)
    (hentry : ∀ filter ∈ answer.filters, mine filter = true →
      config.Listens platform (answer.entry filter) filter) :
    Answer runtime platform filterMatches config message where
  filters := answer.filters.filter mine
  entry := answer.entry
  nodup := answer.nodup.filter mine
  mem_filters := fun filter => by
    rw [List.mem_filter, answer.mem_filters, hmine]
    constructor
    · intro h
      exact ⟨h.2, h.1.2⟩
    · intro h
      obtain ⟨⟨node, hlistens⟩, hmatches⟩ := h
      exact ⟨⟨⟨node, hmerged filter node hlistens⟩, hmatches⟩, node, hlistens⟩
  listens := fun filter hfilter =>
    hentry filter (List.mem_filter.mp hfilter).1 (List.mem_filter.mp hfilter).2

/-- An answer of the merged configuration is made of one from each, but for the order of the
records. -/
theorem Means.split (h : config.Separate platform config') {batch : Option (List MetricData)}
    (hmeans : (config.append config').Means runtime platform filterMatches message batch) :
    ∃ part part', config.Means runtime platform filterMatches message part ∧
      config'.Means runtime platform filterMatches message part' ∧
      Option.Rel List.Perm batch (part.merge (· ++ ·) part') := by
  classical
  obtain ⟨answer, rfl⟩ := hmeans
  let mine (config : BridgeConfig) (filter : String) : Bool :=
    decide (∃ node, config.Listens platform node filter)
  have hmine : ∀ config filter, mine config filter = true ↔
      ∃ node, config.Listens platform node filter := fun _ _ => decide_eq_true_iff
  have hlistens : ∀ filter ∈ answer.filters,
      config.Listens platform (answer.entry filter) filter ∨
        config'.Listens platform (answer.entry filter) filter := fun filter hfilter =>
    (listens_append_iff h filter).mp (answer.listens filter hfilter)
  have hentry : ∀ filter ∈ answer.filters, mine config filter = true →
      config.Listens platform (answer.entry filter) filter := by
    intro filter hfilter hleft
    obtain ⟨node, hnode⟩ := (hmine config filter).mp hleft
    exact (hlistens filter hfilter).resolve_right (h.filters filter node _ hnode)
  have hentry' : ∀ filter ∈ answer.filters, mine config' filter = true →
      config'.Listens platform (answer.entry filter) filter := by
    intro filter hfilter hright
    obtain ⟨node, hnode⟩ := (hmine config' filter).mp hright
    exact (hlistens filter hfilter).resolve_left fun hleft => h.filters filter _ node hleft hnode
  -- Each filter of the answer belongs to exactly one of the configurations.
  have hother : answer.filters.filter (mine config') =
      answer.filters.filter fun filter => !mine config filter := by
    refine List.filter_congr fun filter hfilter => ?_
    rw [Bool.eq_iff_iff, Bool.not_eq_true', ← Bool.not_eq_true, hmine, hmine]
    constructor
    · intro hright hleft
      exact h.filters filter _ _ hleft.choose_spec hright.choose_spec
    · intro hnone
      exact ⟨_, (hlistens filter hfilter).resolve_left fun hleft => hnone ⟨_, hleft⟩⟩
  let part := answer.part (mine config) (hmine config)
    (fun filter node hnode => (listens_append_iff h filter).mpr (Or.inl hnode)) hentry
  let part' := answer.part (mine config') (hmine config')
    (fun filter node hnode => (listens_append_iff h filter).mpr (Or.inr hnode)) hentry'
  refine ⟨part.batch, part'.batch, ⟨part, rfl⟩, ⟨part', rfl⟩, ?_⟩
  have hperm : answer.filters.Perm (part.filters ++ part'.filters) := by
    have hparts : part.filters ++ part'.filters = answer.filters.filter (mine config) ++
        answer.filters.filter fun filter => !mine config filter := by rw [← hother]; rfl
    rw [hparts]
    exact (List.filter_append_perm (mine config) answer.filters).symm
  have hleft : ∀ filter ∈ part.filters, answer.entry filter = part.entry filter := fun _ _ => rfl
  have hright : ∀ filter ∈ part'.filters, answer.entry filter = part'.entry filter := fun _ _ => rfl
  rw [Answer.batch, Answer.batch, Answer.batch, merge_batches,
    ← flatMap_records_left h part.listens hleft, ← flatMap_records_right h part'.listens hright,
    ← List.flatMap_append]
  by_cases hempty : answer.filters = []
  · rw [if_pos hempty, if_pos (List.nil_perm.mp (hempty ▸ hperm))]
    exact Option.Rel.none
  · have hparts : part.filters ++ part'.filters ≠ [] := fun hnone => by
      rw [hnone] at hperm
      exact hempty (List.perm_nil.mp hperm)
    rw [if_neg hempty, if_neg hparts]
    exact Option.Rel.some (hperm.flatMap_right _)

end Answers

/-- The subscriptions of the merged configuration are those of both. -/
theorem mem_subscriptions_append {platform : ConfigPlatform}
    (hsearch : LowerBoundSearch platform.findIterPos) {config config' : BridgeConfig}
    (h : config.Separate platform config') (filter : String) :
    filter ∈ ((config.append config').routes platform).subscriptions ↔
      filter ∈ (config.routes platform).subscriptions ∨
        filter ∈ (config'.routes platform).subscriptions := by
  simp only [mem_subscriptions_iff hsearch, listens_append_iff h, exists_or]

end BridgeConfig

/-- Configurations compose. If two of them share neither a handler id nor a filter that both listen
to, then with all their entries in one file the bridge subscribes to the filters of both, and after
any messages a message may add what it may add under each of them, one batch after the other, and
nothing else but for the order of the records. -/
theorem publishes_append (runtime : Platform) (hadds : runtime.AddsNoHelp)
    (platform : ConfigPlatform) (hsearch : LowerBoundSearch platform.findIterPos)
    (filterMatches : String → String → Bool) (config config' : BridgeConfig)
    (hseparate : config.Separate platform config') :
    (∀ filter, filter ∈ ((config.append config').routes platform).subscriptions ↔
        filter ∈ (config.routes platform).subscriptions ∨
          filter ∈ (config'.routes platform).subscriptions) ∧
      ∀ messages message,
        (∀ part part', config.Publishes runtime platform filterMatches messages message part →
          config'.Publishes runtime platform filterMatches messages message part' →
            (config.append config').Publishes runtime platform filterMatches messages message
              (part.merge (· ++ ·) part')) ∧
        (∀ batch, (config.append config').Publishes runtime platform filterMatches messages message
            batch →
          ∃ part part', config.Publishes runtime platform filterMatches messages message part ∧
            config'.Publishes runtime platform filterMatches messages message part' ∧
            Option.Rel List.Perm batch (part.merge (· ++ ·) part')) := by
  refine ⟨BridgeConfig.mem_subscriptions_append hsearch hseparate, fun messages message =>
    ⟨fun part part' h h' => ?_, fun batch h => ?_⟩⟩
  · exact ((h.means hadds).append hseparate (h'.means hadds)).publishes hadds messages
  · obtain ⟨part, part', hpart, hpart', hbatch⟩ := (h.means hadds).split hseparate
    exact ⟨part, part', hpart.publishes hadds messages, hpart'.publishes hadds messages, hbatch⟩

/-- A metric of a value handler that listens to one filter. -/
def BridgeConfig.one (id filter : String) : BridgeConfig where
  defaultTimestamp := .on
  metrics := some [{ metric := id, handlers := [{ handlerId := id, property := some "t" }] }]
  handlers := some [{ id := id, type := "value" }]
  topics := [{ handlers := some [id], subscriptions := [filter] }]

/-- It listens to no other filter. -/
theorem BridgeConfig.eq_of_listens_one {platform : ConfigPlatform} {id filter other : String}
    {node : TopicNode} (h : (one id filter).Listens platform node other) :
    platform.topicTrim filter = other := by
  have hnode := List.mem_singleton.mp h.mem
  obtain ⟨subscription, hsubscription, htrim⟩ := h.lists.1
  rw [hnode] at hsubscription
  rw [← List.mem_singleton.mp hsubscription]
  exact htrim

/-- House and bath in one file: the filters of both are subscribed to, and a message from the bath
is published for both, after another one that was for the house only. -/
theorem publishes_append_bath :
    "home/bath" ∈ (((BridgeConfig.one "house" "home/+").append
        (BridgeConfig.one "bath" "home/bath ")).routes .reference).subscriptions ∧
      ∃ batch : List MetricData,
        batch.map (fun data => (data.id.name, data.value)) =
          [("house", "21.5"), ("bath", "21.5")] ∧
        ((BridgeConfig.one "house" "home/+").append
          (BridgeConfig.one "bath" "home/bath ")).Publishes .reference .reference Topics.wildcards
            [⟨"home/kitchen", "20.0", 1⟩] ⟨"home/bath", "21.5", 2⟩ (some batch) := by
  have hseparate : (BridgeConfig.one "house" "home/+").Separate .reference
      (BridgeConfig.one "bath" "home/bath ") := by
    refine ⟨rfl, by decide, fun filter node node' h h' => ?_⟩
    have hsame := (BridgeConfig.eq_of_listens_one h).trans (BridgeConfig.eq_of_listens_one h').symm
    exact absurd hsame (by decide)
  obtain ⟨hsubscriptions, hpublishes⟩ := publishes_append .reference
    Platform.addsNoHelp_reference .reference (fun _ _ _ => rfl) Topics.wildcards _ _ hseparate
  have hkeeps := fun config : BridgeConfig =>
    Topics.keeps_firstAdded Topics.wildcards (config.routes .reference).added
  obtain ⟨house, hhouse, hpublished⟩ : ∃ house : List MetricData,
      house.map (fun data => (data.id.name, data.value)) = [("house", "21.5")] ∧
        (BridgeConfig.one "house" "home/+").Publishes .reference .reference Topics.wildcards
          [⟨"home/kitchen", "20.0", 1⟩] ⟨"home/bath", "21.5", 2⟩ (some house) :=
    ⟨_, by decide, _, _, hkeeps _, rfl⟩
  obtain ⟨bath, hbath, hpublished'⟩ : ∃ bath : List MetricData,
      bath.map (fun data => (data.id.name, data.value)) = [("bath", "21.5")] ∧
        (BridgeConfig.one "bath" "home/bath ").Publishes .reference .reference Topics.wildcards
          [⟨"home/kitchen", "20.0", 1⟩] ⟨"home/bath", "21.5", 2⟩ (some bath) :=
    ⟨_, by decide, _, _, hkeeps _, rfl⟩
  refine ⟨(hsubscriptions "home/bath").mpr (Or.inr (by decide)), house ++ bath, ?_,
    (hpublishes _ _).1 _ _ hpublished hpublished'⟩
  rw [List.map_append, hhouse, hbath]
  rfl

end MqttBridge
