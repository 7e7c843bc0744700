import MqttBridge.Interpretation

/-!
# Who owns a metric object

The handlers take the metric objects they capture out of the map that lists them. A handler that is
not stored, because it has no id or its id is taken, is destroyed with the objects it owns. So after
the pass the objects of an id are spread over its stored handler, the destroyed handlers and the
map, which is the invariant of the handlers loop. Nothing is duplicated, and what is lost is what
an entry takes besides the one that serves the id.
-/

namespace MqttBridge

/-- The handler that one turn of the handlers loop makes and destroys, if any. -/
def destroyedHandler (platform : ConfigPlatform) (state : MqttHandlerStore × MetricsMap)
    (node : HandlerNode) : Option MqttHandler :=
  (node.configure platform state.2).1.filter fun handler =>
    handler.id.isEmpty || decide (handler.id ∈ state.1)

/-- The handlers destroyed by the turns for some entries. -/
def destroyedFrom (platform : ConfigPlatform) :
    MqttHandlerStore × MetricsMap → List HandlerNode → List MqttHandler
  | _, [] => []
  | state, node :: nodes =>
    (destroyedHandler platform state node).toList ++
      destroyedFrom platform (addHandlerNode platform state node) nodes

/-- The handlers that `configure_mqtt_handlers` makes and destroys. -/
def destroyedHandlers (platform : ConfigPlatform) (nodes : Option (List HandlerNode))
    (metrics : MetricsMap) : List MqttHandler :=
  destroyedFrom platform (∅, metrics) (nodes.getD [])

/-- The metric objects listed under an id. -/
def MetricsMap.listedUnder (metrics : MetricsMap) (id : String) : List MetricRef :=
  ((metrics.lookup id).getD []).reduceOption

/-- The metric objects owned by the handler stored under an id. -/
def MqttHandlerStore.ownedUnder (store : MqttHandlerStore) (id : String) : List MetricRef :=
  ((store.lookup id).map MqttHandler.metrics).getD []

/-- The metric objects owned by the handlers of a list that have an id. -/
def ownedBy (handlers : List MqttHandler) (id : String) : List MetricRef :=
  (handlers.filter fun handler => handler.id = id).flatMap MqttHandler.metrics

/-- Some handlers entry of an id takes a metric object. -/
def Taken (platform : ConfigPlatform) (nodes : List HandlerNode) (id : String) (ref : MetricRef) :
    Prop :=
  ∃ node ∈ nodes, platform.trim node.id = id ∧ node.Takes platform ref.metric.property

instance (platform : ConfigPlatform) (nodes : List HandlerNode) (id : String) (ref : MetricRef) :
    Decidable (Taken platform nodes id ref) := inferInstanceAs (Decidable (∃ _ ∈ nodes, _ ∧ _))

/-- A listed object is in the list of its id. -/
theorem MetricsMap.mem_listedUnder {metrics : MetricsMap} {id : String} {ref : MetricRef} :
    ref ∈ metrics.listedUnder id ↔ ∃ list, metrics.lookup id = some list ∧ some ref ∈ list := by
  rw [listedUnder, List.reduceOption_mem_iff]
  cases metrics.lookup id with
  | none => simp
  | some list => simp

section Lists

variable {platform : ConfigPlatform} {handlers more : List MqttHandler} {id : String}

@[simp] theorem ownedBy_nil : ownedBy [] id = [] := rfl

@[simp] theorem ownedBy_append : ownedBy (handlers ++ more) id =
    ownedBy handlers id ++ ownedBy more id := by
  simp [ownedBy]

@[simp] theorem ownedBy_singleton (handler : MqttHandler) :
    ownedBy [handler] id = if handler.id = id then handler.metrics else [] := by
  by_cases h : handler.id = id <;> simp [ownedBy, h]

/-- An element of a list without duplicates is in the middle part if it is in neither other part. -/
theorem mem_middle_iff {α : Type*} {front middle back : List α} {x : α}
    (hnodup : (front ++ middle ++ back).Nodup) (hx : x ∈ front ++ middle ++ back) :
    x ∈ middle ↔ x ∉ front ∧ x ∉ back := by
  have hback := List.disjoint_of_nodup_append hnodup
  have hfront := List.disjoint_of_nodup_append hnodup.of_append_left
  constructor
  · intro hmiddle
    exact ⟨fun h => hfront h hmiddle, fun h => hback (List.mem_append_right _ hmiddle) h⟩
  · intro hneither
    rw [List.mem_append, List.mem_append] at hx
    exact (hx.resolve_right hneither.2).resolve_left hneither.1

/-- The non-null pointers of a list after some metrics were moved out of it. -/
theorem reduceOption_map_filter (list : List MetricPtr) (p : MetricRef → Bool) :
    (list.map (Option.filter p)).reduceOption = list.reduceOption.filter p := by
  unfold List.reduceOption
  rw [List.filterMap_map, List.filter_filterMap]
  rfl

end Lists

namespace HandlerNode

variable (platform : ConfigPlatform) (node : HandlerNode) (metrics : MetricsMap)

/-- A configuration leaves in the list of its id what it does not take. -/
theorem listedUnder_configure_self :
    MetricsMap.listedUnder (node.configure platform metrics).2 (platform.trim node.id) =
      (metrics.listedUnder (platform.trim node.id)).filter fun ref =>
        ¬node.Takes platform ref.metric.property := by
  unfold configure MetricsMap.listedUnder
  cases htype : decodeType platform node.type with
  | json =>
    obtain ⟨_, hmetrics⟩ := configureJsonHandler_spec platform (platform.trim node.id)
      node.properties metrics
    dsimp only
    rw [hmetrics, if_pos rfl]
    simp only [takes_iff, htype]
    cases metrics.lookup (platform.trim node.id) with
    | none => rfl
    | some list => exact reduceOption_map_filter list _
  | text => simp [takes_iff, htype, configureTextHandler]
  | value =>
    dsimp only
    rw [configureValueHandler, FlatMap.lookup_update, if_pos rfl]
    cases metrics.lookup (platform.trim node.id) with
    | none => rfl
    | some list => simp [takes_iff, htype]

/-- A configuration leaves in the map what it does not take. -/
theorem listedUnder_configure (id : String) :
    MetricsMap.listedUnder (node.configure platform metrics).2 id =
      (metrics.listedUnder id).filter fun ref =>
        ¬(platform.trim node.id = id ∧ node.Takes platform ref.metric.property) := by
  by_cases hid : platform.trim node.id = id
  · subst hid
    rw [listedUnder_configure_self]
    simp
  · have hsame := (node.configure_spec platform metrics).2 id (Or.inl fun he => hid he.symm)
    rw [MetricsMap.listedUnder, MetricsMap.listedUnder, hsame]
    simp [hid]

/-- The handler a configuration captures from a list owns the metrics of it that the entry takes. -/
theorem metrics_captured_perm (list : List MetricPtr) :
    (((node.captured platform list).map MqttHandler.metrics).getD []).Perm
      (list.reduceOption.filter fun ref => node.Takes platform ref.metric.property) := by
  cases hcaptured : node.captured platform list with
  | none =>
    have hnone : ∀ ref ∈ list.reduceOption, ¬node.Takes platform ref.metric.property := by
      intro ref href htakes
      have hsome : (node.captured platform list).isSome = true := (isSome_captured list).mpr
        ⟨ref, List.reduceOption_mem_iff.mp href, htakes⟩
      rw [hcaptured] at hsome
      cases hsome
    rw [List.filter_eq_nil_iff.mpr fun ref href => by simpa using hnone ref href]
    exact List.Perm.refl _
  | some handler =>
    obtain ⟨htype, _, rfl⟩ | ⟨htype, _, rfl⟩ := node.captured_cases platform hcaptured
    · refine (flatMap_collect_perm _).trans ?_
      have hattached := flatMap_attachments_perm list
        (attachable platform (node.properties.listed platform))
        ((nodup_map_key_firstBy _ _).sublist (List.filter_sublist.map _))
      simpa only [takes_iff, htype] using hattached
    · simp [takes_iff, htype, MqttHandler.metrics]

/-- A captured handler owns objects under the id of its configuration only. -/
theorem ownedBy_captured (list : List MetricPtr) (id : String) :
    ownedBy (node.captured platform list).toList id =
      if platform.trim node.id = id then
        ((node.captured platform list).map MqttHandler.metrics).getD []
      else [] := by
  cases hcaptured : node.captured platform list with
  | none => simp
  | some handler =>
    obtain ⟨hname, _, _⟩ := node.captured_spec platform hcaptured
    simp [hname]

/-- The objects listed under an id before a configuration are owned by the handler it makes or are
still listed after it. -/
theorem listedUnder_perm_configure (id : String) :
    (metrics.listedUnder id).Perm (ownedBy (node.configure platform metrics).1.toList id ++
      MetricsMap.listedUnder (node.configure platform metrics).2 id) := by
  obtain ⟨hhandler, _⟩ := node.configure_spec platform metrics
  rw [listedUnder_configure, hhandler, ownedBy_captured]
  by_cases hid : platform.trim node.id = id
  · subst hid
    have hsplit := List.filter_append_perm
      (fun ref : MetricRef => decide (node.Takes platform ref.metric.property))
      (metrics.listedUnder (platform.trim node.id))
    rw [if_pos rfl]
    refine hsplit.symm.trans (((node.metrics_captured_perm platform _).symm).append ?_)
    simp
  · simp [hid]

end HandlerNode

section Loop

variable (platform : ConfigPlatform) (state : MqttHandlerStore × MetricsMap) (node : HandlerNode)
  (nodes : List HandlerNode) (id : String)

/-- The map after a turn of the loop is the one its configuration leaves. -/
theorem snd_addHandlerNode :
    (addHandlerNode platform state node).2 = (node.configure platform state.2).2 := by
  unfold addHandlerNode
  dsimp only
  split
  · rfl
  · split <;> rfl

/-- The handler that a turn makes is stored or destroyed. -/
theorem ownedUnder_addHandlerNode :
    MqttHandlerStore.ownedUnder (addHandlerNode platform state node).1 id ++
        ownedBy (destroyedHandler platform state node).toList id =
      state.1.ownedUnder id ++ ownedBy (node.configure platform state.2).1.toList id := by
  unfold addHandlerNode destroyedHandler
  dsimp only
  cases (node.configure platform state.2).1 with
  | none => rfl
  | some handler =>
    dsimp only
    by_cases hempty : handler.id = ""
    · simp [hempty, Option.filter]
    · by_cases hstored : handler.id ∈ state.1
      · simp [hempty, hstored, FlatMap.emplace, Option.filter]
      · have hfree : state.1.lookup handler.id = none := Finmap.lookup_eq_none.mpr hstored
        by_cases hid : handler.id = id
        · subst hid
          simp [hempty, hstored, MqttHandlerStore.ownedUnder, FlatMap.lookup_emplace, hfree,
            Option.filter]
        · have hne : ¬id = handler.id := fun he => hid he.symm
          simp [hempty, hstored, MqttHandlerStore.ownedUnder, FlatMap.lookup_emplace, hid, hne,
            Option.filter]

/-- A turn of the loop spreads the objects of an id anew. -/
theorem spread_addHandlerNode :
    (state.1.ownedUnder id ++ state.2.listedUnder id).Perm
      (ownedBy (destroyedHandler platform state node).toList id ++
        (MqttHandlerStore.ownedUnder (addHandlerNode platform state node).1 id ++
          MetricsMap.listedUnder (addHandlerNode platform state node).2 id)) := by
  have hlisted := node.listedUnder_perm_configure platform state.2 id
  refine (hlisted.append_left _).trans ?_
  rw [← List.append_assoc, ← ownedUnder_addHandlerNode, snd_addHandlerNode, ← List.append_assoc]
  exact List.perm_append_comm.append_right _

/-- The loop spreads the objects of an id over the store, the destroyed handlers and the map. -/
theorem spread_foldl_addHandlerNode :
    (state.1.ownedUnder id ++ state.2.listedUnder id).Perm
      (ownedBy (destroyedFrom platform state nodes) id ++
        (MqttHandlerStore.ownedUnder (nodes.foldl (addHandlerNode platform) state).1 id ++
          MetricsMap.listedUnder (nodes.foldl (addHandlerNode platform) state).2 id)) := by
  induction nodes generalizing state with
  | nil => exact List.Perm.refl _
  | cons node nodes ih =>
    rw [List.foldl_cons, destroyedFrom, ownedBy_append, List.append_assoc]
    exact (spread_addHandlerNode platform state node id).trans
      ((ih (addHandlerNode platform state node)).append_left _)

/-- The loop leaves in the map what no entry takes. -/
theorem listedUnder_foldl_addHandlerNode :
    MetricsMap.listedUnder (nodes.foldl (addHandlerNode platform) state).2 id =
      (state.2.listedUnder id).filter fun ref => ¬Taken platform nodes id ref := by
  induction nodes generalizing state with
  | nil => simp [Taken]
  | cons node nodes ih =>
    rw [List.foldl_cons, ih, snd_addHandlerNode, HandlerNode.listedUnder_configure,
      List.filter_filter]
    refine List.filter_congr fun ref _ => ?_
    simp [Taken, and_comm]

end Loop

/-- The pass is its loop; a section that is not a sequence is one without entries. -/
theorem configureMqttHandlers_eq_foldl (platform : ConfigPlatform)
    (nodes : Option (List HandlerNode)) (metrics : MetricsMap) :
    configureMqttHandlers platform nodes metrics =
      (nodes.getD []).foldl (addHandlerNode platform) (∅, metrics) := by
  cases nodes <;> rfl

/-- Different objects have different addresses. -/
theorem MetricsBuild.nodup_addr_ofLog (log : List (String × Metric)) (id : String) :
    ((MetricsMap.listedUnder (ofLog log).metrics id).map MetricRef.addr).Nodup := by
  have haddresses : (MetricsMap.listedUnder (ofLog log).metrics id).map MetricRef.addr =
      (log.zipIdx.filter fun entry => entry.1.1 = id).map Prod.snd := by
    rw [MetricsMap.listedUnder, ofLog, FlatMap.getD_lookup_ofLog]
    simp [FlatMap.loggedUnder, addressed, List.filter_map, Function.comp_def, List.reduceOption]
  rw [haddresses]
  have hsublist := (List.filter_sublist (p := fun entry => entry.1.1 = id) (l := log.zipIdx)).map
    Prod.snd
  rw [List.zipIdx_map_snd] at hsublist
  exact hsublist.nodup List.nodup_range'

namespace BridgeConfig

variable (platform : ConfigPlatform) (config : BridgeConfig)

/-- The handlers the handlers section makes and destroys. -/
def destroyed : List MqttHandler :=
  destroyedHandlers platform config.handlers (config.metricsMap platform)

/-- The metrics map after the handlers section. -/
def leftOver : MetricsMap :=
  (configureMqttHandlers platform config.handlers (config.metricsMap platform)).2

/-- The entry that serves an id takes a metric object. -/
def Served (id : String) (ref : MetricRef) : Prop :=
  ∃ node, config.server platform id = some node ∧ node.Takes platform ref.metric.property

/-- The stored handler of an id owns the objects that the serving entry takes. -/
theorem mem_ownedUnder_store (id : String) (ref : MetricRef) :
    ref ∈ (config.store platform).ownedUnder id ↔
      ref ∈ (config.metricsMap platform).listedUnder id ∧ config.Served platform id ref := by
  rw [MqttHandlerStore.ownedUnder, MetricsMap.listedUnder, List.reduceOption_mem_iff]
  unfold Served
  cases hserver : config.server platform id with
  | none =>
    rw [lookup_store_eq_bind, hserver]
    simp
  | some node =>
    obtain ⟨handler, hhandler, hcaptured⟩ := exists_handler_of_server hserver
    rw [hhandler, Option.map_some, Option.getD_some, HandlerNode.mem_metrics_captured hcaptured]
    simp

/-- The handlers section spreads the objects of an id over the store, the destroyed handlers and
what is left of the map. -/
theorem spread (id : String) :
    ((config.metricsMap platform).listedUnder id).Perm ((config.store platform).ownedUnder id ++
      ownedBy (config.destroyed platform) id ++ (config.leftOver platform).listedUnder id) := by
  have hspread := spread_foldl_addHandlerNode platform (∅, config.metricsMap platform)
    (config.handlers.getD []) id
  rw [← configureMqttHandlers_eq_foldl] at hspread
  rw [List.append_assoc]
  exact hspread.trans (List.perm_append_comm_assoc ..)

/-- What no entry of its id takes is left. -/
theorem listedUnder_leftOver (id : String) :
    (config.leftOver platform).listedUnder id =
      ((config.metricsMap platform).listedUnder id).filter fun ref =>
        ¬Taken platform (config.handlers.getD []) id ref := by
  rw [leftOver, configureMqttHandlers_eq_foldl]
  exact listedUnder_foldl_addHandlerNode platform (∅, config.metricsMap platform) _ id

end BridgeConfig

/-- No metric object is lost but by being taken twice. The objects made for a handler id are all
different, and after the handlers section each of them is in exactly one place: its id's stored
handler owns it if the entry that serves the id takes it, it is still listed if no entry of the id
takes it, and otherwise it was destroyed with the handler of another entry. -/
theorem BridgeConfig.metric_objects_conserved (platform : ConfigPlatform) (config : BridgeConfig)
    (id : String) :
    let listed := (config.metricsMap platform).listedUnder id
    let stored := (config.store platform).ownedUnder id
    let destroyed := ownedBy (config.destroyed platform) id
    let left := (config.leftOver platform).listedUnder id
    (listed.map MetricRef.addr).Nodup ∧
      (∀ id', ∀ ref' ∈ (config.metricsMap platform).listedUnder id', ∀ ref ∈ listed,
        ref'.addr = ref.addr → id' = id) ∧
      listed.Perm (stored ++ destroyed ++ left) ∧
      ∀ ref ∈ listed, (ref ∈ stored ↔ config.Served platform id ref) ∧
        (ref ∈ left ↔ ¬Taken platform (config.handlers.getD []) id ref) ∧
        (ref ∈ destroyed ↔
          Taken platform (config.handlers.getD []) id ref ∧ ¬config.Served platform id ref) := by
  intro listed stored destroyed left
  have hdifferent : (listed.map MetricRef.addr).Nodup := by
    simp only [listed, metricsMap, configurePrometheusMetrics_eq]
    exact MetricsBuild.nodup_addr_ofLog _ id
  have hspread : listed.Perm (stored ++ destroyed ++ left) := config.spread platform id
  have hleft : left = listed.filter fun ref => ¬Taken platform (config.handlers.getD []) id ref :=
    config.listedUnder_leftOver platform id
  have hnodup := hspread.nodup_iff.mp hdifferent.of_map
  refine ⟨hdifferent, fun id' ref' href' ref href haddr => ?_, hspread, fun ref href => ?_⟩
  · obtain ⟨list', hlist', hmem'⟩ := MetricsMap.mem_listedUnder.mp href'
    obtain ⟨list, hlist, hmem⟩ := MetricsMap.mem_listedUnder.mp href
    exact configurePrometheusMetrics_unshared platform config.metrics config.defaultTimestamp
      id' id list' list ref' ref hlist' hlist hmem' hmem haddr
  · have hstored := (config.mem_ownedUnder_store platform id ref).trans (and_iff_right href)
    have hlisted : ref ∈ left ↔ ¬Taken platform (config.handlers.getD []) id ref := by
      rw [hleft, List.mem_filter, decide_eq_true_eq, and_iff_right href]
    refine ⟨hstored, hlisted, ?_⟩
    rw [mem_middle_iff hnodup (hspread.mem_iff.mp href), hstored, hlisted, not_not, and_comm]

/-- Two entries of one id that list one property each. -/
def BridgeConfig.splitProperties : BridgeConfig where
  defaultTimestamp := .off
  metrics := some [
    { metric := "temperature", handlers := [{ handlerId := "sensor", property := some "t" }] },
    { metric := "humidity", handlers := [{ handlerId := "sensor", property := some "h" }] }]
  handlers := some [
    { id := "sensor", type := "json", properties := .sequence [.scalar "t"] },
    { id := "sensor", type := "json", properties := .sequence [.scalar "h"] }]
  topics := []

/-- The metric that the second one takes is lost. -/
example : (ownedBy (BridgeConfig.splitProperties.destroyed .reference) "sensor").map
    (fun ref => ref.metric.id.name) = ["humidity"] := by
  decide

end MqttBridge
