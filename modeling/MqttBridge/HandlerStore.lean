import MqttBridge.JsonHandler

/-!
# The handler store against a specification that consumes nothing

All handler configurations take metrics out of one shared map. The store they build is still a
function of the original map: an id is served by its first configuration that captures a
metric of the original list. The invariant behind it is that the list of a non-empty id not yet
in the store is intact, since taking anything out of it would have stored a handler.
-/

namespace MqttBridge

/-- The type a configuration names, as names are compared. -/
def HandlerNode.typeName (platform : ConfigPlatform) (node : HandlerNode) : String :=
  platform.toLower (platform.trim node.type)

/-- What a configuration captures from the list of its id, without consuming it: the handler it
makes, or none when no metric is captured. A configuration of type `value` captures the whole list,
one of type `text` nothing, and any other one what its pairs attach. -/
def HandlerNode.captured (platform : ConfigPlatform) (node : HandlerNode) (list : List MetricPtr) :
    Option MqttHandler :=
  if node.typeName platform = "value" then
    if list.reduceOption.isEmpty then none
    else some (.value (platform.trim node.id) list.reduceOption list.reduceOption.length)
  else if node.typeName platform = "text" then none
  else
    let batches := attachments list (attachable platform (node.properties.listed platform))
    if 0 < batchTotal batches then
      some (.json (platform.trim node.id) (collect batches) (batchTotal batches))
    else none

/-- The handler an id is to get: the one captured from the original map by the first
configuration of that id that captures a metric. -/
def storedHandler (platform : ConfigPlatform) (nodes : List HandlerNode) (metrics : MetricsMap)
    (id : String) : Option MqttHandler :=
  if id.isEmpty then none
  else nodes.findSome? fun node =>
    if platform.trim node.id = id then node.captured platform ((metrics.lookup id).getD [])
    else none

namespace HandlerNode

variable (platform : ConfigPlatform) (node : HandlerNode)

/-- `decode_type` tells two names from all others. -/
theorem decodeType_eq :
    decodeType platform node.type =
      if node.typeName platform = "value" then .value
      else if node.typeName platform = "text" then .text
      else .json := by
  unfold decodeType typeName
  split <;> simp_all

/-- The type is `value` exactly for that name. -/
theorem decodeType_eq_value :
    decodeType platform node.type = .value ↔ node.typeName platform = "value" := by
  rw [decodeType_eq]
  split_ifs <;> simp [*]

/-- The type is json exactly for the names that are neither of the other two. -/
theorem decodeType_eq_json :
    decodeType platform node.type = .json ↔
      node.typeName platform ≠ "value" ∧ node.typeName platform ≠ "text" := by
  rw [decodeType_eq]
  split_ifs <;> simp [*]

/-- What is captured, by the decoded type. -/
theorem captured_eq_match (list : List MetricPtr) :
    node.captured platform list =
      match decodeType platform node.type with
      | .json =>
        let batches := attachments list (attachable platform (node.properties.listed platform))
        if 0 < batchTotal batches then
          some (.json (platform.trim node.id) (collect batches) (batchTotal batches))
        else none
      | .text => none
      | .value =>
        if list.reduceOption.isEmpty then none
        else some (.value (platform.trim node.id) list.reduceOption list.reduceOption.length) := by
  rw [captured, decodeType_eq]
  by_cases hvalue : node.typeName platform = "value"
  · rw [if_pos hvalue, if_pos hvalue]
  · rw [if_neg hvalue, if_neg hvalue]
    by_cases htext : node.typeName platform = "text"
    · rw [if_pos htext, if_pos htext]
    · rw [if_neg htext, if_neg htext]

/-- A captured handler is a json handler of the attached metrics, of which there are some, or a
value handler of the whole list, which is not empty. -/
theorem captured_cases {list : List MetricPtr} {handler : MqttHandler}
    (h : node.captured platform list = some handler) :
    (decodeType platform node.type = .json ∧
        let batches := attachments list (attachable platform (node.properties.listed platform))
        0 < batchTotal batches ∧
          handler = .json (platform.trim node.id) (collect batches) (batchTotal batches)) ∨
      (decodeType platform node.type = .value ∧ list.reduceOption ≠ [] ∧
        handler = .value (platform.trim node.id) list.reduceOption list.reduceOption.length) := by
  rw [captured_eq_match] at h
  cases htype : decodeType platform node.type with
  | json =>
    rw [htype] at h
    obtain ⟨hpositive, hhandler⟩ := Option.ite_none_right_eq_some.mp h
    exact Or.inl ⟨rfl, hpositive, (Option.some.inj hhandler).symm⟩
  | text =>
    rw [htype] at h
    cases h
  | value =>
    rw [htype] at h
    obtain ⟨hnonempty, hhandler⟩ := Option.ite_none_left_eq_some.mp h
    have hne : list.reduceOption ≠ [] := by simpa using hnonempty
    exact Or.inr ⟨rfl, hne, (Option.some.inj hhandler).symm⟩

/-- A captured handler has the configuration's trimmed id, and owns at least one metric, each a
non-null entry of the list. -/
theorem captured_spec {list : List MetricPtr} {handler : MqttHandler}
    (h : node.captured platform list = some handler) :
    handler.id = platform.trim node.id ∧ handler.metrics ≠ [] ∧
      ∀ ref ∈ handler.metrics, some ref ∈ list := by
  obtain ⟨_, hpositive, rfl⟩ | ⟨_, hnonempty, rfl⟩ := node.captured_cases platform h
  · have hperm := flatMap_collect_perm
      (attachments list (attachable platform (node.properties.listed platform)))
    refine ⟨rfl, fun hnil => ?_, fun ref href => ?_⟩
    · rw [batchTotal_eq_length, ← hperm.length_eq] at hpositive
      exact absurd (List.length_eq_zero_iff.mpr hnil) (Nat.ne_of_gt hpositive)
    · exact ((mem_flatMap_attachments _ _ ref).mp (hperm.mem_iff.mp href)).1
  · exact ⟨rfl, hnonempty, fun ref href => List.reduceOption_mem_iff.mp href⟩

/-- A value handler that makes no handler met null pointers only, and leaves them. -/
theorem map_none_of_reduceOption_nil (list : List MetricPtr) (h : list.reduceOption = []) :
    list.map (fun _ => (none : MetricPtr)) = list := by
  refine (List.map_congr_left fun ptr hptr => ?_).trans (List.map_id list)
  cases ptr with
  | none => rfl
  | some ref =>
    have hmem := List.reduceOption_mem_iff.mpr hptr
    rw [h] at hmem
    exact absurd hmem List.not_mem_nil

/-- A configuration makes the handler it captures and touches no list but its own, and that one
only if it makes a handler. -/
theorem configure_spec (metrics : MetricsMap) :
    (node.configure platform metrics).1 =
        node.captured platform ((metrics.lookup (platform.trim node.id)).getD []) ∧
      ∀ id, id ≠ platform.trim node.id ∨
          node.captured platform ((metrics.lookup (platform.trim node.id)).getD []) = none →
        (node.configure platform metrics).2.lookup id = metrics.lookup id := by
  unfold configure
  simp only [captured_eq_match]
  cases htype : decodeType platform node.type with
  | json =>
    obtain ⟨hhandler, hmetrics⟩ := configureJsonHandler_spec platform (platform.trim node.id)
      node.properties metrics
    refine ⟨hhandler, fun id hid => (hmetrics id).trans ?_⟩
    split
    · rename_i heq
      have hnone := hid.resolve_left (not_not_intro heq)
      cases hlookup : metrics.lookup (platform.trim node.id) with
      | none => rw [heq, hlookup, Option.map_none]
      | some list =>
        rw [hlookup, Option.getD_some] at hnone
        rw [heq, hlookup, Option.map_some, withoutProperties_eq_self]
        by_contra hpositive
        simp [Nat.pos_of_ne_zero hpositive] at hnone
    · rfl
  | text => exact ⟨rfl, fun id _ => rfl⟩
  | value =>
    refine ⟨rfl, fun id hid => (FlatMap.lookup_update ..).trans ?_⟩
    split
    · rename_i heq
      have hnone := hid.resolve_left (not_not_intro heq)
      cases hlookup : metrics.lookup (platform.trim node.id) with
      | none => rw [heq, hlookup, Option.map_none]
      | some list =>
        rw [hlookup, Option.getD_some] at hnone
        rw [heq, hlookup, Option.map_some, map_none_of_reduceOption_nil]
        by_contra hnonempty
        simp [hnonempty] at hnone
    · rfl

end HandlerNode

/-- One more configuration gives its id a handler unless an earlier one did. -/
theorem storedHandler_concat (platform : ConfigPlatform) (nodes : List HandlerNode)
    (node : HandlerNode) (metrics : MetricsMap) (id : String) :
    storedHandler platform (nodes ++ [node]) metrics id =
      (storedHandler platform nodes metrics id).or
        (if id.isEmpty then none
        else if platform.trim node.id = id then
          node.captured platform ((metrics.lookup id).getD [])
        else none) := by
  unfold storedHandler
  split
  · rfl
  · simp [List.findSome?_append]

/-- The store and the map after some configurations, against the original map: the store is the
specified one, and lists of ids not yet stored are intact. -/
structure StoreBuilt (platform : ConfigPlatform) (original : MetricsMap)
    (nodes : List HandlerNode) (state : MqttHandlerStore × MetricsMap) : Prop where
  store : ∀ id, state.1.lookup id = storedHandler platform nodes original id
  intact : ∀ id, id ≠ "" → state.1.lookup id = none → state.2.lookup id = original.lookup id

/-- A configuration that captures nothing, or has no id, leaves the store alone. -/
theorem addHandlerNode_of_unstored (platform : ConfigPlatform)
    (state : MqttHandlerStore × MetricsMap) (node : HandlerNode)
    (h : node.captured platform ((state.2.lookup (platform.trim node.id)).getD []) = none ∨
      platform.trim node.id = "") :
    addHandlerNode platform state node = (state.1, (node.configure platform state.2).2) := by
  obtain ⟨hhandler, _⟩ := node.configure_spec platform state.2
  unfold addHandlerNode
  dsimp only
  rw [hhandler]
  cases hmade : node.captured platform ((state.2.lookup (platform.trim node.id)).getD []) with
  | none => rfl
  | some handler =>
    obtain ⟨hname, _, _⟩ := node.captured_spec platform hmade
    have hempty := h.resolve_left (by rw [hmade]; exact Option.some_ne_none handler)
    simp [hname, hempty]

/-- A captured handler with an id is stored under it unless the id is taken. -/
theorem addHandlerNode_of_captured (platform : ConfigPlatform)
    (state : MqttHandlerStore × MetricsMap) (node : HandlerNode) {handler : MqttHandler}
    (h : node.captured platform ((state.2.lookup (platform.trim node.id)).getD []) = some handler)
    (hid : platform.trim node.id ≠ "") :
    addHandlerNode platform state node =
      ((state.1.emplace (platform.trim node.id) handler).1,
        (node.configure platform state.2).2) := by
  obtain ⟨hhandler, _⟩ := node.configure_spec platform state.2
  obtain ⟨hname, _, _⟩ := node.captured_spec platform h
  unfold addHandlerNode
  dsimp only
  rw [hhandler, h]
  simp [hname, hid]

namespace StoreBuilt

variable {platform : ConfigPlatform} {original : MetricsMap} {nodes : List HandlerNode}
  {state : MqttHandlerStore × MetricsMap}

/-- For an id not yet stored, a configuration captures what it captures from the original map. -/
theorem captured_eq (h : StoreBuilt platform original nodes state) (node : HandlerNode)
    (hid : platform.trim node.id ≠ "") (hfree : state.1.lookup (platform.trim node.id) = none) :
    node.captured platform ((state.2.lookup (platform.trim node.id)).getD []) =
      node.captured platform ((original.lookup (platform.trim node.id)).getD []) := by
  rw [h.intact _ hid hfree]

/-- A configuration that captures nothing keeps the store as specified: it captures nothing from
the original map either, unless its id is stored. -/
theorem add_of_none (h : StoreBuilt platform original nodes state) (node : HandlerNode)
    (hmade : node.captured platform ((state.2.lookup (platform.trim node.id)).getD []) = none) :
    StoreBuilt platform original (nodes ++ [node]) (addHandlerNode platform state node) := by
  obtain ⟨_, hmetrics⟩ := node.configure_spec platform state.2
  rw [addHandlerNode_of_unstored platform state node (Or.inl hmade)]
  refine ⟨fun id => ?_, fun id hid hfree => ?_⟩
  · rw [storedHandler_concat, ← h.store id]
    cases hlookup : state.1.lookup id with
    | some stored => rfl
    | none =>
      rw [Option.none_or]
      split
      · rfl
      · rename_i hempty
        split
        · rename_i htrim
          subst htrim
          rw [← h.captured_eq node (by simpa using hempty) hlookup, hmade]
        · rfl
  · rw [hmetrics id (Or.inr hmade)]
    exact h.intact id hid hfree

/-- A configuration without an id keeps the store as specified: only the list of the empty id can
have changed. -/
theorem add_of_empty (h : StoreBuilt platform original nodes state) (node : HandlerNode)
    (hempty : platform.trim node.id = "") :
    StoreBuilt platform original (nodes ++ [node]) (addHandlerNode platform state node) := by
  obtain ⟨_, hmetrics⟩ := node.configure_spec platform state.2
  rw [addHandlerNode_of_unstored platform state node (Or.inr hempty)]
  refine ⟨fun id => ?_, fun id hid hfree => ?_⟩
  · have hnothing : (if id.isEmpty = true then none
        else if platform.trim node.id = id then
          node.captured platform ((original.lookup id).getD [])
        else none) = none := by
      rw [hempty]
      by_cases hid : id = ""
      · simp [hid]
      · have hne : ¬"" = id := fun he => hid he.symm
        simp [hne]
    rw [storedHandler_concat, ← h.store id, hnothing, Option.or_none]
  · rw [hmetrics id (Or.inl fun he => hid (he.trans hempty))]
    exact h.intact id hid hfree

/-- A configuration that captures a metric gets its id stored unless it is taken, and touches no
list of another id. -/
theorem add_of_captured (h : StoreBuilt platform original nodes state) (node : HandlerNode)
    {handler : MqttHandler} (hid : platform.trim node.id ≠ "")
    (hmade : node.captured platform ((state.2.lookup (platform.trim node.id)).getD []) =
      some handler) :
    StoreBuilt platform original (nodes ++ [node]) (addHandlerNode platform state node) := by
  obtain ⟨_, hmetrics⟩ := node.configure_spec platform state.2
  rw [addHandlerNode_of_captured platform state node hmade hid]
  refine ⟨fun id => ?_, fun id hid hfree => ?_⟩
  · rw [storedHandler_concat, ← h.store id, FlatMap.lookup_emplace]
    by_cases heq : id = platform.trim node.id
    · subst heq
      cases hlookup : state.1.lookup (platform.trim node.id) with
      | some stored => simp
      | none => simp [hid, ← h.captured_eq node hid hlookup, hmade]
    · have hne : ¬platform.trim node.id = id := fun he => heq he.symm
      simp [heq, hne]
  · rw [FlatMap.lookup_emplace] at hfree
    split at hfree
    · cases hfree
    · rename_i hne
      rw [hmetrics id (Or.inl hne)]
      exact h.intact id hid hfree

/-- Handling one more configuration keeps the store as specified. -/
theorem addHandlerNode (h : StoreBuilt platform original nodes state) (node : HandlerNode) :
    StoreBuilt platform original (nodes ++ [node])
      (MqttBridge.addHandlerNode platform state node) := by
  cases hmade : node.captured platform ((state.2.lookup (platform.trim node.id)).getD []) with
  | none => exact h.add_of_none node hmade
  | some handler =>
    by_cases hid : platform.trim node.id = ""
    · exact h.add_of_empty node hid
    · exact h.add_of_captured node hid hmade

end StoreBuilt

/-- The store the pass builds is the specified one. -/
theorem lookup_configureMqttHandlers (platform : ConfigPlatform) (nodes : List HandlerNode)
    (metrics : MetricsMap) (id : String) :
    (configureMqttHandlers platform (some nodes) metrics).1.lookup id =
      storedHandler platform nodes metrics id := by
  have hbuilt : StoreBuilt platform metrics nodes
      (nodes.foldl (addHandlerNode platform) (∅, metrics)) := by
    induction nodes using List.reverseRecOn with
    | nil => exact ⟨fun id => by simp [storedHandler], fun _ _ _ => rfl⟩
    | append_singleton nodes node ih =>
      rw [List.foldl_append]
      exact ih.addHandlerNode node
  exact hbuilt.store id

/-- A stored handler is the one captured from the original list of its id by some configuration
of that id. -/
theorem storedHandler_source {platform : ConfigPlatform} {nodes : List HandlerNode}
    {metrics : MetricsMap} {id : String} {handler : MqttHandler}
    (h : storedHandler platform nodes metrics id = some handler) :
    id ≠ "" ∧ ∃ node ∈ nodes, platform.trim node.id = id ∧
      node.captured platform ((metrics.lookup id).getD []) = some handler := by
  unfold storedHandler at h
  split at h
  · cases h
  · rename_i hid
    obtain ⟨node, hnode, hcaptured⟩ := List.exists_of_findSome?_eq_some h
    split at hcaptured
    · rename_i htrim
      exact ⟨by simpa using hid, node, hnode, htrim, hcaptured⟩
    · cases hcaptured

section Store

variable (platform : ConfigPlatform) (nodes : List HandlerNode) (metrics : MetricsMap)

/-- Stored are the non-empty ids of configurations that capture a metric of the original list. -/
theorem mem_configureMqttHandlers (id : String) :
    id ∈ (configureMqttHandlers platform (some nodes) metrics).1 ↔
      id ≠ "" ∧ ∃ node ∈ nodes, platform.trim node.id = id ∧
        (node.captured platform ((metrics.lookup id).getD [])).isSome = true := by
  rw [← Finmap.lookup_isSome, lookup_configureMqttHandlers]
  constructor
  · intro h
    obtain ⟨handler, hhandler⟩ := Option.isSome_iff_exists.mp h
    obtain ⟨hid, node, hnode, htrim, hcaptured⟩ := storedHandler_source hhandler
    exact ⟨hid, node, hnode, htrim, by rw [hcaptured]; rfl⟩
  · intro h
    obtain ⟨hid, node, hnode, htrim, hcaptured⟩ := h
    unfold storedHandler
    rw [if_neg (by simpa using hid), List.findSome?_isSome_iff]
    exact ⟨node, hnode, by rw [if_pos htrim]; exact hcaptured⟩

/-- A configuration that captures nothing from the original map, has no id, or comes after its id
was stored could as well be missing. -/
theorem configureMqttHandlers_drop (before : List HandlerNode) (node : HandlerNode)
    (after : List HandlerNode)
    (hunstored : node.captured platform ((metrics.lookup (platform.trim node.id)).getD []) = none ∨
      platform.trim node.id = "" ∨
      platform.trim node.id ∈ (configureMqttHandlers platform (some before) metrics).1) :
    (configureMqttHandlers platform (some (before ++ after)) metrics).1 =
      (configureMqttHandlers platform (some (before ++ node :: after)) metrics).1 := by
  apply Finmap.ext_lookup
  intro id
  rw [lookup_configureMqttHandlers, lookup_configureMqttHandlers]
  unfold storedHandler
  split
  · rfl
  · rename_i hid
    rw [List.findSome?_append, List.findSome?_append, List.findSome?_cons]
    by_cases htrim : platform.trim node.id = id
    · subst htrim
      rw [if_pos rfl]
      rcases hunstored with hnone | hempty | hstored
      · rw [hnone]
      · exact absurd (by simpa using hempty) hid
      · rw [← Finmap.lookup_isSome, lookup_configureMqttHandlers] at hstored
        obtain ⟨handler, hhandler⟩ := Option.isSome_iff_exists.mp hstored
        unfold storedHandler at hhandler
        rw [if_neg hid] at hhandler
        rw [hhandler, Option.some_or, Option.some_or]
    · rw [if_neg htrim]

/-- The metrics of a stored handler come from the original list of its id. -/
theorem mem_list_of_stored {id : String} {handler : MqttHandler}
    (h : storedHandler platform nodes metrics id = some handler) {ref : MetricRef}
    (href : ref ∈ handler.metrics) : ∃ list, metrics.lookup id = some list ∧ some ref ∈ list := by
  obtain ⟨_, node, _, _, hcaptured⟩ := storedHandler_source h
  have hmem := (node.captured_spec platform hcaptured).2.2 ref href
  cases hlookup : metrics.lookup id with
  | none =>
    rw [hlookup] at hmem
    exact absurd hmem List.not_mem_nil
  | some list =>
    rw [hlookup] at hmem
    exact ⟨list, rfl, hmem⟩

end Store

/-- The store built by emptying the shared metrics map is the store specified on the original
map. It holds exactly the non-empty ids for which some configuration captures a metric of the
original list. A configuration that ends up not stored could as well be missing, and no metric
object belongs to two stored handlers. -/
theorem configureMqttHandlers_refines (platform : ConfigPlatform) (nodes : List HandlerNode)
    (metrics : MetricsMap) :
    let store := (configureMqttHandlers platform (some nodes) metrics).1
    (∀ id, store.lookup id = storedHandler platform nodes metrics id) ∧
      (∀ id, id ∈ store ↔ id ≠ "" ∧ ∃ node ∈ nodes, platform.trim node.id = id ∧
        (node.captured platform ((metrics.lookup id).getD [])).isSome = true) ∧
      (∀ before node after, nodes = before ++ node :: after →
        (node.captured platform ((metrics.lookup (platform.trim node.id)).getD []) = none ∨
          platform.trim node.id = "" ∨
          platform.trim node.id ∈ (configureMqttHandlers platform (some before) metrics).1) →
        (configureMqttHandlers platform (some (before ++ after)) metrics).1 = store) ∧
      (metrics.Unshared → ∀ id₁ id₂ handler₁ handler₂, store.lookup id₁ = some handler₁ →
        store.lookup id₂ = some handler₂ → ∀ ref₁ ∈ handler₁.metrics, ∀ ref₂ ∈ handler₂.metrics,
          ref₁.addr = ref₂.addr → id₁ = id₂) := by
  intro store
  have hstore := lookup_configureMqttHandlers platform nodes metrics
  refine ⟨hstore, mem_configureMqttHandlers platform nodes metrics,
    fun before node after hnodes hunstored => ?_,
    fun hunshared id₁ id₂ handler₁ handler₂ h₁ h₂ ref₁ href₁ ref₂ href₂ haddr => ?_⟩
  · rw [configureMqttHandlers_drop platform metrics before node after hunstored, ← hnodes]
  · rw [hstore] at h₁ h₂
    obtain ⟨list₁, hlookup₁, hmem₁⟩ := mem_list_of_stored platform nodes metrics h₁ href₁
    obtain ⟨list₂, hlookup₂, hmem₂⟩ := mem_list_of_stored platform nodes metrics h₂ href₂
    exact hunshared id₁ id₂ list₁ list₂ ref₁ ref₂ hlookup₁ hlookup₂ hmem₁ hmem₂ haddr

end MqttBridge
