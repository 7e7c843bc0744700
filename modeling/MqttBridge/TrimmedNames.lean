import MqttBridge.CreatedMetrics
import MqttBridge.HandlerStore

/-!
# Blanks around names

Handler ids, property names and JSON pointers link the sections by their texts. The handlers pass
trims all of them and the metrics pass trims its ids, but a metric keeps its property name as it
is written. A property with blanks around it is then never matched by a json handler, and one of
blanks only counts as a property. A configuration is compared here with the same configuration
with every such name trimmed.
-/

namespace MqttBridge

section Names

variable (platform : ConfigPlatform)

/-- A handler entry with its names trimmed. -/
def MetricHandlerNode.trimmed (entry : MetricHandlerNode) : MetricHandlerNode :=
  { entry with
    handlerId := platform.trim entry.handlerId
    property := entry.property.map platform.trim }

/-- A metrics entry with the names of its handler entries trimmed. -/
def MetricNode.trimmed (node : MetricNode) : MetricNode :=
  { node with handlers := node.handlers.map (MetricHandlerNode.trimmed platform) }

/-- An item of a sequence with its text trimmed. -/
def PropertyItem.trimmed : PropertyItem → PropertyItem
  | scalar text => scalar (platform.trim text)
  | other => other

/-- A `properties` node with its property names and JSON pointers trimmed. -/
def PropertiesNode.trimmed : PropertiesNode → PropertiesNode
  | none => none
  | sequence items => sequence (items.map (PropertyItem.trimmed platform))
  | map entries => map (entries.map fun entry => (platform.trim entry.1, platform.trim entry.2))

/-- A handlers entry with its names trimmed. -/
def HandlerNode.trimmed (node : HandlerNode) : HandlerNode :=
  { node with id := platform.trim node.id, properties := node.properties.trimmed platform }

/-- A metric with its property name trimmed. -/
def Metric.trimmed (metric : Metric) : Metric :=
  { metric with property := platform.trim metric.property }

/-- Nothing happens to a property name without blanks around it. -/
theorem Metric.trimmed_of_trim {platform : ConfigPlatform} {metric : Metric}
    (h : platform.trim metric.property = metric.property) : metric.trimmed platform = metric := by
  rw [Metric.trimmed, h]

/-- A metric object with its property name trimmed. -/
def MetricRef.trimmed (ref : MetricRef) : MetricRef :=
  { ref with metric := ref.metric.trimmed platform }

/-- A handler with the property names of its metrics trimmed. -/
def MqttHandler.trimmed : MqttHandler → MqttHandler
  | json id pointers metricCount =>
    json id (pointers.map fun entry => (entry.1, entry.2.map (MetricRef.trimmed platform)))
      metricCount
  | value id metrics metricCount => value id (metrics.map (MetricRef.trimmed platform)) metricCount

end Names

section Metrics

variable {platform : ConfigPlatform} {defaultTimestamp : MetricTimestamp}

/-- The metric made for a handler entry that is looked at, with its id. -/
def madeEntry (platform : ConfigPlatform) (defaultTimestamp : MetricTimestamp)
    (pair : MetricNode × MetricHandlerNode) : Option (String × Metric) :=
  (pair.1.make platform defaultTimestamp pair.2).map fun metric =>
    (platform.trim pair.2.handlerId, metric)

/-- The same with all names trimmed before. -/
def madeTrimmed (platform : ConfigPlatform) (defaultTimestamp : MetricTimestamp)
    (pair : MetricNode × MetricHandlerNode) : Option (String × Metric) :=
  madeEntry platform defaultTimestamp (pair.1.trimmed platform, pair.2.trimmed platform)

/-- Nothing is made for a handler entry without a property. -/
theorem made_of_none {pair : MetricNode × MetricHandlerNode} (h : pair.2.property = none) :
    madeEntry platform defaultTimestamp pair = none ∧
      madeTrimmed platform defaultTimestamp pair = none := by
  simp [madeTrimmed, madeEntry, MetricNode.make, MetricHandlerNode.trimmed, h]

/-- What is made for a handler entry with a property. -/
theorem madeEntry_of_some {pair : MetricNode × MetricHandlerNode} {property : String}
    (h : pair.2.property = some property) :
    madeEntry platform defaultTimestamp pair =
      if property = "" then none
      else some (platform.trim pair.2.handlerId,
        pair.1.create platform defaultTimestamp pair.2 property) := by
  by_cases hempty : property = "" <;> simp [madeEntry, MetricNode.make, h, hempty]

/-- A metric that is made has the entry's property, which is not empty. -/
theorem property_of_madeEntry {pair : MetricNode × MetricHandlerNode} {made : String × Metric}
    (h : madeEntry platform defaultTimestamp pair = some made) :
    pair.2.property = some made.2.property ∧ made.2.property ≠ "" := by
  cases hproperty : pair.2.property with
  | none =>
    rw [(made_of_none hproperty).1] at h
    cases h
  | some property =>
    rw [madeEntry_of_some hproperty] at h
    obtain ⟨hne, hmade⟩ := Option.ite_none_left_eq_some.mp h
    rw [← Option.some.inj hmade]
    exact ⟨rfl, hne⟩

variable (hidem : ∀ text, platform.trim (platform.trim text) = platform.trim text)

include hidem

/-- Trimming the names before the pass changes the handler entries it looks at, not which. -/
theorem createdMetrics_trimmed (nodes : List MetricNode) :
    createdMetrics platform defaultTimestamp (nodes.map (MetricNode.trimmed platform)) =
      (lookedAt platform nodes).filterMap (madeTrimmed platform defaultTimestamp) := by
  have hlookedAt : lookedAt platform (nodes.map (MetricNode.trimmed platform)) =
      (lookedAt platform nodes).map fun pair =>
        (pair.1.trimmed platform, pair.2.trimmed platform) := by
    have hfirst : ∀ node : MetricNode, (node.trimmed platform).firstEntries platform =
        (node.firstEntries platform).map (MetricHandlerNode.trimmed platform) := fun node =>
      firstBy_map _ _ (fun entry => hidem entry.handlerId) node.handlers
    simp [lookedAt, List.flatMap_map, List.map_flatMap, hfirst, Function.comp_def]
  rw [createdMetrics, hlookedAt, madeFor, List.filterMap_map]
  rfl

/-- What is made for it with its names trimmed: the metric with a trimmed property. -/
theorem madeTrimmed_of_some {pair : MetricNode × MetricHandlerNode} {property : String}
    (h : pair.2.property = some property) :
    madeTrimmed platform defaultTimestamp pair =
      if platform.trim property = "" then none
      else some (platform.trim pair.2.handlerId,
        (pair.1.create platform defaultTimestamp pair.2 property).trimmed platform) := by
  have hproperty : (pair.2.trimmed platform).property = some (platform.trim property) := by
    simp [MetricHandlerNode.trimmed, h]
  rw [madeTrimmed, madeEntry_of_some hproperty]
  dsimp only [MetricHandlerNode.trimmed]
  rw [hidem]
  rfl

/-- What is made of trimmed names has a property that is trimmed and not empty. -/
theorem property_of_madeTrimmed {pair : MetricNode × MetricHandlerNode} {made : String × Metric}
    (h : madeTrimmed platform defaultTimestamp pair = some made) :
    platform.trim made.2.property = made.2.property ∧ made.2.property ≠ "" := by
  obtain ⟨hproperty, hne⟩ := property_of_madeEntry h
  obtain ⟨property, _, htrim⟩ := Option.map_eq_some_iff.mp hproperty
  rw [← htrim] at hne ⊢
  exact ⟨hidem property, hne⟩

/-- The same is made for a handler entry exactly if its property has no blanks around it. -/
theorem madeTrimmed_eq_iff (pair : MetricNode × MetricHandlerNode) :
    madeEntry platform defaultTimestamp pair = madeTrimmed platform defaultTimestamp pair ↔
      ∀ property, pair.2.property = some property → platform.trim property = property := by
  cases hproperty : pair.2.property with
  | none => simp [(made_of_none hproperty).1, (made_of_none hproperty).2]
  | some property =>
    rw [madeEntry_of_some hproperty, madeTrimmed_of_some hidem hproperty]
    simp only [Option.some.injEq, forall_eq']
    constructor
    · intro hsame
      by_cases hempty : property = ""
      · rw [if_pos hempty] at hsame
        have hblank : platform.trim property = "" := by
          by_contra hne
          rw [if_neg hne] at hsame
          cases hsame
        rw [hblank, hempty]
      · rw [if_neg hempty] at hsame
        obtain ⟨_, hmade⟩ := Option.ite_none_left_eq_some.mp hsame.symm
        exact congrArg (fun made => made.2.property) (Option.some.inj hmade)
    · intro htrim
      rw [htrim, Metric.trimmed_of_trim htrim]

/-- The metrics pass makes the same metrics of trimmed names exactly if no property name it looks at
has blanks around it. -/
theorem createdMetrics_trimmed_eq_iff (defaultTimestamp : MetricTimestamp)
    (nodes : List MetricNode) :
    createdMetrics platform defaultTimestamp (nodes.map (MetricNode.trimmed platform)) =
        createdMetrics platform defaultTimestamp nodes ↔
      ∀ pair ∈ lookedAt platform nodes, ∀ property, pair.2.property = some property →
        platform.trim property = property := by
  rw [createdMetrics_trimmed hidem, eq_comm]
  change (lookedAt platform nodes).filterMap (madeEntry platform defaultTimestamp) = _ ↔ _
  refine (filterMap_eq_iff_of_mem _ fun pair _ made hmem hmade => ?_).trans ?_
  · obtain ⟨_, _, hsource⟩ := List.mem_filterMap.mp hmem
    obtain ⟨htrim, _⟩ := property_of_madeTrimmed hidem hsource
    obtain ⟨hproperty, _⟩ := property_of_madeEntry hmade
    rw [← (madeTrimmed_eq_iff hidem pair).mpr, hmade]
    intro property hsome
    rw [hproperty] at hsome
    rw [← Option.some.inj hsome, htrim]
  · exact forall₂_congr fun pair _ => madeTrimmed_eq_iff hidem pair

/-- The metric made is the same but for its property name exactly if trimming leaves some of a name
that is not empty, and nothing of an empty one. -/
theorem madeTrimmed_eq_map_iff (pair : MetricNode × MetricHandlerNode) :
    (madeEntry platform defaultTimestamp pair).map (Prod.map id (Metric.trimmed platform)) =
        madeTrimmed platform defaultTimestamp pair ↔
      ∀ property, pair.2.property = some property →
        (property = "" ↔ platform.trim property = "") := by
  cases hproperty : pair.2.property with
  | none => simp [(made_of_none hproperty).1, (made_of_none hproperty).2]
  | some property =>
    rw [madeEntry_of_some hproperty, madeTrimmed_of_some hidem hproperty]
    by_cases hempty : property = "" <;> by_cases hblank : platform.trim property = "" <;>
      simp [hempty, hblank]

/-- The metrics pass makes the same metrics of trimmed names, but for the property names, exactly if
no property name it looks at consists of blanks only. -/
theorem createdMetrics_trimmed_eq_map_iff (defaultTimestamp : MetricTimestamp)
    (nodes : List MetricNode) :
    createdMetrics platform defaultTimestamp (nodes.map (MetricNode.trimmed platform)) =
        (createdMetrics platform defaultTimestamp nodes).map
          (Prod.map id (Metric.trimmed platform)) ↔
      ∀ pair ∈ lookedAt platform nodes, ∀ property, pair.2.property = some property →
        (property = "" ↔ platform.trim property = "") := by
  rw [createdMetrics_trimmed hidem, eq_comm]
  change ((lookedAt platform nodes).filterMap (madeEntry platform defaultTimestamp)).map _ = _ ↔ _
  rw [List.map_filterMap]
  refine (filterMap_eq_iff_of_mem _ fun pair _ made hmem hmade => ?_).trans ?_
  · obtain ⟨_, _, hsource⟩ := List.mem_filterMap.mp hmem
    obtain ⟨_, hne⟩ := property_of_madeTrimmed hidem hsource
    obtain ⟨original, horiginal, rfl⟩ := Option.map_eq_some_iff.mp hmade
    obtain ⟨hproperty, hnonempty⟩ := property_of_madeEntry horiginal
    rw [← (madeTrimmed_eq_map_iff hidem pair).mpr, hmade]
    intro property hsome
    rw [hproperty] at hsome
    rw [← Option.some.inj hsome]
    exact iff_of_false hnonempty hne
  · exact forall₂_congr fun pair _ => madeTrimmed_eq_map_iff hidem pair

end Metrics

section Handlers

variable {platform : ConfigPlatform}

/-- A handlers entry takes a metric with a property out of the list of its id: any metric if its
type is `value`, none if it is `text`, and otherwise one whose property it attaches. -/
def HandlerNode.Takes (platform : ConfigPlatform) (node : HandlerNode) (property : String) : Prop :=
  node.typeName platform = "value" ∨ node.typeName platform ≠ "text" ∧
    property ∈ (attachable platform (node.properties.listed platform)).map JsonProperty.property

/-- What is taken, by the decoded type. -/
theorem HandlerNode.takes_iff (node : HandlerNode) (property : String) :
    node.Takes platform property ↔
      match decodeType platform node.type with
      | .json =>
        property ∈ (attachable platform (node.properties.listed platform)).map JsonProperty.property
      | .text => False
      | .value => True := by
  unfold Takes
  cases htype : decodeType platform node.type with
  | json =>
    obtain ⟨hvalue, htext⟩ := (node.decodeType_eq_json platform).mp htype
    simp [hvalue, htext]
  | text =>
    rw [decodeType_eq] at htype
    split_ifs at htype with hvalue htext
    simp [htext]
  | value => simp [(node.decodeType_eq_value platform).mp htype]

/-- What a handlers entry captures for an id. -/
def HandlerNode.capturedFor (platform : ConfigPlatform) (id : String) (list : List MetricPtr)
    (node : HandlerNode) : Option MqttHandler :=
  if platform.trim node.id = id then node.captured platform list else none

/-- A metric that an entry takes only under its trimmed property name has had its id served by an
earlier entry. -/
def TakenAlike (platform : ConfigPlatform) (nodes : List HandlerNode) (id : String)
    (list : List MetricPtr) : Prop :=
  ∀ before node after, nodes = before ++ node :: after → platform.trim node.id = id →
    ∀ ref, some ref ∈ list → node.Takes platform (platform.trim ref.metric.property) →
      node.Takes platform ref.metric.property ∨
        ∃ earlier ∈ before, platform.trim earlier.id = id ∧
          ∃ other, some other ∈ list ∧
            earlier.Takes platform (platform.trim other.metric.property)

/-- Trimming the property names of a list changes nothing else about what is attached if no metric
is attached only because of it. -/
theorem attachments_map_trimmed (list : List MetricPtr) (pairs : List JsonProperty)
    (htrim : ∀ p ∈ pairs, platform.trim p.property = p.property)
    (h : ∀ ref, some ref ∈ list →
      platform.trim ref.metric.property ∈ pairs.map JsonProperty.property →
        ref.metric.property ∈ pairs.map JsonProperty.property) :
    attachments (list.map (Option.map (MetricRef.trimmed platform))) pairs =
      (attachments list pairs).map fun batch =>
        (batch.1, batch.2.map (MetricRef.trimmed platform)) := by
  have hreduce : (list.map (Option.map (MetricRef.trimmed platform))).reduceOption =
      list.reduceOption.map (MetricRef.trimmed platform) := List.reduceOption_map
  have hwith : ∀ p ∈ pairs,
      metricsWith (list.map (Option.map (MetricRef.trimmed platform))) p.property =
        (metricsWith list p.property).map (MetricRef.trimmed platform) := by
    intro p hp
    rw [metricsWith, metricsWith, hreduce, List.filter_map]
    congr 1
    refine List.filter_congr fun ref href => decide_eq_decide.mpr ?_
    change platform.trim ref.metric.property = p.property ↔ ref.metric.property = p.property
    constructor
    · intro hsame
      have hmem := h ref (List.reduceOption_mem_iff.mp href)
        (hsame ▸ List.mem_map_of_mem hp)
      obtain ⟨q, hq, hproperty⟩ := List.mem_map.mp hmem
      rw [← hsame, ← hproperty, htrim q hq]
    · intro hsame
      rw [hsame, htrim p hp]
  rw [attachments, attachments, List.map_map]
  refine List.map_congr_left fun p hp => ?_
  rw [hwith p hp]
  rfl

namespace HandlerNode

variable {node : HandlerNode} {property : String}

/-- A captured handler owns the metrics of the list that the entry takes. -/
theorem mem_metrics_captured {list : List MetricPtr} {handler : MqttHandler}
    (h : node.captured platform list = some handler) (ref : MetricRef) :
    ref ∈ handler.metrics ↔ some ref ∈ list ∧ node.Takes platform ref.metric.property := by
  rw [takes_iff]
  obtain ⟨htype, _, rfl⟩ | ⟨htype, _, rfl⟩ := node.captured_cases platform h
  · rw [htype, MqttHandler.metrics, (flatMap_collect_perm _).mem_iff, mem_flatMap_attachments]
  · rw [htype, MqttHandler.metrics, List.reduceOption_mem_iff, and_true]

/-- A handlers entry captures a handler exactly if it takes a metric of the list. -/
theorem isSome_captured (list : List MetricPtr) :
    (node.captured platform list).isSome = true ↔
      ∃ ref, some ref ∈ list ∧ node.Takes platform ref.metric.property := by
  constructor
  · intro hsome
    obtain ⟨handler, hcaptured⟩ := Option.isSome_iff_exists.mp hsome
    obtain ⟨_, hne, _⟩ := node.captured_spec platform hcaptured
    obtain ⟨ref, href⟩ := List.exists_mem_of_ne_nil _ hne
    exact ⟨ref, (mem_metrics_captured hcaptured ref).mp href⟩
  · intro htaken
    obtain ⟨ref, href, htakes⟩ := htaken
    rw [takes_iff] at htakes
    rw [captured_eq_match]
    cases htype : decodeType platform node.type with
    | json =>
      rw [htype] at htakes
      have hattached := (mem_flatMap_attachments _ _ ref).mpr ⟨href, htakes⟩
      have hpositive := List.length_pos_of_mem hattached
      rw [← batchTotal_eq_length] at hpositive
      simp [hpositive]
    | text =>
      rw [htype] at htakes
      exact htakes.elim
    | value =>
      have hne := List.ne_nil_of_mem (List.reduceOption_mem_iff.mpr href)
      simp [hne]

end HandlerNode

/-- The objects of a list with trimmed property names. -/
theorem mem_map_trimmed (list : List MetricPtr) (ref : MetricRef) :
    some ref ∈ list.map (Option.map (MetricRef.trimmed platform)) ↔
      ∃ original, some original ∈ list ∧ original.trimmed platform = ref := by
  constructor
  · intro hmem
    obtain ⟨ptr, hptr, hmap⟩ := List.mem_map.mp hmem
    obtain ⟨original, rfl, horiginal⟩ := Option.map_eq_some_iff.mp hmap
    exact ⟨original, hptr, horiginal⟩
  · intro horiginal
    obtain ⟨original, hmem, rfl⟩ := horiginal
    exact List.mem_map.mpr ⟨some original, hmem, rfl⟩

/-- A handlers entry captures a handler of the trimmed list exactly if it takes a metric of the list
under its trimmed property name. -/
theorem HandlerNode.isSome_captured_map_trimmed (node : HandlerNode) (list : List MetricPtr) :
    (node.captured platform (list.map (Option.map (MetricRef.trimmed platform)))).isSome = true ↔
      ∃ ref, some ref ∈ list ∧ node.Takes platform (platform.trim ref.metric.property) := by
  rw [isSome_captured]
  constructor
  · intro htaken
    obtain ⟨ref, href, htakes⟩ := htaken
    obtain ⟨original, horiginal, rfl⟩ := (mem_map_trimmed list ref).mp href
    exact ⟨original, horiginal, htakes⟩
  · intro htaken
    obtain ⟨ref, href, htakes⟩ := htaken
    exact ⟨ref.trimmed platform, (mem_map_trimmed list _).mpr ⟨ref, href, rfl⟩, htakes⟩

/-- An entry captures for its own id only. -/
theorem HandlerNode.capturedFor_eq_some {node : HandlerNode} {id : String} {list : List MetricPtr}
    {handler : MqttHandler} :
    node.capturedFor platform id list = some handler ↔
      platform.trim node.id = id ∧ node.captured platform list = some handler :=
  Option.ite_none_right_eq_some

/-- The metrics of a handler with trimmed property names. -/
theorem MqttHandler.metrics_trimmed (handler : MqttHandler) :
    (handler.trimmed platform).metrics = handler.metrics.map (MetricRef.trimmed platform) := by
  cases handler <;> simp [trimmed, metrics, List.flatMap_map, List.map_flatMap]

variable (hidem : ∀ text, platform.trim (platform.trim text) = platform.trim text)

include hidem

/-- A trimmed `properties` node lists the same pairs. -/
theorem PropertiesNode.listed_trimmed (node : PropertiesNode) :
    (node.trimmed platform).listed platform = node.listed platform := by
  cases node with
  | none => rfl
  | sequence items =>
    rw [trimmed, listed, listed, List.filterMap_map]
    refine List.filterMap_congr fun item _ => ?_
    cases item with
    | scalar text => simp [PropertyItem.trimmed, JsonProperty.ofItem, hidem]
    | other => rfl
  | map entries =>
    simp [trimmed, listed, JsonProperty.ofEntry, hidem, Function.comp_def]

/-- A trimmed handlers entry captures the same. -/
theorem HandlerNode.captured_trimmed (node : HandlerNode) (list : List MetricPtr) :
    (node.trimmed platform).captured platform list = node.captured platform list := by
  simp only [captured_eq_match, trimmed, hidem, PropertiesNode.listed_trimmed hidem]

/-- Trimmed handlers entries are stored the same way. -/
theorem storedHandler_trimmed (nodes : List HandlerNode) (metrics : MetricsMap) (id : String) :
    storedHandler platform (nodes.map (HandlerNode.trimmed platform)) metrics id =
      storedHandler platform nodes metrics id := by
  have hid : ∀ node : HandlerNode,
      platform.trim (node.trimmed platform).id = platform.trim node.id := fun node =>
    hidem node.id
  simp only [storedHandler, List.findSome?_map, Function.comp_def, hid,
    HandlerNode.captured_trimmed hidem]

/-- Properties a json handler lists are trimmed. -/
theorem trim_listed (node : PropertiesNode) :
    ∀ p ∈ node.listed platform, platform.trim p.property = p.property := by
  intro p hp
  cases node with
  | none => exact absurd hp List.not_mem_nil
  | sequence items =>
    obtain ⟨item, _, hitem⟩ := List.mem_filterMap.mp hp
    cases item with
    | scalar text =>
      cases hitem
      exact hidem text
    | other => cases hitem
  | map entries =>
    obtain ⟨entry, _, rfl⟩ := List.mem_map.mp hp
    exact hidem entry.2

/-- So are those whose metrics it attaches. -/
theorem trim_attachable (node : PropertiesNode) :
    ∀ p ∈ attachable platform (node.listed platform), platform.trim p.property = p.property := by
  intro p hp
  have hfirst := (List.mem_filter.mp hp).1
  have hlisted := (List.mem_filter.mp (mem_of_mem_firstBy _ _ p hfirst)).1
  exact trim_listed hidem node p hlisted

namespace HandlerNode

variable {node : HandlerNode} {property : String}

/-- A property a json handler takes is trimmed. -/
theorem Takes.trim_eq (h : node.Takes platform property)
    (htype : decodeType platform node.type ≠ .value) : platform.trim property = property := by
  rw [takes_iff] at h
  cases hjson : decodeType platform node.type with
  | json =>
    rw [hjson] at h
    obtain ⟨p, hp, rfl⟩ := List.mem_map.mp h
    exact trim_attachable hidem node.properties p hp
  | text =>
    rw [hjson] at h
    exact h.elim
  | value => exact absurd hjson htype

/-- What is taken under its name is taken under its trimmed name. -/
theorem Takes.trim (h : node.Takes platform property) :
    node.Takes platform (platform.trim property) := by
  by_cases htype : decodeType platform node.type = .value
  · simp [takes_iff, htype]
  · rw [h.trim_eq hidem htype]
    exact h

/-- Trimming the property names of a list changes nothing else about what is captured if no metric
is taken only because of it. -/
theorem captured_map_trimmed (list : List MetricPtr)
    (h : ∀ ref, some ref ∈ list → node.Takes platform (platform.trim ref.metric.property) →
      node.Takes platform ref.metric.property) :
    node.captured platform (list.map (Option.map (MetricRef.trimmed platform))) =
      (node.captured platform list).map (MqttHandler.trimmed platform) := by
  have hreduce : (list.map (Option.map (MetricRef.trimmed platform))).reduceOption =
      list.reduceOption.map (MetricRef.trimmed platform) := List.reduceOption_map
  rw [captured_eq_match, captured_eq_match]
  simp only [takes_iff] at h
  cases htype : decodeType platform node.type with
  | text => rfl
  | value =>
    simp only [hreduce, List.isEmpty_map, List.length_map]
    split <;> rfl
  | json =>
    rw [htype] at h
    dsimp only at h ⊢
    have hattachments := attachments_map_trimmed list
      (attachable platform (node.properties.listed platform))
      (trim_attachable hidem node.properties) h
    have htotal : batchTotal (attachments (list.map (Option.map (MetricRef.trimmed platform)))
        (attachable platform (node.properties.listed platform))) =
        batchTotal (attachments list
          (attachable platform (node.properties.listed platform))) := by
      rw [hattachments]
      simp [batchTotal, Function.comp_def]
    rw [htotal, hattachments, collect_map]
    split <;> rfl

end HandlerNode

/-- An entry that captures nothing of the trimmed list captures nothing of the list. -/
theorem HandlerNode.capturedFor_eq_none {node : HandlerNode} {id : String} {list : List MetricPtr}
    (h : node.capturedFor platform id (list.map (Option.map (MetricRef.trimmed platform))) = none) :
    node.capturedFor platform id list = none := by
  refine Option.eq_none_iff_forall_ne_some.mpr fun handler hhandler => ?_
  obtain ⟨hid, hcaptured⟩ := capturedFor_eq_some.mp hhandler
  obtain ⟨ref, href, htakes⟩ := (isSome_captured list).mp (Option.isSome_of_eq_some hcaptured)
  have htrimmed := (node.isSome_captured_map_trimmed list).mpr ⟨ref, href, htakes.trim hidem⟩
  rw [capturedFor, if_pos hid] at h
  rw [h] at htrimmed
  cases htrimmed

section Serving

variable {nodes : List HandlerNode} {id : String} {list : List MetricPtr}

/-- If metrics are taken alike, an id gets the same handler from the trimmed list. -/
theorem TakenAlike.findSome?_eq (h : TakenAlike platform nodes id list) :
    nodes.findSome? (HandlerNode.capturedFor platform id
        (list.map (Option.map (MetricRef.trimmed platform)))) =
      (nodes.findSome? (HandlerNode.capturedFor platform id list)).map
        (MqttHandler.trimmed platform) := by
  cases hfirst : nodes.findSome? (HandlerNode.capturedFor platform id
      (list.map (Option.map (MetricRef.trimmed platform)))) with
  | none =>
    have hall := List.findSome?_eq_none_iff.mp hfirst
    have hnone : nodes.findSome? (HandlerNode.capturedFor platform id list) = none :=
      List.findSome?_eq_none_iff.mpr fun node hnode =>
        HandlerNode.capturedFor_eq_none hidem (hall node hnode)
    rw [hnone, Option.map_none]
  | some trimmed =>
    obtain ⟨before, node, after, hsplit, hnode, hbefore⟩ := List.findSome?_eq_some_iff.mp hfirst
    obtain ⟨hid, hcaptured⟩ := HandlerNode.capturedFor_eq_some.mp hnode
    have halike : ∀ ref, some ref ∈ list →
        node.Takes platform (platform.trim ref.metric.property) →
          node.Takes platform ref.metric.property := by
      intro ref href htakes
      rcases h before node after hsplit hid ref href htakes with
        halike | ⟨earlier, hearlier, hid', other⟩
      · exact halike
      · -- The earlier entry would have captured a handler of the trimmed list.
        have hserved := (earlier.isSome_captured_map_trimmed list).mpr other
        have hunserved := hbefore earlier hearlier
        rw [HandlerNode.capturedFor, if_pos hid'] at hunserved
        rw [hunserved] at hserved
        cases hserved
    rw [HandlerNode.captured_map_trimmed hidem list halike] at hcaptured
    obtain ⟨handler, hhandler, rfl⟩ := Option.map_eq_some_iff.mp hcaptured
    have hstored : nodes.findSome? (HandlerNode.capturedFor platform id list) = some handler :=
      List.findSome?_eq_some_iff.mpr ⟨before, node, after, hsplit,
        HandlerNode.capturedFor_eq_some.mpr ⟨hid, hhandler⟩, fun earlier hearlier =>
          HandlerNode.capturedFor_eq_none hidem (hbefore earlier hearlier)⟩
    rw [hstored, Option.map_some]

/-- If an id gets the same handler from the trimmed list, metrics are taken alike. A metric that is
taken from the trimmed list is found by its address in the handler from the list itself, and no
json handler there takes a property name with blanks. -/
theorem takenAlike_of_findSome?_eq
    (hunique : ∀ ref₁ ref₂ : MetricRef, some ref₁ ∈ list → some ref₂ ∈ list →
      ref₁.addr = ref₂.addr → ref₁ = ref₂)
    (h : nodes.findSome? (HandlerNode.capturedFor platform id
        (list.map (Option.map (MetricRef.trimmed platform)))) =
      (nodes.findSome? (HandlerNode.capturedFor platform id list)).map
        (MqttHandler.trimmed platform)) : TakenAlike platform nodes id list := by
  intro before node after hsplit hid ref href htakes
  by_cases hserved : ∃ earlier ∈ before, platform.trim earlier.id = id ∧
      ∃ other, some other ∈ list ∧ earlier.Takes platform (platform.trim other.metric.property)
  · exact Or.inr hserved
  by_cases hvalue : decodeType platform node.type = .value
  · exact Or.inl (by simp [HandlerNode.takes_iff, hvalue])
  left
  obtain ⟨trimmed, hcaptured⟩ := Option.isSome_iff_exists.mp
    ((node.isSome_captured_map_trimmed list).mpr ⟨ref, href, htakes⟩)
  have hfirst : nodes.findSome? (HandlerNode.capturedFor platform id
      (list.map (Option.map (MetricRef.trimmed platform)))) = some trimmed := by
    refine List.findSome?_eq_some_iff.mpr ⟨before, node, after, hsplit,
      HandlerNode.capturedFor_eq_some.mpr ⟨hid, hcaptured⟩, fun earlier hearlier => ?_⟩
    refine Option.eq_none_iff_forall_ne_some.mpr fun handler hhandler => hserved ?_
    obtain ⟨hid', hhandler⟩ := HandlerNode.capturedFor_eq_some.mp hhandler
    exact ⟨earlier, hearlier, hid',
      (earlier.isSome_captured_map_trimmed list).mp (Option.isSome_of_eq_some hhandler)⟩
  rw [hfirst] at h
  obtain ⟨handler, hhandler, htrimmed⟩ := Option.map_eq_some_iff.mp h.symm
  obtain ⟨other, _, hother⟩ := List.exists_of_findSome?_eq_some hhandler
  obtain ⟨_, hother⟩ := HandlerNode.capturedFor_eq_some.mp hother
  have hjson : decodeType platform other.type ≠ .value := by
    intro hvalue'
    obtain ⟨_, _, rfl⟩ | ⟨htype, _, _⟩ := node.captured_cases platform hcaptured
    · obtain ⟨htype, _, _⟩ | ⟨_, _, rfl⟩ := other.captured_cases platform hother
      · rw [htype] at hvalue'
        cases hvalue'
      · cases htrimmed
    · exact hvalue htype
  have hmem : ref.trimmed platform ∈ trimmed.metrics :=
    (HandlerNode.mem_metrics_captured hcaptured _).mpr
      ⟨(mem_map_trimmed list _).mpr ⟨ref, href, rfl⟩, htakes⟩
  rw [← htrimmed, MqttHandler.metrics_trimmed, List.mem_map] at hmem
  obtain ⟨found, hfound, hsame⟩ := hmem
  obtain ⟨hfound, htaken⟩ := (HandlerNode.mem_metrics_captured hother found).mp hfound
  have haddr : (found.trimmed platform).addr = (ref.trimmed platform).addr := by rw [hsame]
  rw [hunique found ref hfound href haddr] at htaken
  rw [← htaken.trim_eq hidem hjson]
  exact htakes

end Serving

end Handlers

end MqttBridge
