import Mathlib.Data.String.Basic
import MqttBridge.Handler
import MqttBridge.Library.FlatMap
import MqttBridge.Library.SortedVector

/-!
# The metrics section

`configure_prometheus_metrics` creates one metric object per metrics entry and handler id, and
lists the objects under their handler ids in a map. Sections are given by the text the code
reads from each of their nodes. Each object is new, so no two lists of the map share one.
-/

namespace MqttBridge

/-- `MetricPtr`, null once its metric has been moved out. -/
abbrev MetricPtr := Option MetricRef

/-- `MetricsMap`: the metrics of each handler id. -/
abbrev MetricsMap := FlatMap String (List MetricPtr)

/-- The functions the configuration passes call that are not part of this repository.
`acceptsPointer` says whether the pointer builder returns a place for a JSON pointer, and
`topicValidate` whether a text is a valid topic filter. -/
structure ConfigPlatform where
  trim : String → String
  toLower : String → String
  decodeMetricTypeName : Option String → MetricType
  decodeMetricUnitName : Option String → MetricUnit
  decodeMetricTimestamp : String → MetricTimestamp → MetricTimestamp
  jsonPointerTrim : String → String
  acceptsPointer : String → Bool
  topicTrim : String → String
  topicValidate : String → Bool
  findIterPos : List String → String → ℕ × Bool

/-- Concrete functions in the place of the missing ones, for running the passes on examples. -/
def ConfigPlatform.reference : ConfigPlatform where
  trim := trimBlanks
  toLower := fun text => .ofList (text.toList.map Char.toLower)
  decodeMetricTypeName := fun name =>
    if name = some "counter" then ⟨1⟩ else if name = some "gauge" then ⟨2⟩ else .none
  decodeMetricUnitName := fun name => if name = some "celsius" then ⟨1⟩ else .none
  decodeMetricTimestamp := fun text default =>
    if text = "on" then .on else if text = "off" then .off else default
  jsonPointerTrim := trimBlanks
  acceptsPointer := fun pointer => !pointer.isEmpty
  topicTrim := trimBlanks
  topicValidate := fun topic => !topic.isEmpty
  findIterPos := fun v x => (lowerBound v x, decide (x ∈ v))

/-- One entry of a metric's `handlers` sequence. The actions are what `yy_values` makes of the
entry's action nodes. -/
structure MetricHandlerNode where
  handlerId : String
  timestamp : Option String := none
  property : Option String := none
  labelActions : List LabelAction := []
  valueActions : List ValueAction := []
  propertyActions : List LabelAction := []

/-- One entry of the metrics section; `handlers` is empty when it is not a sequence. -/
structure MetricNode where
  metric : String
  type : Option String := none
  unit : Option String := none
  handlers : List MetricHandlerNode

/-- The metric object made for a handler entry with a usable property. -/
def MetricNode.create (platform : ConfigPlatform) (defaultTimestamp : MetricTimestamp)
    (node : MetricNode) (entry : MetricHandlerNode) (property : String) : Metric :=
  .create ⟨platform.trim node.metric, ""⟩ property (platform.decodeMetricTypeName node.type)
    (platform.decodeMetricUnitName node.unit)
    (platform.decodeMetricTimestamp (entry.timestamp.getD "") defaultTimestamp)
    entry.labelActions entry.valueActions entry.propertyActions

/-- The map under construction and the address the next metric object gets. -/
structure MetricsBuild where
  next : ℕ
  metrics : MetricsMap

/-- Put a new metric object at the end of a handler id's list. -/
def MetricsBuild.add (build : MetricsBuild) (handlerId : String) (metric : Metric) : MetricsBuild :=
  ⟨build.next + 1,
    (build.metrics.emplace handlerId []).1.update handlerId (· ++ [some ⟨build.next, metric⟩])⟩

/-- One turn of the inner loop: a handler entry of a metric, unless its id was handled before. -/
def MetricNode.addHandler (platform : ConfigPlatform) (defaultTimestamp : MetricTimestamp)
    (node : MetricNode) (state : FlatSet String × MetricsBuild) (entry : MetricHandlerNode) :
    FlatSet String × MetricsBuild :=
  let handlerId := platform.trim entry.handlerId
  let emplaced := state.1.emplace handlerId
  if emplaced.2 then
    match entry.property with
    | none => (emplaced.1, state.2)
    | some property =>
      if property.isEmpty then (emplaced.1, state.2)
      else
        (emplaced.1, state.2.add handlerId (node.create platform defaultTimestamp entry property))
  else state

/-- One turn of the outer loop: a metrics entry with all its handler entries. -/
def MetricsBuild.addNode (platform : ConfigPlatform) (defaultTimestamp : MetricTimestamp)
    (build : MetricsBuild) (node : MetricNode) : MetricsBuild :=
  (node.handlers.foldl (node.addHandler platform defaultTimestamp) (∅, build)).2

/-- `configure_prometheus_metrics`; an absent section gives an empty map. -/
def configurePrometheusMetrics (platform : ConfigPlatform) (nodes : Option (List MetricNode))
    (defaultTimestamp : MetricTimestamp) : MetricsMap :=
  ((nodes.getD []).foldl (MetricsBuild.addNode platform defaultTimestamp) ⟨0, ∅⟩).metrics

/-- The metric a handler entry describes, field by field: name, type and unit are those of the
metrics entry; property, actions and the time of its samples are the handler entry's own. -/
def MetricNode.described (platform : ConfigPlatform) (defaultTimestamp : MetricTimestamp)
    (node : MetricNode) (entry : MetricHandlerNode) (property : String) : Metric where
  id := { name := platform.trim node.metric, location := "" }
  property := property
  labelActions := entry.labelActions
  valueActions := entry.valueActions
  metricPropertyActions := entry.propertyActions
  metricType := platform.decodeMetricTypeName node.type
  metricUnit := platform.decodeMetricUnitName node.unit
  metricFormat :=
    if platform.decodeMetricTimestamp (entry.timestamp.getD "") defaultTimestamp = .off then
      .format (platform.decodeMetricTypeName node.type)
    else .timestampFormat (platform.decodeMetricTypeName node.type)

/-- The metric object made is the one described. -/
theorem MetricNode.create_eq (platform : ConfigPlatform) (defaultTimestamp : MetricTimestamp)
    (node : MetricNode) (entry : MetricHandlerNode) (property : String) :
    node.create platform defaultTimestamp entry property =
      node.described platform defaultTimestamp entry property := by
  unfold create described Metric.create
  cases platform.decodeMetricTimestamp (entry.timestamp.getD "") defaultTimestamp <;> rfl

/-- The lists after adding a metric object: its own list is longer by the object. -/
theorem MetricsBuild.lookup_add (build : MetricsBuild) (handlerId : String) (metric : Metric)
    (id : String) :
    (build.add handlerId metric).metrics.lookup id =
      if id = handlerId then
        some ((build.metrics.lookup handlerId).getD [] ++ [some ⟨build.next, metric⟩])
      else build.metrics.lookup id :=
  FlatMap.lookup_update_emplace ..

/-- Membership in a list after adding a metric object. -/
theorem MetricsBuild.mem_lookup_add {build : MetricsBuild} {handlerId : String} {metric : Metric}
    {id : String} {refs : List MetricPtr} {ptr : MetricPtr}
    (hrefs : (build.add handlerId metric).metrics.lookup id = some refs) (hptr : ptr ∈ refs) :
    (∃ old, build.metrics.lookup id = some old ∧ ptr ∈ old) ∨
      id = handlerId ∧ ptr = some ⟨build.next, metric⟩ := by
  rw [lookup_add] at hrefs
  split at hrefs
  · rename_i hid
    subst hid
    rw [← Option.some.inj hrefs, List.mem_append, List.mem_singleton] at hptr
    rcases hptr with hold | hnew
    · cases hlookup : build.metrics.lookup id with
      | none => simp [hlookup] at hold
      | some old => exact Or.inl ⟨old, rfl, by simpa [hlookup] using hold⟩
    · exact Or.inr ⟨rfl, hnew⟩
  · exact Or.inl ⟨refs, hrefs, hptr⟩

/-- One handler entry adds the metric of the entry to the list of its trimmed id, or nothing. -/
theorem MetricNode.addHandler_cases (platform : ConfigPlatform)
    (defaultTimestamp : MetricTimestamp) (node : MetricNode)
    (state : FlatSet String × MetricsBuild) (entry : MetricHandlerNode) :
    (node.addHandler platform defaultTimestamp state entry).2 = state.2 ∨
      ∃ property, entry.property = some property ∧ property ≠ "" ∧
        (node.addHandler platform defaultTimestamp state entry).2 =
          state.2.add (platform.trim entry.handlerId)
            (node.create platform defaultTimestamp entry property) := by
  unfold addHandler
  dsimp only
  split
  · cases hproperty : entry.property with
    | none => exact Or.inl rfl
    | some property =>
      dsimp only
      split
      · exact Or.inl rfl
      · rename_i hempty
        exact Or.inr ⟨property, rfl, by simpa using hempty, rfl⟩
  · exact Or.inl rfl

/-- What holds of the empty map and is kept by each added metric object of the section holds of
the map the pass returns. -/
theorem configurePrometheusMetrics_induction (platform : ConfigPlatform)
    (nodes : Option (List MetricNode)) (defaultTimestamp : MetricTimestamp)
    {motive : MetricsBuild → Prop} (hempty : motive ⟨0, ∅⟩)
    (hadd : ∀ build, motive build → ∀ node ∈ nodes.getD [], ∀ entry ∈ node.handlers,
      ∀ property, entry.property = some property → property ≠ "" →
        motive (build.add (platform.trim entry.handlerId)
          (node.create platform defaultTimestamp entry property))) :
    ∃ next, motive ⟨next, configurePrometheusMetrics platform nodes defaultTimestamp⟩ := by
  refine ⟨_, List.foldlRecOn (motive := motive) (nodes.getD []) _ hempty
    fun build hbuild node hnode => ?_⟩
  refine List.foldlRecOn (motive := fun state : FlatSet String × MetricsBuild => motive state.2)
    node.handlers _ hbuild fun state hstate entry hentry => ?_
  rcases node.addHandler_cases platform defaultTimestamp state entry with
    hsame | ⟨property, hproperty, hne, hnew⟩
  · rw [hsame]
    exact hstate
  · rw [hnew]
    exact hadd state.2 hstate node hnode entry hentry property hproperty hne

/-- No metric object is listed under two handler ids. -/
def MetricsMap.Unshared (metrics : MetricsMap) : Prop :=
  ∀ id₁ id₂ refs₁ refs₂ (ref₁ ref₂ : MetricRef), metrics.lookup id₁ = some refs₁ →
    metrics.lookup id₂ = some refs₂ → some ref₁ ∈ refs₁ → some ref₂ ∈ refs₂ →
    ref₁.addr = ref₂.addr → id₁ = id₂

/-- The lists share no object, and every object's address is below the next one. -/
structure MetricsBuild.Fresh (build : MetricsBuild) : Prop where
  unshared : build.metrics.Unshared
  below : ∀ id refs (ref : MetricRef), build.metrics.lookup id = some refs → some ref ∈ refs →
    ref.addr < build.next

/-- A new object's address is above all earlier ones, so adding it keeps the lists apart. -/
theorem MetricsBuild.Fresh.add {build : MetricsBuild} (h : build.Fresh) (handlerId : String)
    (metric : Metric) : (build.add handlerId metric).Fresh where
  unshared := by
    intro id₁ id₂ refs₁ refs₂ ref₁ ref₂ h₁ h₂ hmem₁ hmem₂ haddr
    rcases MetricsBuild.mem_lookup_add h₁ hmem₁ with ⟨old₁, hold₁, hin₁⟩ | ⟨rfl, hnew₁⟩
    · rcases MetricsBuild.mem_lookup_add h₂ hmem₂ with ⟨old₂, hold₂, hin₂⟩ | ⟨rfl, hnew₂⟩
      · exact h.unshared id₁ id₂ old₁ old₂ ref₁ ref₂ hold₁ hold₂ hin₁ hin₂ haddr
      · have hlt := h.below id₁ old₁ ref₁ hold₁ hin₁
        cases hnew₂
        exact absurd haddr (Nat.ne_of_lt hlt)
    · rcases MetricsBuild.mem_lookup_add h₂ hmem₂ with ⟨old₂, hold₂, hin₂⟩ | ⟨rfl, hnew₂⟩
      · have hlt := h.below id₂ old₂ ref₂ hold₂ hin₂
        cases hnew₁
        exact absurd haddr.symm (Nat.ne_of_lt hlt)
      · rfl
  below := by
    intro id refs ref hrefs hmem
    rcases MetricsBuild.mem_lookup_add hrefs hmem with ⟨old, hold, hin⟩ | ⟨rfl, hnew⟩
    · exact Nat.lt_succ_of_lt (h.below id old ref hold hin)
    · cases hnew
      exact Nat.lt_succ_self _

/-- Every metric object is created for one list, so no two lists share one. -/
theorem configurePrometheusMetrics_unshared (platform : ConfigPlatform)
    (nodes : Option (List MetricNode)) (defaultTimestamp : MetricTimestamp) :
    (configurePrometheusMetrics platform nodes defaultTimestamp).Unshared := by
  obtain ⟨_, h⟩ := configurePrometheusMetrics_induction platform nodes defaultTimestamp
    (motive := MetricsBuild.Fresh)
    ⟨fun _ _ _ _ _ _ h => by simp at h, fun _ _ _ h => by simp at h⟩
    fun build hbuild _ _ _ _ _ _ _ => hbuild.add _ _
  exact h.unshared

end MqttBridge
