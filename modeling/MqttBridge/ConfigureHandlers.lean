import Mathlib.Data.List.ReduceOption
import MqttBridge.ConfigureMetrics
import MqttBridge.Library.Buckets

/-!
# The handlers section

Each handler configuration takes the metrics it captures out of the shared metrics map: a
value handler all metrics of its id, a json handler those whose property it lists, which it
puts under the JSON pointer of the property. The json loop carries the property and pointer of
one item over to the next, so an item that is not a scalar meets the values of the item before
it. That pair is unusable or its property has been handled, and nothing happens.
-/

namespace MqttBridge

/-- `MqttHandler::type`. -/
inductive HandlerType
  | json
  | text
  | value
deriving DecidableEq, Repr

/-- An item of a `properties` sequence. -/
inductive PropertyItem
  | scalar (text : String)
  | other
deriving DecidableEq, Repr

/-- The `properties` node of a handler: missing or a scalar, a sequence, or a map from JSON
pointer text to property name. -/
inductive PropertiesNode
  | none
  | sequence (items : List PropertyItem)
  | map (entries : List (String × String))
deriving DecidableEq, Repr

/-- The number of items or entries. -/
def PropertiesNode.size : PropertiesNode → ℕ
  | none => 0
  | sequence items => items.length
  | map entries => entries.length

/-- One entry of the handlers section. -/
structure HandlerNode where
  id : String
  type : String
  properties : PropertiesNode := .none
deriving DecidableEq, Repr

/-- `decode_type`; an unknown name means json. -/
def decodeType (platform : ConfigPlatform) (type : String) : HandlerType :=
  match platform.toLower (platform.trim type) with
  | "json" => .json
  | "text" => .text
  | "value" => .value
  | _ => .json

/-- `add_pointer`: the builder with a metrics list for the pointer, or none for the null pointer. -/
def addPointer (platform : ConfigPlatform) (builder : JsonPointers) (pointer : String) :
    Option JsonPointers :=
  if platform.acceptsPointer pointer then some (openBucket builder pointer) else none

/-- Move the metrics with a property out of a list: the list they leave, and the metrics. -/
def moveMatching (property : String) : List MetricPtr → List MetricPtr × List MetricRef
  | [] => ([], [])
  | ptr :: list =>
    let rest := moveMatching property list
    match ptr with
    | none => (none :: rest.1, rest.2)
    | some ref =>
      if ref.metric.property = property then (none :: rest.1, ref :: rest.2)
      else (some ref :: rest.1, rest.2)

/-- The variables of the json loop, with the metrics map it takes metrics from. -/
structure JsonBuild where
  jsonPointer : String
  property : String
  builder : JsonPointers
  metricsCount : ℕ
  properties : FlatSet String
  metrics : MetricsMap

namespace JsonBuild

/-- The variables before the first item. -/
def start (metrics : MetricsMap) : JsonBuild := ⟨"", "", [], 0, ∅, metrics⟩

/-- `do_add_property`, run by `find_value` on the handler's metrics if there are any. -/
def doAddProperty (platform : ConfigPlatform) (id : String) (build : JsonBuild) : JsonBuild :=
  match build.metrics.lookup id with
  | none => build
  | some visited =>
    match addPointer platform build.builder build.jsonPointer with
    | none => build
    | some builder =>
      let moved := moveMatching build.property visited
      { build with
        builder := pushBucket builder build.jsonPointer moved.2
        metricsCount := build.metricsCount + moved.2.length
        metrics := build.metrics.update id fun _ => moved.1 }

/-- The end of each turn of the loop: handle the current property unless it is unusable or has
been handled. -/
def addProperty (platform : ConfigPlatform) (id : String) (build : JsonBuild) : JsonBuild :=
  if !build.jsonPointer.isEmpty && !build.property.isEmpty then
    let emplaced := build.properties.emplace build.property
    if emplaced.2 then { build with properties := emplaced.1 }.doAddProperty platform id
    else build
  else build

/-- One turn for an item of a sequence. Only a scalar sets the property and the pointer. -/
def addItem (platform : ConfigPlatform) (id : String) (build : JsonBuild) (item : PropertyItem) :
    JsonBuild :=
  match item with
  | .scalar text =>
    let property := platform.trim text
    { build with
      property := property
      jsonPointer := platform.jsonPointerTrim ("/" ++ property) }.addProperty platform id
  | .other => build.addProperty platform id

/-- One turn for an entry of a map. -/
def addEntry (platform : ConfigPlatform) (id : String) (build : JsonBuild)
    (entry : String × String) : JsonBuild :=
  { build with
    property := platform.trim entry.2
    jsonPointer := platform.jsonPointerTrim (platform.trim entry.1) }.addProperty platform id

end JsonBuild

/-- `configure_json_handler`: the handler, if any metric was attached, and the metrics left. -/
def configureJsonHandler (platform : ConfigPlatform) (id : String) (node : PropertiesNode)
    (metrics : MetricsMap) : Option MqttHandler × MetricsMap :=
  if node.size ≠ 0 then
    let build :=
      match node with
      | .none => JsonBuild.start metrics
      | .sequence items => items.foldl (JsonBuild.addItem platform id) (.start metrics)
      | .map entries => entries.foldl (JsonBuild.addEntry platform id) (.start metrics)
    (if build.metricsCount > 0 then some (.json id build.builder build.metricsCount) else none,
      build.metrics)
  else (none, metrics)

/-- `configure_text_handler` makes no handler. -/
def configureTextHandler (metrics : MetricsMap) : Option MqttHandler × MetricsMap := (none, metrics)

/-- `configure_value_handler`: move every metric of the id into the handler. -/
def configureValueHandler (id : String) (metrics : MetricsMap) : Option MqttHandler × MetricsMap :=
  let handlerMetrics := ((metrics.lookup id).getD []).reduceOption
  (if handlerMetrics.isEmpty then none else some (.value id handlerMetrics handlerMetrics.length),
    metrics.update id fun visited => visited.map fun _ => none)

/-- `MqttHandlerStore`. A handler pointer is stored only after it was found not null, so the
store holds the handlers themselves. -/
abbrev MqttHandlerStore := FlatMap String MqttHandler

/-- The `switch` over the handler's type. -/
def HandlerNode.configure (platform : ConfigPlatform) (node : HandlerNode) (metrics : MetricsMap) :
    Option MqttHandler × MetricsMap :=
  let id := platform.trim node.id
  match decodeType platform node.type with
  | .json => configureJsonHandler platform id node.properties metrics
  | .text => configureTextHandler metrics
  | .value => configureValueHandler id metrics

/-- One turn of the handlers loop: a handler is stored under its id unless the id is empty or
taken, and destroyed otherwise. -/
def addHandlerNode (platform : ConfigPlatform) (state : MqttHandlerStore × MetricsMap)
    (node : HandlerNode) : MqttHandlerStore × MetricsMap :=
  let configured := node.configure platform state.2
  match configured.1 with
  | none => (state.1, configured.2)
  | some handler =>
    if handler.id.isEmpty then (state.1, configured.2)
    else ((state.1.emplace handler.id handler).1, configured.2)

/-- `configure_mqtt_handlers`; a section that is not a sequence gives an empty store. -/
def configureMqttHandlers (platform : ConfigPlatform) (nodes : Option (List HandlerNode))
    (metrics : MetricsMap) : MqttHandlerStore × MetricsMap :=
  match nodes with
  | none => (∅, metrics)
  | some nodes => nodes.foldl (addHandlerNode platform) (∅, metrics)

end MqttBridge
