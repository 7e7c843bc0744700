import MqttBridge.Automaton
import MqttBridge.ConfigureTopics
import MqttBridge.HandlerStore

/-!
# Where a published record comes from

The three sections are linked by trimmed names only: a metrics entry names handler ids and a
property, a handler lists properties, a topics entry names handler ids and filters. A record
that reaches the cache can be followed back through all of them to the part of the payload its
value was read from.
-/

namespace MqttBridge

/-- The sections of one configuration file, as the passes read them. -/
structure BridgeConfig where
  defaultTimestamp : MetricTimestamp
  metrics : Option (List MetricNode)
  handlers : Option (List HandlerNode)
  topics : List TopicNode

namespace BridgeConfig

variable (platform : ConfigPlatform) (config : BridgeConfig)

/-- The metrics map the metrics section gives. -/
def metricsMap : MetricsMap :=
  configurePrometheusMetrics platform config.metrics config.defaultTimestamp

/-- The handler store the handlers section makes of that map. -/
def store : MqttHandlerStore :=
  (configureMqttHandlers platform config.handlers (config.metricsMap platform)).1

/-- The subscriptions and routes the topics section makes of that store. -/
def routes : MqttTopics := configureMqttTopics platform (config.store platform) config.topics

/-- The client `main` creates, over an automaton made from the routes. -/
def client (automaton : Topics) (metricCache : Bool) : MqttClient :=
  .create automaton (config.routes platform).subscriptions metricCache

end BridgeConfig

/-- The scalars the parser reports to a json handler; a value handler parses nothing. -/
def MqttHandler.reports (runtime : Platform) (handler : MqttHandler) (payload : String) :
    List JsonCallback :=
  match handler with
  | .json _ pointers _ => (runtime.parse (pointers.map Prod.fst) payload).callbacks
  | .value _ _ _ => []

/-- The value of a reported scalar and its kind: a string is its own text, a number the text the
parser read it from, and a flag `true` or `false`. -/
def JsonValue.scalar : JsonValue → String × ValueType
  | str text => (text, .string)
  | int64 raw => (raw, .int)
  | uint64 raw => (raw, .uInt)
  | double raw => (raw, .float)
  | bool true => ("true", .bool)
  | bool false => ("false", .bool)

/-- The visitor hands over the scalar's value and kind. -/
theorem JsonValue.scalar_eq (value : JsonValue) : value.scalar = (value.text, value.valueType) := by
  cases value with
  | bool flag => cases flag <;> rfl
  | str | int64 | uint64 | double => rfl

namespace BridgeConfig

variable {platform : ConfigPlatform} {config : BridgeConfig}

/-- The store of a configuration is the specified one; without a handlers section it is empty. -/
theorem lookup_store (id : String) :
    (config.store platform).lookup id =
      storedHandler platform (config.handlers.getD []) (config.metricsMap platform) id := by
  unfold store
  cases config.handlers with
  | none =>
    have hempty : storedHandler platform [] (config.metricsMap platform) id = none := by
      simp [storedHandler]
    exact hempty.symm
  | some nodes => exact lookup_configureMqttHandlers platform nodes _ id

/-- A handler in an added list is stored under an id of a topics entry that lists the filter. -/
theorem stored_of_mem_added {add : String × MqttHandlerList} {handler : MqttHandler}
    (hadd : add ∈ (config.routes platform).added) (hhandler : handler ∈ add.2) :
    ∃ node ∈ config.topics, node.Lists platform add.1 ∧ ∃ id ∈ node.handlers.getD [],
      (config.store platform).lookup (platform.trim id) = some handler := by
  obtain ⟨node, hnode, _, hlists, hresolved⟩ := (mem_added platform _ _ add).mp hadd
  rw [hresolved] at hhandler
  exact ⟨node, hnode, hlists, (node.mem_resolved platform _ handler).mp hhandler⟩

end BridgeConfig

/-- Every record of an expected batch is emitted by a call of a handler the topic is dispatched
to. -/
theorem MqttClient.call_of_mem_expectedBatch {runtime : Platform} {client : MqttClient}
    {message : Message} {batch : List MetricData}
    (hbatch : client.expectedBatch runtime message = some batch) :
    ∀ data ∈ batch, ∃ handlers ∈ client.topics.find (runtime.topicTrim message.topic),
      ∃ handler ∈ handlers, ∃ call ∈ handler.calls runtime message.payload
        (runtime.topicTrim message.topic)
        (runtime.topicTokenizeView (runtime.topicTrim message.topic)) message.now,
      data = call.emit := by
  intro data hdata
  unfold expectedBatch at hbatch
  split at hbatch
  · cases hbatch
    obtain ⟨call, hcall, rfl⟩ := List.mem_map.mp hdata
    obtain ⟨handler, hhandler, hcall⟩ := List.mem_flatMap.mp hcall
    obtain ⟨handlers, hhandlers, hhandler⟩ := List.mem_flatten.mp hhandler
    exact ⟨handlers, hhandlers, handler, hhandler, call, hcall, rfl⟩
  · cases hbatch

/-- A temperature read by a json handler, with a value handler of another id next to it. -/
def BridgeConfig.temperature : BridgeConfig where
  defaultTimestamp := .on
  metrics := some
    [{ metric := " room_temperature ", type := some "gauge", unit := some "celsius",
       handlers := [{ handlerId := "sensor", property := some "temperature" }] }]
  handlers := some
    [{ id := "raw", type := "value" },
     { id := " sensor", type := "json", properties := .sequence [.other, .scalar "temperature"] }]
  topics := [{ handlers := some ["raw", "sensor "], subscriptions := ["home/kitchen "] }]

end MqttBridge
