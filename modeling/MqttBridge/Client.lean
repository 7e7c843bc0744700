import MqttBridge.Handler

/-!
# The MQTT client and its message batches

`on_message` collects the records of one message in the client's batch vector and hands the
batch to the metric cache. The vector and the metrics' scratch records are reused from message
to message, yet each batch turns out to be a function of its message alone: it lists one
record per metric event, in dispatch order, computed from the metric's configuration and the
event's arguments.
-/

namespace MqttBridge

/-- `MqttHandlerList`. -/
abbrev MqttHandlerList := List MqttHandler

/-- `Topics`: the automaton, known by what `find` returns for a topic. -/
structure Topics where
  find : String → List MqttHandlerList

/-- What `on_message` receives: topic, payload and the clock's reading. -/
structure Message where
  topic : String
  payload : String
  now : ℤ

/-- The fields of `mqtt_client` that message processing uses; `metricCache` says whether the
pointer to the cache is set. `adds` numbers the batches it has passed to the cache. -/
structure MqttClient where
  topics : Topics
  subscriptions : List String
  metricCache : Bool
  path : TopicLevelsView
  heap : Heap
  adds : ℕ

/-- A client as its constructor leaves it. -/
def MqttClient.create (topics : Topics) (subscriptions : List String) (metricCache : Bool) :
    MqttClient := ⟨topics, subscriptions, metricCache, [], .initial, 0⟩

/-- `on_connect` asks for every filter of the subscriptions vector, whatever the broker answered. -/
def MqttClient.onConnect (client : MqttClient) : List String := client.subscriptions

/-- The dispatch loop's variables, and the handlers whose `Event` was called so far. -/
structure Dispatch where
  metricCount : ℕ
  heap : Heap
  events : List MqttHandler

/-- The start of the dispatch loop: the batch is cleared and keeps its slots. -/
def Dispatch.start (heap : Heap) : Dispatch :=
  ⟨0, { heap with metricData := heap.metricData.clear }, []⟩

/-- One turn of the dispatch loop: reserve room for the handler's metrics, then its `Event`. -/
def Dispatch.step (platform : Platform) (data topic : String) (levels : TopicLevelsView)
    (timestamp : ℤ) (dispatch : Dispatch) (handler : MqttHandler) : Dispatch :=
  let metricCount := dispatch.metricCount + handler.metricCount
  let heap :=
    { dispatch.heap with metricData := dispatch.heap.metricData.reserve platform.slots metricCount }
  ⟨metricCount, handler.event platform data topic levels timestamp heap,
    dispatch.events ++ [handler]⟩

/-- What one message leads to: the client after it, the handlers called, and the batch passed
to `MetricDataCache::Add`, if one is. -/
structure Delivery where
  client : MqttClient
  events : List MqttHandler
  added : Option (List MetricData)

/-- Pass the batch to `MetricDataCache::Add`, which leaves in the vector what it likes. -/
def MqttClient.addBatch (platform : Platform) (client : MqttClient) : MqttClient :=
  { client with
    heap := { client.heap with
      metricData := platform.addLeaves client.adds client.heap.metricData }
    adds := client.adds + 1 }

/-- `mqtt_client::on_message`. -/
def MqttClient.onMessage (platform : Platform) (client : MqttClient) (message : Message) :
    Delivery :=
  if client.metricCache then
    let topic := platform.topicTrim message.topic
    let payloads := client.topics.find topic
    if payloads.isEmpty then ⟨client, [], none⟩
    else
      let path := platform.topicTokenizeView topic
      let dispatch := payloads.foldl (fun dispatch handlers =>
        handlers.foldl (Dispatch.step platform message.payload topic path message.now) dispatch)
          (Dispatch.start client.heap)
      let client := { client with path := path, heap := dispatch.heap }
      ⟨client.addBatch platform, dispatch.events, some client.heap.metricData.live⟩
  else ⟨client, [], none⟩

/-- Process messages one after the other, collecting what each adds to the cache. -/
def MqttClient.run (platform : Platform) :
    MqttClient → List Message → MqttClient × List (Option (List MetricData))
  | client, [] => (client, [])
  | client, message :: messages =>
    let delivery := client.onMessage platform message
    let rest := delivery.client.run platform messages
    (rest.1, delivery.added :: rest.2)

/-- The handlers a topic is dispatched to, in order. -/
def Topics.handlers (topics : Topics) (topic : String) : List MqttHandler :=
  (topics.find topic).flatten

/-- The metric events a message causes, in dispatch order. -/
def Topics.calls (platform : Platform) (topics : Topics) (message : Message) : List MetricCall :=
  let topic := platform.topicTrim message.topic
  (topics.handlers topic).flatMap fun handler =>
    handler.calls platform message.payload topic (platform.topicTokenizeView topic) message.now

/-- The batch a message is to add to the cache: one emitted record per metric event, or no batch
at all without a cache or a matching filter. It mentions no heap. -/
def MqttClient.expectedBatch (platform : Platform) (client : MqttClient) (message : Message) :
    Option (List MetricData) :=
  if client.metricCache ∧ client.topics.find (platform.topicTrim message.topic) ≠ [] then
    some ((client.topics.calls platform message).map MetricCall.emit)
  else none

section Dispatching

variable (platform : Platform) (data topic : String) (levels : TopicLevelsView) (timestamp : ℤ)

/-- Clearing the batch keeps the heap clean. -/
theorem Dispatch.clean_start {heap : Heap} (h : heap.Clean) : (Dispatch.start heap).heap.Clean :=
  ⟨h.scratch, h.slots.clear⟩

/-- One turn of the dispatch loop appends the handler's records to the batch. -/
theorem Dispatch.step_spec (handler : MqttHandler) {dispatch : Dispatch}
    (h : dispatch.heap.Clean) :
    (dispatch.step platform data topic levels timestamp handler).heap.Clean ∧
      (dispatch.step platform data topic levels timestamp handler).heap.metricData.live =
        dispatch.heap.metricData.live ++
          (handler.calls platform data topic levels timestamp).map MetricCall.emit := by
  have hreserved : ({ dispatch.heap with
      metricData := dispatch.heap.metricData.reserve platform.slots
        (dispatch.metricCount + handler.metricCount) } : Heap).Clean :=
    ⟨h.scratch, h.slots.reserve (p := MetricData.NoHelp) rfl platform.slots _⟩
  have hevent := handler.event_spec platform data topic levels timestamp hreserved
  rw [SlotVector.live_reserve] at hevent
  exact hevent

/-- The dispatch loop appends the records of all handlers, in dispatch order. -/
theorem Dispatch.foldl_step_spec (handlers : List MqttHandler) {dispatch : Dispatch}
    (h : dispatch.heap.Clean) :
    (handlers.foldl (step platform data topic levels timestamp) dispatch).heap.Clean ∧
      (handlers.foldl (step platform data topic levels timestamp) dispatch).heap.metricData.live =
        dispatch.heap.metricData.live ++ (handlers.flatMap fun handler =>
          handler.calls platform data topic levels timestamp).map MetricCall.emit := by
  induction handlers generalizing dispatch with
  | nil => exact ⟨h, by simp⟩
  | cons handler handlers ih =>
    obtain ⟨hclean, hlive⟩ := step_spec platform data topic levels timestamp handler h
    obtain ⟨hcleans, hlives⟩ := ih hclean
    refine ⟨hcleans, ?_⟩
    rw [List.foldl_cons, hlives, hlive, List.flatMap_cons, List.map_append, List.append_assoc]

/-- The dispatch loop calls every handler of its lists once per listing, in order. -/
theorem Dispatch.events_foldl_step (handlers : List MqttHandler) (dispatch : Dispatch) :
    (handlers.foldl (step platform data topic levels timestamp) dispatch).events =
      dispatch.events ++ handlers := by
  induction handlers generalizing dispatch with
  | nil => simp
  | cons handler handlers ih =>
    rw [List.foldl_cons, ih]
    simp [step]

end Dispatching

namespace MqttClient

variable (platform : Platform)

/-- Processing a message never changes the topics, the subscriptions or the cache pointer. -/
theorem onMessage_config (client : MqttClient) (message : Message) :
    (client.onMessage platform message).client.topics = client.topics ∧
      (client.onMessage platform message).client.subscriptions = client.subscriptions ∧
      (client.onMessage platform message).client.metricCache = client.metricCache := by
  unfold onMessage
  split
  · dsimp only
    split <;> exact ⟨rfl, rfl, rfl⟩
  · exact ⟨rfl, rfl, rfl⟩

/-- Nor do any messages. -/
theorem run_config (messages : List Message) (client : MqttClient) :
    (client.run platform messages).1.topics = client.topics ∧
      (client.run platform messages).1.subscriptions = client.subscriptions ∧
      (client.run platform messages).1.metricCache = client.metricCache := by
  induction messages generalizing client with
  | nil => exact ⟨rfl, rfl, rfl⟩
  | cons message messages ih =>
    obtain ⟨htopics, hsubscriptions, hcache⟩ := ih (client.onMessage platform message).client
    have hconfig := client.onMessage_config platform message
    exact ⟨htopics.trans hconfig.1, hsubscriptions.trans hconfig.2.1, hcache.trans hconfig.2.2⟩

/-- Whatever `Add` leaves in the vector, the heap stays clean. -/
theorem clean_addBatch (hadds : platform.AddsNoHelp) {client : MqttClient}
    (h : client.heap.Clean) : (client.addBatch platform).heap.Clean :=
  ⟨h.scratch, hadds _ _ h.slots⟩

/-- From a clean heap, a message adds exactly its expected batch and leaves the heap clean. -/
theorem onMessage_spec (hadds : platform.AddsNoHelp) (client : MqttClient) (message : Message)
    (h : client.heap.Clean) :
    (client.onMessage platform message).client.heap.Clean ∧
      (client.onMessage platform message).added = client.expectedBatch platform message := by
  unfold onMessage expectedBatch
  cases hcache : client.metricCache with
  | false => exact ⟨h, by simp⟩
  | true =>
    dsimp only
    cases hfind : client.topics.find (platform.topicTrim message.topic) with
    | nil => exact ⟨h, by simp⟩
    | cons handlers payloads =>
      have hspec := Dispatch.foldl_step_spec platform message.payload
        (platform.topicTrim message.topic)
        (platform.topicTokenizeView (platform.topicTrim message.topic)) message.now
        (handlers :: payloads).flatten (Dispatch.clean_start h)
      rw [List.foldl_flatten] at hspec
      refine ⟨clean_addBatch platform hadds hspec.1, ?_⟩
      simpa [Topics.calls, Topics.handlers, hfind, Dispatch.start] using hspec.2

/-- The handlers called for a message are those its topic is dispatched to. -/
theorem events_onMessage (client : MqttClient) (message : Message) (h : client.metricCache = true) :
    (client.onMessage platform message).events =
      client.topics.handlers (platform.topicTrim message.topic) := by
  unfold onMessage Topics.handlers
  rw [if_pos h]
  dsimp only
  cases hfind : client.topics.find (platform.topicTrim message.topic) with
  | nil => rfl
  | cons handlers payloads =>
    rw [if_neg (by simp), ← List.foldl_flatten, Dispatch.events_foldl_step]
    rfl

/-- From a clean heap, every message of a run adds its expected batch. -/
theorem run_spec (hadds : platform.AddsNoHelp) (messages : List Message) (client : MqttClient)
    (h : client.heap.Clean) :
    (client.run platform messages).1.heap.Clean ∧
      (client.run platform messages).2 = messages.map (client.expectedBatch platform) := by
  induction messages generalizing client with
  | nil => exact ⟨h, rfl⟩
  | cons message messages ih =>
    obtain ⟨hclean, hadded⟩ := client.onMessage_spec platform hadds message h
    obtain ⟨hcleans, hrest⟩ := ih (client.onMessage platform message).client hclean
    refine ⟨hcleans, ?_⟩
    have hconfig := client.onMessage_config platform message
    have hexpected : (client.onMessage platform message).client.expectedBatch platform =
        client.expectedBatch platform := by
      funext later
      simp only [expectedBatch, hconfig]
    rw [run, List.map_cons, hadded, hrest, hexpected]

/-- The handlers called after any messages are those of the lists found for the topic. -/
theorem events_run (automaton : Topics) (subscriptions : List String) (messages : List Message)
    (message : Message) :
    (((create automaton subscriptions true).run platform messages).1.onMessage platform
      message).events = automaton.handlers (platform.topicTrim message.topic) := by
  obtain ⟨htopics, _, hcache⟩ := run_config platform messages (create automaton subscriptions true)
  rw [events_onMessage platform _ message hcache, htopics]
  rfl

/-- After any messages, a message adds the batch it would add first. -/
theorem added_onMessage_run (hadds : platform.AddsNoHelp) (topics : Topics)
    (subscriptions : List String) (metricCache : Bool) (messages : List Message)
    (message : Message) :
    (((create topics subscriptions metricCache).run platform messages).1.onMessage platform
        message).added =
      (create topics subscriptions metricCache).expectedBatch platform message := by
  have hclean := ((create topics subscriptions metricCache).run_spec platform hadds messages
    Heap.clean_initial).1
  have hconfig := run_config platform messages (create topics subscriptions metricCache)
  rw [(onMessage_spec platform hadds _ message hclean).2]
  simp only [expectedBatch, hconfig]

/-- A batch holds the records of the handlers called, one after the other. -/
theorem added_run (hadds : platform.AddsNoHelp) (automaton : Topics)
    (subscriptions : List String) (messages : List Message) (message : Message)
    (batch : List MetricData)
    (h : (((create automaton subscriptions true).run platform messages).1.onMessage
      platform message).added = some batch) :
    batch = ((automaton.handlers (platform.topicTrim message.topic)).flatMap fun handler =>
      handler.calls platform message.payload (platform.topicTrim message.topic)
        (platform.topicTokenizeView (platform.topicTrim message.topic)) message.now).map
          MetricCall.emit := by
  rw [added_onMessage_run platform hadds, expectedBatch] at h
  split at h
  · exact (Option.some.inj h).symm
  · cases h

/-- Message batches are free of history, whatever `Add` leaves in the vector as long as it puts no
help text there. In a run over any messages, each message adds exactly the emitted records of its
own metric events, in dispatch order; and at any point of a later dispatch, further events only
append their records to the batch. -/
theorem run_history_free (hadds : platform.AddsNoHelp) (topics : Topics)
    (subscriptions : List String) (metricCache : Bool) (messages : List Message) :
    ((create topics subscriptions metricCache).run platform messages).2 =
        messages.map ((create topics subscriptions metricCache).expectedBatch platform) ∧
      ∀ (data topic : String) (levels : TopicLevelsView) (timestamp : ℤ)
        (handlers : List MqttHandler) (calls : List MetricCall),
        let dispatch := handlers.foldl (Dispatch.step platform data topic levels timestamp)
          (Dispatch.start ((create topics subscriptions metricCache).run platform messages).1.heap)
        (calls.foldl (MetricCall.perform platform) dispatch.heap).metricData.live =
          dispatch.heap.metricData.live ++ calls.map MetricCall.emit := by
  have hrun := run_spec platform hadds messages (create topics subscriptions metricCache)
    Heap.clean_initial
  refine ⟨hrun.2, fun data topic levels timestamp handlers calls => ?_⟩
  have hdispatch := Dispatch.foldl_step_spec platform data topic levels timestamp handlers
    (Dispatch.clean_start hrun.1)
  exact (MetricCall.foldl_perform platform calls hdispatch.1).2

end MqttClient

/-- One value handler on one topic with two metrics: one maps the payload by a `switch` action, the
other one publishes it as it is. -/
def Topics.availability : Topics where
  find := fun topic =>
    if topic = "home/door" then
      [[.value "availability"
        [⟨0, .create ⟨"Availability", ""⟩ "availability" ⟨2⟩ .none .on []
          [.switch [("online", "1")] "0"] []⟩,
         ⟨1, .create ⟨"State", ""⟩ "availability" ⟨2⟩ .none .on [] [] []⟩] 2]]
    else []

/-- In four messages, one of them on another topic, each batch has the values of its own message,
though from the second on every slot holds a record of an earlier one. -/
theorem MqttClient.run_history_free_switch :
    ((create .availability ["home/door"] true).run .reference
        [⟨"home/door", "online", 1⟩, ⟨" home/door", "offline", 2⟩, ⟨"home/window", "online", 3⟩,
         ⟨"home/door", "online", 4⟩]).2.map
          (Option.map (List.map fun data => (data.id.name, data.value, data.timestamp))) =
      [some [("Availability", "1", 1), ("State", "online", 1)],
       some [("Availability", "0", 2), ("State", "offline", 2)], none,
       some [("Availability", "1", 4), ("State", "online", 4)]] := by
  rw [(run_history_free .reference Platform.addsNoHelp_reference .availability ["home/door"] true
    _).1]
  decide

end MqttBridge
