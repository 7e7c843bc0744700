import MqttBridge.Provenance

/-!
# The storage reserved for a message

The dispatch loop adds up the metric counts of the handlers it reaches and reserves that many
slots before each `Event`. A handler's count is fixed when it is configured, the number of
records it appends is decided by the reports of the parser. The two are linked by the metrics
the handler owns: a value handler appends one record for each of them, a json handler at most
one as long as no pointer is reported twice. The batch then stays within the accumulated count,
and every append finds a slot.
-/

namespace MqttBridge

namespace MqttHandler

/-- The number of records an `Event` is to append: the metric count of a value handler, and for a
json handler the lengths of the lists under the reported pointers. -/
def appends (runtime : Platform) (handler : MqttHandler) (payload : String) : ℕ :=
  match handler with
  | .json _ pointers _ =>
    ((runtime.parse (pointers.map Prod.fst) payload).callbacks.map fun callback =>
      ((pointers.lookup callback.pointer).getD []).length).sum
  | .value _ _ metricCount => metricCount

/-- The metric count is the number of metrics the handler owns. -/
def Counted (handler : MqttHandler) : Prop := handler.metricCount = handler.metrics.length

/-- A captured handler is counted, whatever metrics share a pointer. -/
theorem counted_of_captured {platform : ConfigPlatform} {node : HandlerNode}
    {list : List MetricPtr} {handler : MqttHandler}
    (h : node.captured platform list = some handler) : handler.Counted := by
  obtain ⟨_, _, rfl⟩ | ⟨_, _, rfl⟩ := node.captured_cases platform h
  · exact (batchTotal_eq_length _).trans (flatMap_collect_perm _).length_eq.symm
  · rfl

/-- Every handler of a configured store is counted. -/
theorem counted_of_lookup {platform : ConfigPlatform} {nodes : Option (List HandlerNode)}
    {metrics : MetricsMap} {id : String} {handler : MqttHandler}
    (h : (configureMqttHandlers platform nodes metrics).1.lookup id = some handler) :
    handler.Counted := by
  cases nodes with
  | none => cases h
  | some nodes =>
    rw [lookup_configureMqttHandlers] at h
    obtain ⟨_, node, _, _, hcaptured⟩ := storedHandler_source h
    exact counted_of_captured hcaptured

variable (runtime : Platform) (handler : MqttHandler) (payload topic : String)
  (levels : TopicLevelsView) (timestamp : ℤ)

/-- A counted handler makes as many calls as it is to append records. -/
theorem length_calls (h : handler.Counted) :
    (handler.calls runtime payload topic levels timestamp).length =
      handler.appends runtime payload := by
  cases handler with
  | json id pointers metricCount =>
    simp [calls, appends, JsonCallback.calls, List.length_flatMap]
  | value id metrics metricCount =>
    rw [calls, List.length_map]
    exact h.symm

/-- Without a pointer reported twice, a counted handler appends at most its metric count. -/
theorem appends_le (h : handler.Counted)
    (hnodup : ((handler.reports runtime payload).map JsonCallback.pointer).Nodup) :
    handler.appends runtime payload ≤ handler.metricCount := by
  cases handler with
  | json id pointers metricCount =>
    have hsum := sum_length_lookup_le pointers _ hnodup
    rw [List.map_map] at hsum
    exact Nat.le_trans hsum (Nat.le_of_eq h.symm)
  | value id metrics metricCount => exact Nat.le_refl _

/-- `Event` of a counted handler appends that many records, on any heap. -/
theorem length_live_event (h : handler.Counted) (heap : Heap) :
    (handler.event runtime payload topic levels timestamp heap).metricData.live.length =
      heap.metricData.live.length + handler.appends runtime payload := by
  obtain ⟨records, hlength, hlive⟩ :=
    handler.event_appends runtime payload topic levels timestamp heap
  rw [hlive, List.length_append, hlength, handler.length_calls runtime payload topic levels
    timestamp h]

end MqttHandler

namespace Dispatch

variable (runtime : Platform) (payload topic : String) (levels : TopicLevelsView) (timestamp : ℤ)

/-- The heap an `Event` is called on: the slots for the handler's metrics have been reserved. -/
def reserved (dispatch : Dispatch) (handler : MqttHandler) : Heap :=
  { dispatch.heap with
    metricData := dispatch.heap.metricData.reserve runtime.slots
      (dispatch.metricCount + handler.metricCount) }

/-- The heap at a point of an `Event`, when some of the handler's calls have been made. -/
def during (dispatch : Dispatch) (handler : MqttHandler) (done : List MetricCall) : Heap :=
  done.foldl (MetricCall.perform runtime)
    (handler.prepare topic levels timestamp (dispatch.reserved runtime handler))

/-- After all its calls, an `Event` has done its turn of the dispatch loop. -/
theorem during_calls (dispatch : Dispatch) (handler : MqttHandler) :
    dispatch.during runtime topic levels timestamp handler
        (handler.calls runtime payload topic levels timestamp) =
      (dispatch.step runtime payload topic levels timestamp handler).heap :=
  (handler.event_eq runtime payload topic levels timestamp _).symm

/-- The batch is not longer than the metric count accumulated so far. -/
def Within (dispatch : Dispatch) : Prop :=
  dispatch.heap.metricData.live.length ≤ dispatch.metricCount

/-- The batch is empty when the loop starts. -/
theorem within_start (heap : Heap) : (start heap).Within := Nat.le_refl 0

variable {runtime payload topic levels timestamp} {dispatch : Dispatch} {handler : MqttHandler}

/-- An `Event` that appends no more than its handler's metric count keeps the batch within the
accumulated count. -/
theorem Within.step (h : dispatch.Within) (hcounted : handler.Counted)
    (hle : handler.appends runtime payload ≤ handler.metricCount) :
    (dispatch.step runtime payload topic levels timestamp handler).Within := by
  have hlength := handler.length_live_event runtime payload topic levels timestamp hcounted
    (dispatch.reserved runtime handler)
  rw [reserved, SlotVector.live_reserve] at hlength
  exact hlength.trans_le (Nat.add_le_add h hle)

/-- So do any number of them. -/
theorem Within.foldl_step (handlers : List MqttHandler) (h : dispatch.Within)
    (hcounted : ∀ handler ∈ handlers, handler.Counted)
    (hle : ∀ handler ∈ handlers, handler.appends runtime payload ≤ handler.metricCount) :
    (handlers.foldl (Dispatch.step runtime payload topic levels timestamp) dispatch).Within := by
  induction handlers generalizing dispatch with
  | nil => exact h
  | cons handler handlers ih =>
    apply ih
    · exact h.step (hcounted handler List.mem_cons_self) (hle handler List.mem_cons_self)
    · exact fun later hlater => hcounted later (List.mem_cons_of_mem handler hlater)
    · exact fun later hlater => hle later (List.mem_cons_of_mem handler hlater)

/-- The calls made so far have appended one record each. -/
theorem length_live_during (done : List MetricCall) :
    (dispatch.during runtime topic levels timestamp handler done).metricData.live.length =
      dispatch.heap.metricData.live.length + done.length := by
  obtain ⟨records, hrecords, hlive⟩ := MetricCall.foldl_perform_appends runtime done
    (handler.prepare topic levels timestamp (dispatch.reserved runtime handler))
  rw [during, hlive, MqttHandler.metricData_prepare, reserved, SlotVector.live_reserve,
    List.length_append, hrecords]

/-- As long as the batch is within the reserved storage, the calls made so far have asked for
none. -/
theorem le_capacity_during (done : List MetricCall)
    (h : dispatch.heap.metricData.live.length + done.length ≤
      dispatch.metricCount + handler.metricCount) :
    dispatch.metricCount + handler.metricCount ≤
      (dispatch.during runtime topic levels timestamp handler done).metricData.capacity := by
  have hreserved : dispatch.metricCount + handler.metricCount ≤
      (dispatch.reserved runtime handler).metricData.capacity :=
    SlotVector.le_capacity_reserve ..
  have hlive : (dispatch.reserved runtime handler).metricData.live =
      dispatch.heap.metricData.live := SlotVector.live_reserve ..
  rw [during, MetricCall.capacity_foldl_perform, MqttHandler.metricData_prepare]
  · exact hreserved
  · rw [MqttHandler.metricData_prepare, hlive]
    omega

/-- At every call of such an `Event` the batch is shorter than what is reserved, so the call finds
a slot and asks for no storage. -/
theorem Within.during (h : dispatch.Within) (hcounted : handler.Counted)
    (hle : handler.appends runtime payload ≤ handler.metricCount) (done : List MetricCall)
    (call : MetricCall) (rest : List MetricCall)
    (hcalls : handler.calls runtime payload topic levels timestamp = done ++ call :: rest) :
    let heap := dispatch.during runtime topic levels timestamp handler done
    heap.metricData.live.length < dispatch.metricCount + handler.metricCount ∧
      dispatch.metricCount + handler.metricCount ≤ heap.metricData.capacity ∧
      (call.perform runtime heap).metricData.capacity = heap.metricData.capacity := by
  intro heap
  have hlength := handler.length_calls runtime payload topic levels timestamp hcounted
  rw [hcalls, List.length_append, List.length_cons] at hlength
  have hlive : heap.metricData.live.length =
      dispatch.heap.metricData.live.length + done.length := length_live_during done
  have hwithin : dispatch.heap.metricData.live.length ≤ dispatch.metricCount := h
  have hcapacity : dispatch.metricCount + handler.metricCount ≤ heap.metricData.capacity :=
    le_capacity_during done (by omega)
  have hshort : heap.metricData.live.length < dispatch.metricCount + handler.metricCount := by
    omega
  have hroom : heap.metricData.HasRoom := Nat.lt_of_lt_of_le hshort hcapacity
  obtain ⟨data, hdata⟩ := MetricCall.exists_perform_eq runtime heap call
  exact ⟨hshort, hcapacity, by rw [hdata, hroom.capacity_swapDataBack]⟩

/-- The loop accumulates the metric counts of the handlers it has reached. -/
theorem metricCount_foldl_step (handlers : List MqttHandler) :
    (handlers.foldl (Dispatch.step runtime payload topic levels timestamp)
        dispatch).metricCount =
      dispatch.metricCount + (handlers.map MqttHandler.metricCount).sum := by
  induction handlers generalizing dispatch with
  | nil => rfl
  | cons handler handlers ih =>
    rw [List.foldl_cons, ih, List.map_cons, List.sum_cons, ← Nat.add_assoc]
    rfl

end Dispatch

/-- With a cache and a matching filter, a message is dispatched to its handlers one after the other,
and the batch the loop ends with is passed to the cache. -/
theorem MqttClient.onMessage_eq (runtime : Platform) (client : MqttClient) (message : Message) :
    let topic := runtime.topicTrim message.topic
    let levels := runtime.topicTokenizeView topic
    let handlers := client.topics.handlers topic
    let dispatch := handlers.foldl
      (Dispatch.step runtime message.payload topic levels message.now) (.start client.heap)
    client.onMessage runtime message =
      if client.metricCache = true ∧ client.topics.find topic ≠ [] then
        ⟨({ client with path := levels, heap := dispatch.heap } : MqttClient).addBatch runtime,
          handlers, some dispatch.heap.metricData.live⟩
      else ⟨client, [], none⟩ := by
  intro topic levels handlers dispatch
  have hevents : dispatch.events = handlers := by
    rw [Dispatch.events_foldl_step]
    rfl
  by_cases hcache : client.metricCache = true
  · by_cases hfind : client.topics.find topic = []
    · rw [if_neg fun h => h.2 hfind, onMessage, if_pos hcache, if_pos (by simpa using hfind)]
    · rw [if_pos ⟨hcache, hfind⟩, onMessage, if_pos hcache, if_neg (by simpa using hfind),
        ← hevents]
      dsimp only
      rw [← List.foldl_flatten]
      rfl
  · rw [if_neg fun h => hcache h.1, onMessage, if_neg hcache]

/-- The capacity reserved during dispatch is enough. Let all matched handlers be stored ones, in any
lists and any number of times, and let the batch vector and the parser be arbitrary. With a cache
and a matching filter, `on_message` dispatches to these handlers in turn and adds the batch it ends
with; each turn is done when all calls of its `Event` have been made. An `Event` of a value handler
appends its metric count of records; one of a json handler appends as many as are listed under the
reported pointers, at most its metric count if none is reported twice. If that is so for every
handler, the batch stays within the accumulated count between the `Event` calls, and each append
within them finds a slot of the reserved storage. -/
theorem MqttClient.onMessage_within_reserved (runtime : Platform) (platform : ConfigPlatform)
    (nodes : Option (List HandlerNode)) (metrics : MetricsMap) (client : MqttClient)
    (message : Message)
    (hstored : ∀ handler ∈ client.topics.handlers (runtime.topicTrim message.topic), ∃ id,
      (configureMqttHandlers platform nodes metrics).1.lookup id = some handler) :
    let topic := runtime.topicTrim message.topic
    let levels := runtime.topicTokenizeView topic
    let handlers := client.topics.handlers topic
    let dispatched := fun reached : List MqttHandler => reached.foldl
      (Dispatch.step runtime message.payload topic levels message.now) (.start client.heap)
    client.onMessage runtime message =
      (if client.metricCache = true ∧ client.topics.find topic ≠ [] then
        ⟨({ client with path := levels, heap := (dispatched handlers).heap } : MqttClient).addBatch
          runtime, handlers, some (dispatched handlers).heap.metricData.live⟩
      else ⟨client, [], none⟩) ∧
    (∀ before handler, dispatched (before ++ [handler]) =
      ⟨(dispatched before).metricCount + handler.metricCount,
        (dispatched before).during runtime topic levels message.now handler
          (handler.calls runtime message.payload topic levels message.now),
        (dispatched before).events ++ [handler]⟩) ∧
    (∀ handler ∈ handlers,
      (∀ heap,
        (handler.event runtime message.payload topic levels message.now
            heap).metricData.live.length =
          heap.metricData.live.length + handler.appends runtime message.payload) ∧
      (((handler.reports runtime message.payload).map JsonCallback.pointer).Nodup →
        handler.appends runtime message.payload ≤ handler.metricCount)) ∧
    ((∀ handler ∈ handlers,
        ((handler.reports runtime message.payload).map JsonCallback.pointer).Nodup) →
      (∀ before after, handlers = before ++ after →
        (dispatched before).metricCount = (before.map MqttHandler.metricCount).sum ∧
          (dispatched before).heap.metricData.live.length ≤ (dispatched before).metricCount) ∧
      (∀ before handler after, handlers = before ++ handler :: after → ∀ done call rest,
        handler.calls runtime message.payload topic levels message.now = done ++ call :: rest →
        let reserved := (dispatched before).metricCount + handler.metricCount
        let heap := (dispatched before).during runtime topic levels message.now handler done
        heap.metricData.live.length < reserved ∧ reserved ≤ heap.metricData.capacity ∧
          (call.perform runtime heap).metricData.capacity = heap.metricData.capacity) ∧
      ∀ batch, (client.onMessage runtime message).added = some batch →
        batch.length ≤ (handlers.map MqttHandler.metricCount).sum) := by
  intro topic levels handlers dispatched
  have hcounted : ∀ handler ∈ handlers, handler.Counted := by
    intro handler hhandler
    obtain ⟨id, hid⟩ := hstored handler hhandler
    exact MqttHandler.counted_of_lookup hid
  refine ⟨client.onMessage_eq runtime message, fun before handler => ?_,
    fun handler hhandler => ⟨fun heap => ?_, fun hnodup => ?_⟩, fun hnodup => ?_⟩
  · rw [Dispatch.during_calls]
    exact List.foldl_concat ..
  · exact handler.length_live_event runtime message.payload topic levels message.now
      (hcounted handler hhandler) heap
  · exact handler.appends_le runtime message.payload (hcounted handler hhandler) hnodup
  have hle : ∀ handler ∈ handlers, handler.appends runtime message.payload ≤
      handler.metricCount := fun handler hhandler =>
    handler.appends_le runtime message.payload (hcounted handler hhandler)
      (hnodup handler hhandler)
  have hwithin : ∀ before after, handlers = before ++ after → (dispatched before).Within := by
    intro before after hhandlers
    have hmem : ∀ handler ∈ before, handler ∈ handlers := fun handler hhandler => by
      rw [hhandlers]
      exact List.mem_append_left after hhandler
    exact (Dispatch.within_start client.heap).foldl_step before
      (fun handler hhandler => hcounted handler (hmem handler hhandler))
      fun handler hhandler => hle handler (hmem handler hhandler)
  have hcount : ∀ before : List MqttHandler,
      (dispatched before).metricCount = (before.map MqttHandler.metricCount).sum := fun before =>
    (Dispatch.metricCount_foldl_step before).trans (Nat.zero_add _)
  refine ⟨fun before after hhandlers => ⟨hcount before, hwithin before after hhandlers⟩,
    fun before handler after hhandlers done call rest hcalls => ?_, fun batch hbatch => ?_⟩
  · have hhandler : handler ∈ handlers := by simp [hhandlers]
    exact (hwithin before (handler :: after) hhandlers).during (hcounted handler hhandler)
      (hle handler hhandler) done call rest hcalls
  · rw [client.onMessage_eq runtime message] at hbatch
    split at hbatch
    · rw [← Option.some.inj hbatch, ← hcount handlers]
      exact hwithin handlers [] (List.append_nil handlers).symm
    · cases hbatch

/-- A sound automaton finds stored handlers only. -/
theorem BridgeConfig.stored_of_mem_handlers {platform : ConfigPlatform} {config : BridgeConfig}
    {automaton : Topics} {filterMatches : String → String → Bool}
    (hsound : automaton.Sound filterMatches (config.routes platform).added) (topic : String) :
    ∀ handler ∈ automaton.handlers topic, ∃ id,
      (config.store platform).lookup id = some handler := by
  intro handler hhandler
  obtain ⟨handlers, hhandlers, hmem⟩ := List.mem_flatten.mp hhandler
  obtain ⟨filter, hadd, _⟩ := hsound topic handlers hhandlers
  obtain ⟨_, _, _, id, _, hid⟩ := stored_of_mem_added hadd hmem
  exact ⟨platform.trim id, hid⟩

/-- The routes of the temperature configuration, in an automaton for filters without wildcards. -/
def BridgeConfig.temperatureClient : MqttClient :=
  temperature.client .reference (.keeping (· == ·) (temperature.routes .reference).added
    (Topics.firstAdded (temperature.routes .reference).added)) true

/-- A temperature message: its batch is not empty and within what is reserved. -/
theorem MqttClient.onMessage_within_reserved_temperature :
    ∃ batch, batch ≠ [] ∧
      (BridgeConfig.temperatureClient.onMessage .reference
        ⟨"home/kitchen", "\x7b\"temperature\": 21.5\x7d", 1⟩).added = some batch ∧
      batch.length ≤ ((BridgeConfig.temperatureClient.topics.handlers "home/kitchen").map
        MqttHandler.metricCount).sum := by
  have hsound := (Topics.keeps_firstAdded (· == ·)
    (BridgeConfig.temperature.routes .reference).added).sound
  have hwithin := onMessage_within_reserved .reference .reference BridgeConfig.temperature.handlers
    (BridgeConfig.temperature.metricsMap .reference) BridgeConfig.temperatureClient
    ⟨"home/kitchen", "\x7b\"temperature\": 21.5\x7d", 1⟩
    (BridgeConfig.stored_of_mem_handlers hsound _)
  obtain ⟨batch, hne, hbatch⟩ : ∃ batch, batch ≠ [] ∧
      (BridgeConfig.temperatureClient.onMessage .reference
        ⟨"home/kitchen", "\x7b\"temperature\": 21.5\x7d", 1⟩).added = some batch := by
    refine ⟨_, ?_, rfl⟩
    decide
  exact ⟨batch, hne, hbatch, (hwithin.2.2.2 (by decide)).2.2 batch hbatch⟩

end MqttBridge
