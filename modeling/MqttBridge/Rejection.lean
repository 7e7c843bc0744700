import MqttBridge.Reservation

/-!
# Payloads the parser rejects

`MqttJsonHandler::Event` hands the payload to the parser with an error code that nobody reads,
and the visitor appends records while the text is still being parsed. What was reported before
an error therefore stays in the batch and is published; whether the parser ended with an error
makes no difference anywhere. Records that were in the batch before are left alone.
-/

namespace MqttBridge

/-- The same parser, ending every parse without an error. -/
def Platform.neverFailing (runtime : Platform) : Platform :=
  { runtime with parse := fun pointers payload =>
      { runtime.parse pointers payload with failed := false } }

/-- A payload the parser rejects leaves the batch as it was before `Event`. -/
def RejectionLeavesBatch (runtime : Platform) : Prop :=
  ∀ id pointers metricCount payload topic levels timestamp heap,
    (runtime.parse (pointers.map Prod.fst) payload).failed = true →
      ((MqttHandler.json id pointers metricCount).event runtime payload topic levels timestamp
        heap).metricData.live = heap.metricData.live

/-- No event looks at the outcome of a parse. -/
theorem MqttHandler.event_neverFailing (runtime : Platform) (handler : MqttHandler)
    (data topic : String) (levels : TopicLevelsView) (timestamp : ℤ) (heap : Heap) :
    handler.event runtime.neverFailing data topic levels timestamp heap =
      handler.event runtime data topic levels timestamp heap := by
  cases handler <;> rfl

/-- Nor does the processing of a message. -/
theorem MqttClient.onMessage_neverFailing (runtime : Platform) (client : MqttClient)
    (message : Message) :
    client.onMessage runtime.neverFailing message = client.onMessage runtime message := by
  have hstep : ∀ data topic levels timestamp,
      Dispatch.step runtime.neverFailing data topic levels timestamp =
        Dispatch.step runtime data topic levels timestamp := by
    intro data topic levels timestamp
    funext dispatch handler
    simp only [Dispatch.step, MqttHandler.event_neverFailing]
    rfl
  simp only [onMessage, hstep]
  rfl

/-- A report raises no event exactly when no metric is listed under its pointer. -/
theorem JsonCallback.calls_eq_nil (callback : JsonCallback) (pointers : JsonPointers)
    (topic : String) (levels : TopicLevelsView) (timestamp : ℤ) :
    callback.calls pointers topic levels timestamp = [] ↔
      (pointers.lookup callback.pointer).getD [] = [] := List.map_eq_nil_iff

/-- What `Event` does with a payload, whether or not the parser ends with an error. After any
messages, and with any handlers already called for this one, a json handler appends exactly one
record for each report and each metric listed under its pointer, in order, and leaves every record
in the batch as it was; the batch stays the same exactly when nothing is listed under the reported
pointers. `on_message` adds all these records to the cache, as if no parse had ended with an
error. The cache may leave in the batch what it likes, as long as it puts no help text there. -/
theorem MqttHandler.event_appends_reported (runtime : Platform) (hadds : runtime.AddsNoHelp)
    (topics : Topics) (subscriptions : List String) (metricCache : Bool) (messages : List Message)
    (payload topic : String) (levels : TopicLevelsView) (timestamp : ℤ)
    (called : List MqttHandler) (id : String) (pointers : JsonPointers) (metricCount : ℕ) :
    let client := ((MqttClient.create topics subscriptions metricCache).run runtime messages).1
    let dispatch := called.foldl (Dispatch.step runtime payload topic levels timestamp)
      (.start client.heap)
    let handler := MqttHandler.json id pointers metricCount
    let heap := dispatch.reserved runtime handler
    let reports := (runtime.parse (pointers.map Prod.fst) payload).callbacks
    let batch := (handler.event runtime payload topic levels timestamp heap).metricData.live
    (batch = heap.metricData.live ++ (reports.flatMap fun callback =>
      callback.calls pointers topic levels timestamp).map MetricCall.emit) ∧
    (batch = heap.metricData.live ↔
      ∀ callback ∈ reports, (pointers.lookup callback.pointer).getD [] = []) ∧
    ∀ message, (client.onMessage runtime message).added = client.expectedBatch runtime message ∧
      client.onMessage runtime.neverFailing message = client.onMessage runtime message := by
  intro client dispatch handler heap reports batch
  have hclean : client.heap.Clean := ((MqttClient.create topics subscriptions metricCache).run_spec
    runtime hadds messages Heap.clean_initial).1
  have hdispatch := (Dispatch.foldl_step_spec runtime payload topic levels timestamp called
    (Dispatch.clean_start hclean)).1
  have hheap : heap.Clean := ⟨hdispatch.scratch, hdispatch.slots.reserve rfl runtime.slots _⟩
  have hbatch : batch = heap.metricData.live ++ (reports.flatMap fun callback =>
      callback.calls pointers topic levels timestamp).map MetricCall.emit :=
    (handler.event_spec runtime payload topic levels timestamp hheap).2
  refine ⟨hbatch, ?_, fun message => ⟨(client.onMessage_spec runtime hadds message hclean).2,
    client.onMessage_neverFailing runtime message⟩⟩
  rw [hbatch, List.append_right_eq_self, List.map_eq_nil_iff, List.flatMap_eq_nil_iff]
  simp only [JsonCallback.calls_eq_nil]

/-- The reference parser on a document cut off after its first number: it reports the number and
ends with an error. -/
def Platform.truncated : Platform :=
  { Platform.reference with parse := fun pointers payload =>
      if payload = "\x7b\"temperature\": 21.5," then
        ⟨if "/temperature" ∈ pointers then [⟨"/temperature", .double "21.5"⟩] else [], true⟩
      else Platform.reference.parse pointers payload }

/-- After a message whose payload is complete, the cut off document adds the record of its number
and nothing else. -/
theorem MqttHandler.event_appends_reported_truncated :
    let metric : MetricRef :=
      ⟨0, .create ⟨"Temperature", ""⟩ "temperature" ⟨2⟩ .none .on [] [] []⟩
    let handler := MqttHandler.json "sensor" [("/temperature", [metric])] 1
    let client := ((MqttClient.create ⟨fun _ => [[handler]]⟩ ["#"] true).run .truncated
      [⟨"home/kitchen", "\x7b\"temperature\": 21.5\x7d", 1⟩]).1
    let heap := (Dispatch.start client.heap).reserved .truncated handler
    (handler.event .truncated "\x7b\"temperature\": 21.5," "home/kitchen" [] 2
      heap).metricData.live.map (fun data => (data.id.name, data.value, data.timestamp)) =
        [("Temperature", "21.5", 2)] := by
  intro metric handler client heap
  have hbatch := (event_appends_reported .truncated Platform.addsNoHelp_reference
    ⟨fun _ => [[handler]]⟩ ["#"] true [⟨"home/kitchen", "\x7b\"temperature\": 21.5\x7d", 1⟩]
    "\x7b\"temperature\": 21.5," "home/kitchen" [] 2 [] "sensor" [("/temperature", [metric])] 1).1
  refine (congrArg (List.map fun data => (data.id.name, data.value, data.timestamp))
    hbatch).trans ?_
  decide

/-- The cut off document is rejected by every json handler, and still its record is published. -/
theorem rejected_payload_published :
    ¬RejectionLeavesBatch .truncated ∧
      (∀ pointers, (Platform.truncated.parse pointers "\x7b\"temperature\": 21.5,").failed = true) ∧
      ∃ batch, batch ≠ [] ∧
        (BridgeConfig.temperatureClient.onMessage .truncated
          ⟨"home/kitchen", "\x7b\"temperature\": 21.5,", 1⟩).added = some batch := by
  refine ⟨fun h => ?_, fun _ => rfl, ?_⟩
  · have hbatch := h "sensor" [("/temperature", [⟨0, .create ⟨"Temperature", ""⟩ "temperature" ⟨2⟩
      .none .off [] [] []⟩])] 1 "\x7b\"temperature\": 21.5," "home/kitchen" [] 1 .initial
      (by decide)
    have hlength := congrArg List.length hbatch
    exact absurd hlength (by decide)
  · refine ⟨_, ?_, rfl⟩
    decide

end MqttBridge
