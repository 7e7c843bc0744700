import Mathlib.Logic.Function.Basic
import MqttBridge.Metric

/-!
# Message handlers

A value handler raises one event per metric with the whole payload. A json handler lets the
parser report the scalars found at its pointers and raises one event per report and metric
listed under the pointer; the report reaches the metrics through a visitor that holds the
message's topic, levels and time. The parser is any function from the configured pointers and
the payload to the reports it makes before it ends, with success or with an error.

The metric objects' scratch records, the json handlers' visitors and the batch survive from
one message to the next. They are the heap here.
-/

namespace MqttBridge

/-- A non-null `MetricPtr`: the metric object's address and its configuration. -/
structure MetricRef where
  addr : ℕ
  metric : Metric

/-- One `apply_…` call of the parser: the scalar it read, with its text or flag. -/
inductive JsonValue
  | str (text : String)
  | int64 (raw : String)
  | uint64 (raw : String)
  | double (raw : String)
  | bool (flag : Bool)
deriving DecidableEq, Repr

namespace JsonValue

/-- The text handed to `JsonVisitor::apply`. -/
def text : JsonValue → String
  | str text => text
  | int64 raw => raw
  | uint64 raw => raw
  | double raw => raw
  | bool flag => if flag then "true" else "false"

/-- The value type handed to `JsonVisitor::apply`. -/
def valueType : JsonValue → ValueType
  | str _ => .string
  | int64 _ => .int
  | uint64 _ => .uInt
  | double _ => .float
  | bool _ => .bool

end JsonValue

/-- A report of the parser: the scalar found at a configured pointer. -/
structure JsonCallback where
  pointer : String
  value : JsonValue
deriving DecidableEq, Repr

/-- What one parse does: its reports in order, and whether it ended with an error. -/
structure ParseResult where
  callbacks : List JsonCallback
  failed : Bool

/-- The metrics attached to each JSON pointer of a json handler. -/
abbrev JsonPointers := List (String × List MetricRef)

/-- The handler objects. Their base class keeps the id and the metric count. -/
inductive MqttHandler
  | json (id : String) (pointers : JsonPointers) (metricCount : ℕ)
  | value (id : String) (metrics : List MetricRef) (metricCount : ℕ)

namespace MqttHandler

/-- `MqttHandler::Id`. -/
def id : MqttHandler → String
  | json id _ _ => id
  | value id _ _ => id

/-- `MqttHandler::MetricCount`. -/
def metricCount : MqttHandler → ℕ
  | json _ _ metricCount => metricCount
  | value _ _ metricCount => metricCount

/-- The metric objects a handler owns. -/
def metrics : MqttHandler → List MetricRef
  | json _ pointers _ => pointers.flatMap Prod.snd
  | value _ metrics _ => metrics

end MqttHandler

/-- A pointer to the client's batch, the only vector of records there is. -/
inductive MetricDataVectorPtr
  | null
  | batch
deriving DecidableEq, Repr

/-- The fields of `JsonVisitor`. -/
structure JsonVisitor where
  levels : TopicLevelsView := []
  metricData : MetricDataVectorPtr := .null
  timestamp : ℤ := 0
  topic : String := ""
deriving DecidableEq, Repr

/-- `JsonVisitor::reset`. -/
def JsonVisitor.reset (_ : JsonVisitor) : JsonVisitor := {}

/-- What outlives a message: scratch records by metric address (none for a metric that has had
no event yet), visitors by handler id, and the batch with its recycled slots. -/
structure Heap where
  scratch : ℕ → Option MetricScratch
  visitors : String → JsonVisitor
  metricData : MetricDataVector

namespace Heap

/-- The heap before the first message. -/
def initial : Heap := ⟨fun _ => none, fun _ => {}, .empty⟩

/-- The scratch record of a metric object. -/
def scratchOf (heap : Heap) (ref : MetricRef) : MetricScratch :=
  (heap.scratch ref.addr).getD ref.metric.scratch

end Heap

/-- The functions the client calls that are not part of this repository. `addLeaves n` is what the
call of `MetricDataCache::Add` after `n` earlier ones leaves in the vector it is given: the cache
may keep the records' storage and put other records in their place. -/
structure Platform where
  slots : SlotPolicy MetricData
  parse : List String → String → ParseResult
  topicTrim : String → String
  topicTokenizeView : String → TopicLevelsView
  addLeaves : ℕ → MetricDataVector → MetricDataVector

/-- `MetricDataCache::Add` puts no help text into a vector that is without. -/
def Platform.AddsNoHelp (platform : Platform) : Prop :=
  ∀ n metricData, metricData.All MetricData.NoHelp →
    (platform.addLeaves n metricData).All MetricData.NoHelp

/-- Remove blanks at both ends. -/
def trimBlanks (text : String) : String :=
  .ofList ((text.toList.dropWhile Char.isWhitespace).reverse.dropWhile Char.isWhitespace).reverse

/-- Concrete functions in the place of the missing ones, for running the client on examples. The
parser knows one document, with a number at `/temperature`, and rejects every other payload. `Add`
copies the records and leaves them in the vector in another order. -/
def Platform.reference : Platform where
  slots := .padded MetricData
  parse := fun pointers payload =>
    if payload = "\x7b\"temperature\": 21.5\x7d" then
      ⟨if "/temperature" ∈ pointers then [⟨"/temperature", .double "21.5"⟩] else [], false⟩
    else ⟨[], true⟩
  topicTrim := trimBlanks
  topicTokenizeView := fun topic => (topic.toList.splitOn '/').map String.ofList
  addLeaves := fun _ metricData => ⟨metricData.live.reverse, metricData.spare⟩

/-- The reference `Add` leaves only records that were in the vector. -/
theorem Platform.addsNoHelp_reference : reference.AddsNoHelp := by
  intro n metricData h data hdata
  rcases List.mem_append.mp hdata with hlive | hspare
  · exact h data (List.mem_append_left _ (List.mem_reverse.mp hlive))
  · exact h data (List.mem_append_right _ hspare)

/-- `Metric::Event` on a metric object. -/
def MetricRef.event (platform : Platform) (ref : MetricRef) (value topic : String)
    (levels : TopicLevelsView) (timestamp : ℤ) (valueType : ValueType) (heap : Heap) : Heap :=
  let result := ref.metric.event platform.slots value topic levels timestamp valueType
    (heap.scratchOf ref) heap.metricData
  { heap with
    scratch := Function.update heap.scratch ref.addr (some result.1)
    metricData := result.2 }

/-- `JsonVisitor::apply`: one event per metric, with what the visitor holds. -/
def JsonVisitor.apply (platform : Platform) (visitor : JsonVisitor) (metrics : List MetricRef)
    (value : JsonValue) (heap : Heap) : Heap :=
  match visitor.metricData with
  | .null => heap -- never reached: `MqttJsonHandler::Event` sets the pointer first
  | .batch =>
    metrics.foldl (fun heap ref =>
      ref.event platform value.text visitor.topic visitor.levels visitor.timestamp
        value.valueType heap) heap

/-- The visitor of a json handler, set up for one message. -/
def JsonVisitor.setup (visitor : JsonVisitor) (topic : String) (levels : TopicLevelsView)
    (timestamp : ℤ) : JsonVisitor :=
  { visitor.reset with
    levels := levels, metricData := .batch, timestamp := timestamp, topic := topic }

/-- One report of the parser reaching a json handler's visitor: it is applied to the metrics
listed under the reported pointer. -/
def report (platform : Platform) (id : String) (pointers : JsonPointers) (heap : Heap)
    (callback : JsonCallback) : Heap :=
  match pointers.lookup callback.pointer with
  | none => heap
  | some metrics => (heap.visitors id).apply platform metrics callback.value heap

/-- `Event` of either handler. The json handler ignores whether the parser ended with an error. -/
def MqttHandler.event (platform : Platform) (handler : MqttHandler) (data topic : String)
    (levels : TopicLevelsView) (timestamp : ℤ) (heap : Heap) : Heap :=
  match handler with
  | .json id pointers _ =>
    let visitor := (heap.visitors id).setup topic levels timestamp
    let heap := { heap with visitors := Function.update heap.visitors id visitor }
    (platform.parse (pointers.map Prod.fst) data).callbacks.foldl (report platform id pointers) heap
  | .value _ metrics _ =>
    metrics.foldl (fun heap ref => ref.event platform data topic levels timestamp .unknown heap)
      heap

/-- One `Metric::Event` call with its arguments. -/
structure MetricCall where
  ref : MetricRef
  value : String
  topic : String
  levels : TopicLevelsView
  timestamp : ℤ
  valueType : ValueType

namespace MetricCall

/-- Carry out the call. -/
def perform (platform : Platform) (heap : Heap) (call : MetricCall) : Heap :=
  call.ref.event platform call.value call.topic call.levels call.timestamp call.valueType heap

/-- The record the call is about: a function of the metric's configuration and the arguments. -/
def emit (call : MetricCall) : MetricData :=
  call.ref.metric.emit call.value call.topic call.levels call.timestamp call.valueType

end MetricCall

/-- The metric events one report raises. -/
def JsonCallback.calls (callback : JsonCallback) (pointers : JsonPointers) (topic : String)
    (levels : TopicLevelsView) (timestamp : ℤ) : List MetricCall :=
  ((pointers.lookup callback.pointer).getD []).map fun ref =>
    ⟨ref, callback.value.text, topic, levels, timestamp, callback.value.valueType⟩

/-- The metric events a handler raises for a message, in order. -/
def MqttHandler.calls (platform : Platform) (handler : MqttHandler) (data topic : String)
    (levels : TopicLevelsView) (timestamp : ℤ) : List MetricCall :=
  match handler with
  | .json _ pointers _ =>
    (platform.parse (pointers.map Prod.fst) data).callbacks.flatMap fun callback =>
      callback.calls pointers topic levels timestamp
  | .value _ metrics _ =>
    metrics.map fun ref => ⟨ref, data, topic, levels, timestamp, .unknown⟩

namespace Heap

/-- No help text is in any scratch record or slot: the invariant behind history-free events. -/
structure Clean (heap : Heap) : Prop where
  scratch : ∀ addr scratch, heap.scratch addr = some scratch → scratch.metricData.NoHelp
  slots : heap.metricData.All MetricData.NoHelp

/-- The heap before the first message is clean. -/
theorem clean_initial : initial.Clean where
  scratch := fun _ _ h => by cases h
  slots := SlotVector.all_empty

/-- In a clean heap every metric object's scratch record is without help text. -/
theorem Clean.scratchOf {heap : Heap} (h : heap.Clean) (ref : MetricRef) :
    (heap.scratchOf ref).metricData.NoHelp := by
  unfold Heap.scratchOf
  cases hs : heap.scratch ref.addr with
  | none => rfl
  | some scratch => exact h.scratch ref.addr scratch hs

/-- Visitors hold no records. -/
theorem Clean.setVisitors {heap : Heap} (h : heap.Clean) (visitors : String → JsonVisitor) :
    ({ heap with visitors := visitors } : Heap).Clean := ⟨h.scratch, h.slots⟩

end Heap

namespace MetricCall

variable (platform : Platform)

/-- A call touches no visitor. -/
@[simp] theorem visitors_perform (heap : Heap) (call : MetricCall) :
    (call.perform platform heap).visitors = heap.visitors := rfl

/-- A call keeps the heap clean. -/
theorem clean_perform {heap : Heap} (h : heap.Clean) (call : MetricCall) :
    (call.perform platform heap).Clean := by
  obtain ⟨hscratch, hslots⟩ := call.ref.metric.noHelp_event platform.slots call.value call.topic
    call.levels call.timestamp call.valueType (heap.scratchOf call.ref) heap.metricData
    (h.scratchOf call.ref) h.slots
  refine ⟨fun addr scratch hs => ?_, hslots⟩
  by_cases haddr : addr = call.ref.addr
  · subst haddr
    have heq := hs.symm.trans (Function.update_self ..)
    rw [Option.some.inj heq]
    exact hscratch
  · have heq := hs.symm.trans (Function.update_of_ne haddr ..)
    exact h.scratch addr scratch heq.symm

/-- A call on a clean heap appends its record and leaves every earlier record alone. -/
theorem live_perform {heap : Heap} (h : heap.Clean) (call : MetricCall) :
    (call.perform platform heap).metricData.live = heap.metricData.live ++ [call.emit] :=
  call.ref.metric.live_event platform.slots call.value call.topic call.levels call.timestamp
    call.valueType (heap.scratchOf call.ref) heap.metricData (h.scratchOf call.ref)

/-- Calls made one after the other on a clean heap keep it clean and append their records in
order, whatever records the metrics' scratch slots were left with. -/
theorem foldl_perform (calls : List MetricCall) {heap : Heap} (h : heap.Clean) :
    (calls.foldl (perform platform) heap).Clean ∧
      (calls.foldl (perform platform) heap).metricData.live =
        heap.metricData.live ++ calls.map emit := by
  induction calls generalizing heap with
  | nil => exact ⟨h, by simp⟩
  | cons call calls ih =>
    obtain ⟨hclean, hlive⟩ := ih (call.clean_perform platform h)
    refine ⟨hclean, ?_⟩
    rw [List.foldl_cons, hlive, live_perform platform h, List.map_cons, List.append_assoc]
    rfl

/-- Whatever the metric's scratch record held, a call appends one record. -/
theorem exists_perform_eq (heap : Heap) (call : MetricCall) :
    ∃ data, (call.perform platform heap).metricData =
      (heap.metricData.swapDataBack platform.slots data).1 := ⟨_, rfl⟩

/-- Calls on any heap append one record each. -/
theorem foldl_perform_appends (calls : List MetricCall) (heap : Heap) :
    ∃ records : List MetricData, records.length = calls.length ∧
      (calls.foldl (perform platform) heap).metricData.live =
        heap.metricData.live ++ records := by
  induction calls generalizing heap with
  | nil => exact ⟨[], rfl, by simp⟩
  | cons call calls ih =>
    obtain ⟨data, hdata⟩ := exists_perform_eq platform heap call
    obtain ⟨records, hlength, hlive⟩ := ih (call.perform platform heap)
    refine ⟨data :: records, by rw [List.length_cons, List.length_cons, hlength], ?_⟩
    rw [List.foldl_cons, hlive, hdata, SlotVector.live_swapDataBack, List.append_assoc]
    rfl

/-- Calls for which there are slots ask for no storage. -/
theorem capacity_foldl_perform (calls : List MetricCall) (heap : Heap)
    (h : heap.metricData.live.length + calls.length ≤ heap.metricData.capacity) :
    (calls.foldl (perform platform) heap).metricData.capacity = heap.metricData.capacity := by
  induction calls generalizing heap with
  | nil => rfl
  | cons call calls ih =>
    obtain ⟨data, hdata⟩ := exists_perform_eq platform heap call
    rw [List.length_cons] at h
    have hroom : heap.metricData.HasRoom := by
      unfold SlotVector.HasRoom
      omega
    have hcapacity := hroom.capacity_swapDataBack platform.slots data
    rw [← hdata] at hcapacity
    rw [List.foldl_cons, ih, hcapacity]
    rw [hcapacity, hdata, SlotVector.live_swapDataBack, List.length_append, List.length_singleton]
    omega

/-- No call of a sequence touches a visitor. -/
@[simp] theorem visitors_foldl_perform (calls : List MetricCall) (heap : Heap) :
    (calls.foldl (perform platform) heap).visitors = heap.visitors := by
  induction calls generalizing heap with
  | nil => rfl
  | cons call calls ih => rw [List.foldl_cons, ih, visitors_perform]

end MetricCall

/-- Reports made while the visitor is set up for a message carry out exactly that message's
calls: no call touches a visitor, so the set-up lasts from one report to the next. -/
theorem foldl_report (platform : Platform) (id : String) (pointers : JsonPointers) (topic : String)
    (levels : TopicLevelsView) (timestamp : ℤ) (callbacks : List JsonCallback) (heap : Heap)
    (hvisitor : heap.visitors id = ⟨levels, .batch, timestamp, topic⟩) :
    callbacks.foldl (report platform id pointers) heap =
      (callbacks.flatMap fun callback => callback.calls pointers topic levels timestamp).foldl
        (MetricCall.perform platform) heap := by
  induction callbacks generalizing heap with
  | nil => rfl
  | cons callback callbacks ih =>
    have hreport : report platform id pointers heap callback =
        (callback.calls pointers topic levels timestamp).foldl (MetricCall.perform platform)
          heap := by
      unfold report JsonCallback.calls
      cases hlookup : pointers.lookup callback.pointer with
      | none => rfl
      | some metrics =>
        rw [hvisitor, Option.getD_some, List.foldl_map]
        rfl
    rw [List.foldl_cons, List.flatMap_cons, List.foldl_append, hreport]
    apply ih
    rw [MetricCall.visitors_foldl_perform, hvisitor]

namespace MqttHandler

/-- The heap a handler's calls start from: a json handler has set up its visitor. -/
def prepare (handler : MqttHandler) (topic : String) (levels : TopicLevelsView) (timestamp : ℤ)
    (heap : Heap) : Heap :=
  match handler with
  | .json id _ _ =>
    { heap with visitors :=
        Function.update heap.visitors id ((heap.visitors id).setup topic levels timestamp) }
  | .value _ _ _ => heap

/-- `Event` makes exactly the calls of `calls`: a visitor set up for the message makes every
report carry this message's topic, levels and time. -/
theorem event_eq (platform : Platform) (handler : MqttHandler) (data topic : String)
    (levels : TopicLevelsView) (timestamp : ℤ) (heap : Heap) :
    handler.event platform data topic levels timestamp heap =
      (handler.calls platform data topic levels timestamp).foldl (MetricCall.perform platform)
        (handler.prepare topic levels timestamp heap) := by
  cases handler with
  | value id metrics metricCount =>
    rw [event, calls, List.foldl_map]
    rfl
  | json id pointers metricCount =>
    exact foldl_report platform id pointers topic levels timestamp _ _ (Function.update_self ..)

/-- Preparing a handler touches no record. -/
@[simp] theorem metricData_prepare (handler : MqttHandler) (topic : String)
    (levels : TopicLevelsView) (timestamp : ℤ) (heap : Heap) :
    (handler.prepare topic levels timestamp heap).metricData = heap.metricData := by
  cases handler <;> rfl

/-- On any heap `Event` appends one record for each of the handler's calls. -/
theorem event_appends (platform : Platform) (handler : MqttHandler) (data topic : String)
    (levels : TopicLevelsView) (timestamp : ℤ) (heap : Heap) :
    ∃ records : List MetricData,
      records.length = (handler.calls platform data topic levels timestamp).length ∧
        (handler.event platform data topic levels timestamp heap).metricData.live =
          heap.metricData.live ++ records := by
  rw [event_eq, ← handler.metricData_prepare topic levels timestamp heap]
  exact MetricCall.foldl_perform_appends platform _ _

/-- Preparing a handler keeps the heap clean and the batch as it is. -/
theorem prepare_spec (handler : MqttHandler) (topic : String) (levels : TopicLevelsView)
    (timestamp : ℤ) {heap : Heap} (h : heap.Clean) :
    (handler.prepare topic levels timestamp heap).Clean ∧
      (handler.prepare topic levels timestamp heap).metricData = heap.metricData := by
  refine ⟨?_, handler.metricData_prepare topic levels timestamp heap⟩
  cases handler with
  | json id pointers metricCount => exact h.setVisitors _
  | value id metrics metricCount => exact h

/-- On a clean heap `Event` appends the records of the handler's calls, in order. -/
theorem event_spec (platform : Platform) (handler : MqttHandler) (data topic : String)
    (levels : TopicLevelsView) (timestamp : ℤ) {heap : Heap} (h : heap.Clean) :
    (handler.event platform data topic levels timestamp heap).Clean ∧
      (handler.event platform data topic levels timestamp heap).metricData.live =
        heap.metricData.live ++
          (handler.calls platform data topic levels timestamp).map MetricCall.emit := by
  obtain ⟨hclean, hbatch⟩ := handler.prepare_spec topic levels timestamp h
  rw [event_eq, ← hbatch]
  exact MetricCall.foldl_perform platform _ hclean

end MqttHandler

end MqttBridge
