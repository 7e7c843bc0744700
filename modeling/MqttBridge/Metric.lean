import MqttBridge.MetricData
import MqttBridge.Library.SlotVector

/-!
# A configured metric and its events

`Metric::Event` fills the metric's own scratch record, then swaps it with the next slot of the
batch. What the metric holds afterwards is the old content of that slot, which may be a record
of any other metric. Every field of the scratch record is assigned by an event except its help
text, so an event is a function of its arguments as long as no help text is ever set; that is
the invariant kept here over all slots and scratch records.
-/

namespace MqttBridge

/-- The fields of `Metric` that its constructor sets and nothing assigns again. -/
structure Metric where
  id : MetricId
  property : String
  labelActions : List LabelAction
  valueActions : List ValueAction
  metricPropertyActions : List LabelAction
  metricType : MetricType
  metricUnit : MetricUnit
  metricFormat : MetricFormatFn

/-- The fields of `Metric` that events write: its record and its property labels. -/
structure MetricScratch where
  metricData : MetricData
  metricProperties : Labels

/-- A `MetricDataVector`, the batch records are collected in. -/
abbrev MetricDataVector := SlotVector MetricData

namespace Metric

/-- The constructor. Without an explicit `Off` the samples are written with their time. -/
def create (id : MetricId) (property : String) (metricType : MetricType) (metricUnit : MetricUnit)
    (timestamp : MetricTimestamp) (labelActions : List LabelAction)
    (valueActions : List ValueAction) (metricPropertyActions : List LabelAction) : Metric where
  id := id
  property := property
  labelActions := labelActions
  valueActions := valueActions
  metricPropertyActions := metricPropertyActions
  metricType := metricType
  metricUnit := metricUnit
  metricFormat :=
    match timestamp with
    | .off => .format metricType
    | .on => .timestampFormat metricType

/-- The record and labels a metric starts with. -/
def scratch (metric : Metric) : MetricScratch where
  metricData :=
    { id := metric.id, labels := ∅, help := "", metricType := metric.metricType,
      metricUnit := metric.metricUnit }
  metricProperties := ∅

/-- The property labels of one event: the topic, then what the property actions make of it. They
read and write the same labels. -/
def properties (metric : Metric) (labels : Labels) (topic : String) (levels : TopicLevelsView) :
    Labels :=
  metric.metricPropertyActions.foldl (fun labels action => action.apply labels levels labels)
    (labels.clear.setLabel Labels.topic topic)

/-- The labels of one record, written into the labels the record had. -/
def recordLabels (metric : Metric) (labels properties : Labels) (location topic : String)
    (levels : TopicLevelsView) : Labels :=
  metric.labelActions.foldl (fun labels action => action.apply properties levels labels)
    ((labels.clear.setLabel Labels.location location).setLabel Labels.topic topic)

/-- `Metric::Event`: fill the scratch record and swap it into the batch. -/
def event (metric : Metric) (slots : SlotPolicy MetricData) (value topic : String)
    (levels : TopicLevelsView) (timestamp : ℤ) (valueType : ValueType) (scratch : MetricScratch)
    (metricData : MetricDataVector) : MetricScratch × MetricDataVector :=
  let data :=
    { scratch.metricData with
      id := metric.id
      metricType := metric.metricType
      metricUnit := metric.metricUnit
      metricFormat := metric.metricFormat
      value := value
      valueType := valueType
      timestamp := timestamp }
  let properties := metric.properties scratch.metricProperties topic levels
  let data := { data with id.location := properties.getLabel Labels.location }
  let labels := metric.recordLabels data.labels properties data.id.location topic levels
  let data := { data with labels := labels }
  let data := metric.valueActions.foldl (fun data action => action.apply data valueType) data
  let swapped := metricData.swapDataBack slots data
  (⟨swapped.2, properties⟩, swapped.1)

/-- The record of one event as a function of the metric's configuration and the event alone. -/
def emit (metric : Metric) (value topic : String) (levels : TopicLevelsView) (timestamp : ℤ)
    (valueType : ValueType) : MetricData :=
  let properties := metric.properties ∅ topic levels
  let location := properties.getLabel Labels.location
  metric.valueActions.foldl (fun data action => action.apply data valueType)
    { id := { metric.id with location := location }
      labels := metric.recordLabels ∅ properties location topic levels
      help := ""
      metricType := metric.metricType
      metricUnit := metric.metricUnit
      metricFormat := metric.metricFormat
      value := value
      valueType := valueType
      timestamp := timestamp }

/-- The header data of an emitted record is the metric's own. -/
theorem headerKey_emit (metric : Metric) (value topic : String) (levels : TopicLevelsView)
    (timestamp : ℤ) (valueType : ValueType) :
    (metric.emit value topic levels timestamp valueType).headerKey =
      ⟨metric.id.name, metric.metricType, metric.metricUnit, ""⟩ := by
  rw [emit, headerKey_foldl_valueActions]
  rfl

end Metric

/-- A record without help text. -/
def MetricData.NoHelp (data : MetricData) : Prop := data.help = ""

/-- No event ever sets a help text. -/
theorem Metric.noHelp_emit (metric : Metric) (value topic : String) (levels : TopicLevelsView)
    (timestamp : ℤ) (valueType : ValueType) :
    (metric.emit value topic levels timestamp valueType).NoHelp :=
  congrArg HeaderKey.help (metric.headerKey_emit value topic levels timestamp valueType)

section Event

variable (metric : Metric) (slots : SlotPolicy MetricData) (value topic : String)
  (levels : TopicLevelsView) (timestamp : ℤ) (valueType : ValueType) (scratch : MetricScratch)
  (metricData : MetricDataVector)

/-- The event of a metric whose scratch record has no help text swaps in the emitted record,
whatever else the record and the property labels held. -/
theorem Metric.event_eq (hscratch : scratch.metricData.NoHelp) :
    metric.event slots value topic levels timestamp valueType scratch metricData =
      (⟨(metricData.swapDataBack slots
          (metric.emit value topic levels timestamp valueType)).2,
        metric.properties ∅ topic levels⟩,
        (metricData.swapDataBack slots
          (metric.emit value topic levels timestamp valueType)).1) := by
  obtain ⟨⟨id, labels, help, _, _, _, _, _, _⟩, properties⟩ := scratch
  cases hscratch
  rfl

/-- One event appends the emitted record and leaves every earlier record alone. -/
theorem Metric.live_event (hscratch : scratch.metricData.NoHelp) :
    (metric.event slots value topic levels timestamp valueType scratch metricData).2.live =
      metricData.live ++ [metric.emit value topic levels timestamp valueType] := by
  rw [metric.event_eq slots value topic levels timestamp valueType scratch metricData hscratch]
  rfl

/-- One event leaves no help text in any slot, nor in the scratch record it hands back. -/
theorem Metric.noHelp_event (hscratch : scratch.metricData.NoHelp)
    (hslots : metricData.All MetricData.NoHelp) :
    (metric.event slots value topic levels timestamp valueType scratch
        metricData).1.metricData.NoHelp ∧
      (metric.event slots value topic levels timestamp valueType scratch metricData).2.All
        MetricData.NoHelp := by
  rw [metric.event_eq slots value topic levels timestamp valueType scratch metricData hscratch]
  exact (hslots.swapDataBack (p := MetricData.NoHelp) rfl slots
    (metric.noHelp_emit value topic levels timestamp valueType)).symm

end Event

end MqttBridge
