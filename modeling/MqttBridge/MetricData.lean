import Mathlib.Data.Finmap

/-!
# Metric records and the actions configured on them

The record a metric fills for each event and the cache keeps for each sample. Record, labels,
enumerations and actions are declared outside this repository. Of an enumeration only the
members named here are used, so a member is a number; a format function is known by the type
it was chosen for. An action is whatever function of its arguments it computes, except that a
value action manipulates the value and leaves alone what the header block of the record is
written from.
-/

namespace MqttBridge

/-- `yy_prometheus::MetricType`. -/
structure MetricType where
  code : ℕ
deriving DecidableEq, Repr

/-- `MetricType::None`, the type no header has been written for. -/
def MetricType.none : MetricType := ⟨0⟩

/-- `yy_prometheus::MetricUnit`. -/
structure MetricUnit where
  code : ℕ
deriving DecidableEq, Repr

/-- `MetricUnit::None`, the unit of a metric without one. -/
def MetricUnit.none : MetricUnit := ⟨0⟩

/-- `yy_prometheus::MetricTimestamp`: whether samples are written with their time. -/
inductive MetricTimestamp
  | off
  | on
deriving DecidableEq, Repr

/-- `yy_prometheus::MetricFormatFn`: the function that writes a sample, chosen by
`decode_metric_format_fn` or `decode_metric_timestamp_format_fn` from the metric's type. -/
inductive MetricFormatFn
  | noFormat
  | format (metricType : MetricType)
  | timestampFormat (metricType : MetricType)
deriving DecidableEq, Repr

/-- `yy_values::ValueType`: what kind of scalar a value was reported as. -/
inductive ValueType
  | unknown
  | string
  | int
  | uInt
  | float
  | bool
deriving DecidableEq, Repr

/-- `yy_values::MetricId`: the published name and the location of the sample. -/
structure MetricId where
  name : String
  location : String := ""
deriving DecidableEq, Repr

/-- `yy_mqtt::TopicLevelsView`: the levels of a topic. -/
abbrev TopicLevelsView := List String

/-- `yy_values::Labels`: label values by label name. -/
abbrev Labels := Finmap fun _ : String => String

namespace Labels

/-- `g_label_topic`. -/
def topic : String := "topic"

/-- `g_label_location`. -/
def location : String := "location"

/-- `clear(ClearAction::Keep)`: no label remains, whatever was there. -/
def clear (_ : Labels) : Labels := ∅

/-- `set_label`. -/
def setLabel (labels : Labels) (label value : String) : Labels := labels.insert label value

/-- `get_label`: the value of a label, empty when it is not set. -/
def getLabel (labels : Labels) (label : String) : String := (labels.lookup label).getD ""

end Labels

/-- `yy_prometheus::MetricData`: one sample with everything its text is written from. -/
structure MetricData where
  id : MetricId
  labels : Labels
  help : String
  metricType : MetricType
  metricUnit : MetricUnit
  metricFormat : MetricFormatFn := .noFormat
  value : String := ""
  valueType : ValueType := .unknown
  timestamp : ℤ := 0
deriving DecidableEq

/-- The default record `MetricData{}`, whose help text is empty. -/
instance : Inhabited MetricData := ⟨⟨⟨"", ""⟩, ∅, "", .none, .none, .noFormat, "", .unknown, 0⟩⟩

/-- What the header block of a metric family announces. -/
structure HeaderKey where
  name : String
  metricType : MetricType
  metricUnit : MetricUnit
  help : String
deriving DecidableEq, Repr

/-- The header data of a record. -/
def MetricData.headerKey (data : MetricData) : HeaderKey :=
  ⟨data.id.name, data.metricType, data.metricUnit, data.help⟩

/-- `yy_values::LabelAction`: from the labels it reads, the topic levels and the labels it
writes, the labels after it. -/
structure LabelAction where
  apply : Labels → TopicLevelsView → Labels → Labels

/-- `yy_values::ValueAction`: rewrites the value of a record, never what its header announces. -/
structure ValueAction where
  apply : MetricData → ValueType → MetricData
  headerKey_apply : ∀ data valueType, (apply data valueType).headerKey = data.headerKey

/-- A `switch` value action: the value a mapping gives, or the default where none does. -/
def ValueAction.switch (mappings : List (String × String)) (default : String) : ValueAction where
  apply := fun data _ => { data with value := (mappings.lookup data.value).getD default }
  headerKey_apply := fun _ _ => rfl

/-- Any sequence of value actions leaves the header data alone. -/
theorem headerKey_foldl_valueActions (actions : List ValueAction) (valueType : ValueType)
    (data : MetricData) :
    (actions.foldl (fun data action => action.apply data valueType) data).headerKey =
      data.headerKey := by
  induction actions generalizing data with
  | nil => rfl
  | cons action actions ih => rw [List.foldl_cons, ih, action.headerKey_apply]

end MqttBridge
