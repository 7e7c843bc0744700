import Mathlib.Algebra.GroupWithZero.Nat
import MqttBridge.ConfigureHandlers

/-!
# What a json handler captures

The properties a json handler lists are read off its node as pairs of property and pointer. A
pair is usable when neither is empty, and only the first usable pair of a property counts. The
loop of `configure_json_handler` attaches the metrics with that property to its pointer; the
invariant says so for the items handled so far, and that the property and pointer left over
from the last item are unusable or have been handled.
-/

namespace MqttBridge

/-- A property listed by a json handler, and the pointer its values are found at. -/
structure JsonProperty where
  property : String
  pointer : String
deriving DecidableEq, Repr

/-- Neither the property nor the pointer is empty. -/
def JsonProperty.Usable (listed : JsonProperty) : Prop :=
  listed.property ≠ "" ∧ listed.pointer ≠ ""

instance (listed : JsonProperty) : Decidable listed.Usable := inferInstanceAs (Decidable (_ ∧ _))

/-- The pair a scalar item of a sequence lists: the pointer is made from the property. -/
def JsonProperty.ofItem (platform : ConfigPlatform) : PropertyItem → Option JsonProperty
  | .scalar text =>
    some ⟨platform.trim text, platform.jsonPointerTrim ("/" ++ platform.trim text)⟩
  | .other => none

/-- The pair an entry of a map lists. -/
def JsonProperty.ofEntry (platform : ConfigPlatform) (entry : String × String) : JsonProperty :=
  ⟨platform.trim entry.2, platform.jsonPointerTrim (platform.trim entry.1)⟩

/-- The pairs a node lists, in order. -/
def PropertiesNode.listed (platform : ConfigPlatform) : PropertiesNode → List JsonProperty
  | none => []
  | sequence items => items.filterMap (JsonProperty.ofItem platform)
  | map entries => entries.map (JsonProperty.ofEntry platform)

/-- The first usable pair of each property, in order. -/
def firstUsable (listed : List JsonProperty) : List JsonProperty :=
  firstBy JsonProperty.property (listed.filter JsonProperty.Usable)

/-- The first usable pairs of a node for whose pointer the builder has a place. -/
def attachable (platform : ConfigPlatform) (listed : List JsonProperty) : List JsonProperty :=
  (firstUsable listed).filter fun p => platform.acceptsPointer p.pointer

/-- The metrics of a list with a property, in order. -/
def metricsWith (list : List MetricPtr) (property : String) : List MetricRef :=
  list.reduceOption.filter fun ref => ref.metric.property = property

/-- The metrics of a list each pair attaches to its pointer. -/
def attachments (list : List MetricPtr) (pairs : List JsonProperty) :
    List (String × List MetricRef) :=
  pairs.map fun p => (p.pointer, metricsWith list p.property)

/-- A list after the metrics with some properties were moved out. -/
def withoutProperties (list : List MetricPtr) (properties : List String) : List MetricPtr :=
  list.map fun ptr => ptr.filter fun ref => ref.metric.property ∉ properties

section Lists

variable (list : List MetricPtr) (ref : MetricRef) (property : String) (properties : List String)

@[simp] theorem metricsWith_nil : metricsWith [] property = [] := rfl

@[simp] theorem metricsWith_cons_none :
    metricsWith (none :: list) property = metricsWith list property := rfl

@[simp] theorem metricsWith_cons_some : metricsWith (some ref :: list) property =
    if ref.metric.property = property then ref :: metricsWith list property
    else metricsWith list property := by
  simp [metricsWith, List.filter_cons]

@[simp] theorem withoutProperties_nil : withoutProperties [] properties = [] := rfl

@[simp] theorem withoutProperties_cons_none :
    withoutProperties (none :: list) properties = none :: withoutProperties list properties := rfl

@[simp] theorem withoutProperties_cons_some :
    withoutProperties (some ref :: list) properties =
      (if ref.metric.property ∈ properties then none else some ref) ::
        withoutProperties list properties := by
  simp [withoutProperties, Option.filter]

/-- Moving nothing out changes nothing. -/
@[simp] theorem withoutProperties_nil_right : withoutProperties list [] = list := by
  induction list with
  | nil => rfl
  | cons ptr list ih => cases ptr <;> simp [ih]

/-- Moving out the metrics with a property, as a function of the list. -/
theorem moveMatching_eq :
    moveMatching property list =
      (withoutProperties list [property], metricsWith list property) := by
  induction list with
  | nil => rfl
  | cons ptr list ih =>
    cases ptr with
    | none => simp [moveMatching, ih]
    | some ref => by_cases h : ref.metric.property = property <;> simp [moveMatching, ih, h]

/-- Moving out further properties. -/
theorem withoutProperties_withoutProperties (more : List String) :
    withoutProperties (withoutProperties list properties) more =
      withoutProperties list (properties ++ more) := by
  induction list with
  | nil => rfl
  | cons ptr list ih =>
    cases ptr with
    | none => simp [ih]
    | some ref => by_cases h : ref.metric.property ∈ properties <;> simp [ih, h]

/-- Metrics with another property are still there after some properties were moved out. -/
theorem metricsWith_withoutProperties (h : property ∉ properties) :
    metricsWith (withoutProperties list properties) property = metricsWith list property := by
  induction list with
  | nil => rfl
  | cons ptr list ih =>
    cases ptr with
    | none => simpa using ih
    | some ref =>
      by_cases hmem : ref.metric.property ∈ properties
      · have hne : ref.metric.property ≠ property := fun he => h (he ▸ hmem)
        simpa [hmem, hne] using ih
      · simp [hmem, ih]

end Lists

/-- The number of metrics some batches attach. -/
def batchTotal (batches : List (String × List MetricRef)) : ℕ :=
  (batches.map fun batch => batch.2.length).sum

/-- What the loop has attached after the listed pairs of some items, against the metrics map it
started from. -/
structure JsonBuild.Attached (platform : ConfigPlatform) (id : String) (metrics : MetricsMap)
    (listed : List JsonProperty) (build : JsonBuild) : Prop where
  properties : ∀ property, property ∈ build.properties ↔
    property ∈ (listed.filter JsonProperty.Usable).map JsonProperty.property
  builder : ∀ list, metrics.lookup id = some list →
    build.builder = collect (attachments list (attachable platform listed))
  metricsCount : build.metricsCount =
    batchTotal (attachments ((metrics.lookup id).getD []) (attachable platform listed))
  metrics : ∀ id', build.metrics.lookup id' =
    if id' = id then (metrics.lookup id).map fun list =>
      withoutProperties list ((attachable platform listed).map JsonProperty.property)
    else metrics.lookup id'

/-- The current pair is unusable or its property has been handled: reusing it is harmless. -/
def JsonBuild.Stale (build : JsonBuild) : Prop :=
  ¬(JsonProperty.mk build.property build.jsonPointer).Usable ∨ build.property ∈ build.properties

/-- One more batch adds its metrics to the total. -/
theorem batchTotal_concat (batches : List (String × List MetricRef))
    (batch : String × List MetricRef) :
    batchTotal (batches ++ [batch]) = batchTotal batches + batch.2.length := by
  simp [batchTotal]

section Attachable

variable (platform : ConfigPlatform) (listed : List JsonProperty) (p : JsonProperty)

/-- Attached properties are usable listed ones. -/
theorem mem_usable_of_mem_attachable (property : String)
    (h : property ∈ (attachable platform listed).map JsonProperty.property) :
    property ∈ (listed.filter JsonProperty.Usable).map JsonProperty.property := by
  obtain ⟨q, hq, rfl⟩ := List.mem_map.mp h
  exact List.mem_map_of_mem (mem_of_mem_firstBy _ _ _ (List.mem_filter.mp hq).1)

/-- An unusable pair attaches nothing. -/
theorem attachable_concat_unusable (h : ¬p.Usable) :
    attachable platform (listed ++ [p]) = attachable platform listed := by
  simp [attachable, firstUsable, List.filter_append, h]

/-- Without metrics nothing is attached. -/
theorem batchTotal_attachments_nil (pairs : List JsonProperty) :
    batchTotal (attachments [] pairs) = 0 := by
  induction pairs with
  | nil => rfl
  | cons p pairs ih => simpa [batchTotal, attachments] using ih

/-- A further pair of a property attaches nothing. -/
theorem attachable_concat_seen (husable : p.Usable)
    (h : p.property ∈ (listed.filter JsonProperty.Usable).map JsonProperty.property) :
    attachable platform (listed ++ [p]) = attachable platform listed := by
  have hfilter : (listed ++ [p]).filter JsonProperty.Usable =
      listed.filter JsonProperty.Usable ++ [p] := by simp [List.filter_append, husable]
  rw [attachable, firstUsable, hfilter, firstBy_concat_of_mem _ _ _ h]
  rfl

/-- The first usable pair of a property is attached if its pointer is accepted. -/
theorem attachable_concat_new (husable : p.Usable)
    (h : p.property ∉ (listed.filter JsonProperty.Usable).map JsonProperty.property) :
    attachable platform (listed ++ [p]) = attachable platform listed ++
      if platform.acceptsPointer p.pointer then [p] else [] := by
  have hfilter : (listed ++ [p]).filter JsonProperty.Usable =
      listed.filter JsonProperty.Usable ++ [p] := by simp [List.filter_append, husable]
  rw [attachable, firstUsable, hfilter, firstBy_concat_of_notMem _ _ _ h, List.filter_append]
  by_cases haccepts : platform.acceptsPointer p.pointer = true
  · simp [attachable, firstUsable, haccepts]
  · simp [attachable, firstUsable, haccepts]

end Attachable

section Loop

variable {platform : ConfigPlatform} {id : String} {metrics : MetricsMap}
  {listed : List JsonProperty} {build : JsonBuild}

namespace JsonBuild

/-- A stale pair changes nothing. -/
theorem addProperty_of_stale (h : build.Stale) : build.addProperty platform id = build := by
  unfold addProperty
  split
  · rename_i hnonempty
    have husable : (JsonProperty.mk build.property build.jsonPointer).Usable := by
      simpa [JsonProperty.Usable, and_comm] using hnonempty
    have hseen := h.resolve_left (not_not_intro husable)
    simp [hseen]
  · rfl

/-- A usable pair of a new property is handled. -/
theorem addProperty_of_new (husable : (JsonProperty.mk build.property build.jsonPointer).Usable)
    (hnew : build.property ∉ build.properties) :
    build.addProperty platform id =
      { build with properties := (build.properties.emplace build.property).1 }.doAddProperty
        platform id := by
  obtain ⟨hproperty, hpointer⟩ := husable
  have hnonempty : (!build.jsonPointer.isEmpty && !build.property.isEmpty) = true := by
    simpa using ⟨hpointer, hproperty⟩
  simp [addProperty, hnonempty, hnew]

/-- Before the first item nothing has been attached. -/
theorem attached_start : (start metrics).Attached platform id metrics [] where
  properties := by simp [start]
  builder := fun _ _ => rfl
  metricsCount := rfl
  metrics := by
    intro id'
    by_cases h : id' = id
    · subst h
      cases hlookup : metrics.lookup id' <;> simp [start, attachable, firstUsable, hlookup]
    · simp [start, h]

/-- Before the first item the pair is empty. -/
theorem stale_start : (start metrics).Stale := Or.inl fun h => h.1 rfl

/-- The property being handled has not been attached before. -/
theorem Attached.unattached (h : build.Attached platform id metrics listed)
    (hnew : build.property ∉ build.properties) :
    build.property ∉ (attachable platform listed).map JsonProperty.property := fun hmem =>
  hnew ((h.properties _).mpr (mem_usable_of_mem_attachable platform listed _ hmem))

/-- The handled properties after one more pair with a usable new property. -/
theorem Attached.properties_new (h : build.Attached platform id metrics listed)
    (husable : (JsonProperty.mk build.property build.jsonPointer).Usable) (property : String) :
    property ∈ (build.properties.emplace build.property).1 ↔
      property ∈ ((listed ++ [(⟨build.property, build.jsonPointer⟩ : JsonProperty)]).filter
        JsonProperty.Usable).map JsonProperty.property := by
  rw [FlatSet.mem_emplace, h.properties]
  simp [List.filter_append, husable, or_comm]

/-- Handling a usable pair of a new property attaches the metrics with that property. -/
theorem Attached.addNew (h : build.Attached platform id metrics listed)
    (husable : (JsonProperty.mk build.property build.jsonPointer).Usable)
    (hnew : build.property ∉ build.properties) :
    (build.addProperty platform id).Attached platform id metrics
        (listed ++ [⟨build.property, build.jsonPointer⟩]) ∧
      (build.addProperty platform id).Stale := by
  have hattachable := attachable_concat_new platform listed
    ⟨build.property, build.jsonPointer⟩ husable (mt (h.properties build.property).mpr hnew)
  have hproperties := h.properties_new husable
  have hhandled : build.property ∈ (build.properties.emplace build.property).1 := by simp
  have hcurrent := h.metrics id
  have hcount := h.metricsCount
  rw [if_pos rfl] at hcurrent
  rw [addProperty_of_new husable hnew, doAddProperty]
  cases hlookup : metrics.lookup id with
  | none =>
    -- The handler's id has no metrics, so there is nothing to search.
    rw [hlookup, Option.map_none] at hcurrent
    rw [hlookup, Option.getD_none, batchTotal_attachments_nil] at hcount
    rw [hcurrent]
    refine ⟨⟨hproperties, fun list hlist => ?_, ?_, fun id' => ?_⟩, Or.inr hhandled⟩
    · rw [hlookup] at hlist
      cases hlist
    · rw [hlookup, Option.getD_none, batchTotal_attachments_nil]
      exact hcount
    · rw [h.metrics id', hlookup, Option.map_none, Option.map_none]
  | some list =>
    rw [hlookup, Option.map_some] at hcurrent
    rw [hlookup, Option.getD_some] at hcount
    rw [hcurrent, addPointer]
    by_cases haccepts : platform.acceptsPointer build.jsonPointer = true
    · rw [if_pos haccepts] at hattachable ⊢
      dsimp only
      rw [moveMatching_eq, metricsWith_withoutProperties _ _ _ (h.unattached hnew),
        withoutProperties_withoutProperties]
      refine ⟨⟨hproperties, fun list' hlist => ?_, ?_, fun id' => ?_⟩, Or.inr hhandled⟩
      · rw [hlookup] at hlist
        cases hlist
        rw [hattachable, attachments, List.map_append, List.map_singleton, collect_concat,
          h.builder list hlookup]
        rfl
      · rw [hlookup, Option.getD_some, hattachable, attachments, List.map_append,
          List.map_singleton, batchTotal_concat, hcount]
        rfl
      · rw [FlatMap.lookup_update, hcurrent, h.metrics id', hlookup, hattachable]
        by_cases hid : id' = id <;> simp [hid]
    · -- The builder has no place for the pointer; the property still counts as handled.
      rw [if_neg haccepts, List.append_nil] at hattachable
      rw [if_neg haccepts]
      refine ⟨⟨hproperties, fun list' hlist => ?_, ?_, fun id' => ?_⟩, Or.inr hhandled⟩
      · rw [hattachable]
        exact h.builder list' hlist
      · rw [hattachable, hlookup]
        exact hcount
      · rw [hattachable]
        exact h.metrics id'

/-- A pair that adds no attachable one leaves what was attached as it is. -/
theorem Attached.addStale (h : build.Attached platform id metrics listed) (p : JsonProperty)
    (hattachable : attachable platform (listed ++ [p]) = attachable platform listed)
    (hp : p.Usable → p.property ∈ build.properties) :
    build.Attached platform id metrics (listed ++ [p]) where
  properties := by
    intro property
    rw [h.properties, List.filter_append, List.map_append, List.mem_append]
    refine ⟨Or.inl, fun hmem => hmem.elim (fun hold => hold) fun hlast => ?_⟩
    obtain ⟨q, hq, rfl⟩ := List.mem_map.mp hlast
    obtain ⟨hq, husable⟩ := List.mem_filter.mp hq
    rw [List.mem_singleton] at hq
    subst hq
    exact (h.properties _).mp (hp (of_decide_eq_true husable))
  builder := by rw [hattachable]; exact h.builder
  metricsCount := by rw [hattachable]; exact h.metricsCount
  metrics := by rw [hattachable]; exact h.metrics

/-- One turn of the loop for a listed pair, usable or not, new or not. -/
theorem Attached.addPair (h : build.Attached platform id metrics listed) (p : JsonProperty) :
    ({ build with property := p.property, jsonPointer := p.pointer }.addProperty platform
        id).Attached platform id metrics (listed ++ [p]) ∧
      ({ build with property := p.property, jsonPointer := p.pointer }.addProperty platform
        id).Stale := by
  have hset : ({ build with property := p.property, jsonPointer := p.pointer } :
      JsonBuild).Attached platform id metrics listed :=
    ⟨h.properties, h.builder, h.metricsCount, h.metrics⟩
  by_cases husable : p.Usable
  · by_cases hseen : p.property ∈ build.properties
    · rw [addProperty_of_stale (Or.inr hseen)]
      have hlisted := (h.properties p.property).mp hseen
      exact ⟨hset.addStale p (attachable_concat_seen platform listed p husable hlisted)
        fun _ => hseen, Or.inr hseen⟩
    · exact hset.addNew husable hseen
  · rw [addProperty_of_stale (Or.inl husable)]
    exact ⟨hset.addStale p (attachable_concat_unusable platform listed p husable)
      fun h => absurd h husable, Or.inl husable⟩

/-- The loop over a sequence attaches what the listed pairs of its items attach. An item that is
not a scalar meets a stale pair and does nothing. -/
theorem attached_items (platform : ConfigPlatform) (id : String) (metrics : MetricsMap)
    (items : List PropertyItem) :
    (items.foldl (addItem platform id) (start metrics)).Attached platform id metrics
        (items.filterMap (JsonProperty.ofItem platform)) ∧
      (items.foldl (addItem platform id) (start metrics)).Stale := by
  induction items using List.reverseRecOn with
  | nil => exact ⟨attached_start, stale_start⟩
  | append_singleton items item ih =>
    obtain ⟨hattached, hstale⟩ := ih
    rw [List.foldl_append, List.filterMap_append]
    cases item with
    | scalar text =>
      exact hattached.addPair ⟨platform.trim text,
        platform.jsonPointerTrim ("/" ++ platform.trim text)⟩
    | other =>
      have hlisted : [PropertyItem.other].filterMap (JsonProperty.ofItem platform) = [] := rfl
      have hsame : (items.foldl (addItem platform id) (start metrics)).addItem platform id .other =
          items.foldl (addItem platform id) (start metrics) := addProperty_of_stale hstale
      rw [hlisted, List.append_nil, List.foldl_cons, List.foldl_nil, hsame]
      exact ⟨hattached, hstale⟩

/-- The loop over a map attaches what its entries list. -/
theorem attached_entries (platform : ConfigPlatform) (id : String) (metrics : MetricsMap)
    (entries : List (String × String)) :
    (entries.foldl (addEntry platform id) (start metrics)).Attached platform id metrics
        (entries.map (JsonProperty.ofEntry platform)) := by
  induction entries using List.reverseRecOn with
  | nil => exact attached_start
  | append_singleton entries entry ih =>
    rw [List.foldl_append, List.map_append]
    exact (ih.addPair (JsonProperty.ofEntry platform entry)).1

end JsonBuild

end Loop

/-- A node without items lists nothing. -/
theorem listed_of_size_eq_zero (platform : ConfigPlatform) (node : PropertiesNode)
    (hsize : node.size = 0) : node.listed platform = [] := by
  cases node with
  | none => rfl
  | sequence items =>
    have hitems : items = [] := List.length_eq_zero_iff.mp hsize
    simp [hitems, PropertiesNode.listed]
  | map entries =>
    have hentries : entries = [] := List.length_eq_zero_iff.mp hsize
    simp [hentries, PropertiesNode.listed]

/-- The handler made after the loop, as a function of what is attached. -/
theorem JsonBuild.Attached.handler_eq {platform : ConfigPlatform} {id : String}
    {metrics : MetricsMap} {listed : List JsonProperty} {build : JsonBuild}
    (h : build.Attached platform id metrics listed) :
    let batches := attachments ((metrics.lookup id).getD []) (attachable platform listed)
    (if build.metricsCount > 0 then some (MqttHandler.json id build.builder build.metricsCount)
      else none) =
      if 0 < batchTotal batches then some (.json id (collect batches) (batchTotal batches))
      else none := by
  intro batches
  rw [h.metricsCount]
  split
  · rename_i hpositive
    cases hlookup : metrics.lookup id with
    | none =>
      rw [hlookup, Option.getD_none, batchTotal_attachments_nil] at hpositive
      exact absurd hpositive (Nat.lt_irrefl 0)
    | some list =>
      rw [h.builder list hlookup]
      simp [batches, hlookup]
  · rfl

/-- `configure_json_handler` as a function of the listed pairs and the original list: the handler
of all attachments, if there are any, and the list without the attached metrics. -/
theorem configureJsonHandler_spec (platform : ConfigPlatform) (id : String) (node : PropertiesNode)
    (metrics : MetricsMap) :
    let pairs := attachable platform (node.listed platform)
    let batches := attachments ((metrics.lookup id).getD []) pairs
    (configureJsonHandler platform id node metrics).1 =
        (if 0 < batchTotal batches then some (.json id (collect batches) (batchTotal batches))
        else none) ∧
      ∀ id', (configureJsonHandler platform id node metrics).2.lookup id' =
        if id' = id then (metrics.lookup id).map fun list =>
          withoutProperties list (pairs.map JsonProperty.property)
        else metrics.lookup id' := by
  intro pairs batches
  by_cases hsize : node.size ≠ 0
  · cases node with
    | none => exact absurd rfl hsize
    | sequence items =>
      have h := (JsonBuild.attached_items platform id metrics items).1
      rw [configureJsonHandler, if_pos hsize]
      exact ⟨h.handler_eq, h.metrics⟩
    | map entries =>
      have h := JsonBuild.attached_entries platform id metrics entries
      rw [configureJsonHandler, if_pos hsize]
      exact ⟨h.handler_eq, h.metrics⟩
  · have hlisted := listed_of_size_eq_zero platform node (not_not.mp hsize)
    have h : (JsonBuild.start metrics).Attached platform id metrics (node.listed platform) :=
      hlisted ▸ JsonBuild.attached_start
    unfold configureJsonHandler
    rw [if_neg hsize]
    exact ⟨h.handler_eq, h.metrics⟩

/-- When the builder has a place for every non-empty pointer, all first usable pairs attach. -/
theorem attachable_eq_firstUsable {platform : ConfigPlatform}
    (haccepts : ∀ pointer, pointer ≠ "" → platform.acceptsPointer pointer = true)
    (listed : List JsonProperty) : attachable platform listed = firstUsable listed := by
  refine List.filter_eq_self.mpr fun p hp => haccepts p.pointer ?_
  have husable := (List.mem_filter.mp (mem_of_mem_firstBy _ _ p hp)).2
  exact (of_decide_eq_true husable).2

/-- What the pairs with one pointer attach to it. -/
theorem batchesOf_attachments (list : List MetricPtr) (pairs : List JsonProperty)
    (pointer : String) :
    batchesOf (attachments list pairs) pointer =
      (pairs.filter fun p => p.pointer = pointer).flatMap fun p =>
        metricsWith list p.property := by
  simp [batchesOf, attachments, List.filter_map, Function.comp_def, List.flatMap_map]

/-- Pairs of different properties attach exactly the metrics with one of the properties. -/
theorem flatMap_attachments_perm (list : List MetricPtr) (pairs : List JsonProperty)
    (hnodup : (pairs.map JsonProperty.property).Nodup) :
    ((attachments list pairs).flatMap Prod.snd).Perm
      (list.reduceOption.filter fun ref =>
        ref.metric.property ∈ pairs.map JsonProperty.property) := by
  have hperm := flatMap_filter_perm (fun ref : MetricRef => ref.metric.property)
    list.reduceOption (pairs.map JsonProperty.property) hnodup
  simpa only [attachments, metricsWith, List.flatMap_map] using hperm

/-- Exactly the list's metrics with one of the properties are attached. -/
theorem mem_flatMap_attachments (list : List MetricPtr) (pairs : List JsonProperty)
    (ref : MetricRef) :
    ref ∈ (attachments list pairs).flatMap Prod.snd ↔
      some ref ∈ list ∧ ref.metric.property ∈ pairs.map JsonProperty.property := by
  simp only [attachments, metricsWith, List.flatMap_map, List.mem_flatMap, List.mem_filter,
    List.reduceOption_mem_iff, decide_eq_true_eq, List.mem_map]
  constructor
  · intro hattached
    obtain ⟨p, hp, hmem, hproperty⟩ := hattached
    exact ⟨hmem, p, hp, hproperty.symm⟩
  · intro hlisted
    obtain ⟨hmem, p, hp, hproperty⟩ := hlisted
    exact ⟨p, hp, hmem, hproperty.symm⟩

/-- The total of some batches is the number of their metrics. -/
theorem batchTotal_eq_length (batches : List (String × List MetricRef)) :
    batchTotal batches = (batches.flatMap Prod.snd).length := by
  rw [batchTotal, List.length_flatMap]

/-- Pairs that attach nothing leave the list as it is. -/
theorem withoutProperties_eq_self (list : List MetricPtr) (pairs : List JsonProperty)
    (h : batchTotal (attachments list pairs) = 0) :
    withoutProperties list (pairs.map JsonProperty.property) = list := by
  rw [batchTotal_eq_length, List.length_eq_zero_iff] at h
  refine (List.map_congr_left fun ptr hptr => ?_).trans (List.map_id list)
  cases ptr with
  | none => rfl
  | some ref =>
    have hmem : ref.metric.property ∉ pairs.map JsonProperty.property := fun hproperty => by
      have hattached := (mem_flatMap_attachments list pairs ref).mpr ⟨hptr, hproperty⟩
      rw [h] at hattached
      exact absurd hattached List.not_mem_nil
    simp only [Option.filter, hmem, not_false_eq_true, decide_true, if_true]
    rfl

/-- What a json handler captures, for any node and any list. The first usable pair of a property
decides its pointer; each non-null metric with such a property is attached once, in the order of
the list within its property and in the order of the pairs under a shared pointer; every other
entry stays in the list, and other lists are untouched. The metric count is the number of
attached metrics, and a handler is returned exactly when it is positive. Items that are not
scalars have no effect. -/
theorem configureJsonHandler_captures (platform : ConfigPlatform)
    (haccepts : ∀ pointer, pointer ≠ "" → platform.acceptsPointer pointer = true) (id : String)
    (node : PropertiesNode) (metrics : MetricsMap) :
    let result := configureJsonHandler platform id node metrics
    let list := (metrics.lookup id).getD []
    let usable := (node.listed platform).filter JsonProperty.Usable
    let first := firstUsable (node.listed platform)
    let captured := list.reduceOption.filter fun ref =>
      ref.metric.property ∈ first.map JsonProperty.property
    (∀ p, p ∈ first ↔ (usable.find? fun q => q.property = p.property) = some p) ∧
      (first.map JsonProperty.property).Nodup ∧
      (∀ handler, result.1 = some handler → ∃ pointers metricCount,
        handler = .json id pointers metricCount ∧
          (pointers.map Prod.fst).Nodup ∧
          (∀ pointer, (pointers.lookup pointer).getD [] =
            (first.filter fun p => p.pointer = pointer).flatMap fun p =>
              list.reduceOption.filter fun ref => ref.metric.property = p.property) ∧
          (pointers.flatMap Prod.snd).Perm captured ∧
          metricCount = (pointers.map fun entry => entry.2.length).sum) ∧
      (result.1.isSome = true ↔ 0 < captured.length) ∧
      (∀ id', result.2.lookup id' =
        if id' = id then (metrics.lookup id).map fun list => list.map fun ptr =>
          ptr.filter fun ref => ref.metric.property ∉ first.map JsonProperty.property
        else metrics.lookup id') ∧
      ∀ items, node = .sequence items →
        configureJsonHandler platform id
          (.sequence (items.filter fun item => item ≠ .other)) metrics = result := by
  intro result list usable first captured
  have hspec := configureJsonHandler_spec platform id node metrics
  rw [attachable_eq_firstUsable haccepts] at hspec
  obtain ⟨hhandler, hmetrics⟩ := hspec
  have hnodup : (first.map JsonProperty.property).Nodup := nodup_map_key_firstBy _ _
  have hperm := flatMap_attachments_perm list first hnodup
  have hcollect := flatMap_collect_perm (attachments list first)
  have htotal : batchTotal (attachments list first) = captured.length := by
    rw [batchTotal_eq_length, hperm.length_eq]
  refine ⟨fun p => mem_firstBy_iff _ _ p, hnodup, fun handler hresult => ?_, ?_, hmetrics,
    fun items hitems => ?_⟩
  · refine ⟨collect (attachments list first), batchTotal (attachments list first), ?_,
      nodup_map_fst_collect _, fun pointer => ?_, hcollect.trans hperm, ?_⟩
    · have hsome := hhandler.symm.trans hresult
      split at hsome
      · exact (Option.some.inj hsome).symm
      · cases hsome
    · rw [lookup_collect, batchesOf_attachments]
      rfl
    · have hlength := hcollect.length_eq
      rw [← batchTotal_eq_length, ← batchTotal_eq_length] at hlength
      exact hlength.symm
  · rw [← htotal]
    change (configureJsonHandler platform id node metrics).1.isSome = true ↔ _
    rw [hhandler]
    split
    · rename_i hpositive
      exact iff_of_true rfl hpositive
    · rename_i hzero
      exact iff_of_false Bool.false_ne_true hzero
  · have hlisted : (PropertiesNode.sequence (items.filter fun item => item ≠ .other)).listed
        platform = node.listed platform := by
      rw [hitems, PropertiesNode.listed, PropertiesNode.listed, List.filterMap_filter]
      refine List.filterMap_congr fun item _ => ?_
      cases item <;> simp [JsonProperty.ofItem]
    have hscalars := configureJsonHandler_spec platform id
      (.sequence (items.filter fun item => item ≠ .other)) metrics
    rw [hlisted, attachable_eq_firstUsable haccepts] at hscalars
    refine Prod.ext (hscalars.1.trans hhandler.symm) (Finmap.ext_lookup fun id' => ?_)
    rw [hscalars.2 id', hmetrics id']

/-- A sequence with an item that is not a scalar and a repeated property, over a list with one
null pointer: the handler of the remaining metric is returned. -/
theorem configureJsonHandler_captures_temperature :
    (configureJsonHandler .reference "sensor"
      (.sequence [.scalar " temperature ", .other, .scalar "temperature"])
      (Finmap.singleton "sensor" [none, some ⟨0, .create ⟨"Temperature", ""⟩ "temperature" ⟨2⟩
        .none .off [] [] []⟩])).1.isSome = true :=
  (configureJsonHandler_captures .reference
    (fun pointer h => by simpa [ConfigPlatform.reference] using h) "sensor"
    (.sequence [.scalar " temperature ", .other, .scalar "temperature"])
    (Finmap.singleton "sensor" [none, some ⟨0, .create ⟨"Temperature", ""⟩ "temperature" ⟨2⟩
      .none .off [] [] []⟩])).2.2.2.1.mpr (by decide)

end MqttBridge
