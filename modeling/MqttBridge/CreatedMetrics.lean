import MqttBridge.ConfigureMetrics
import MqttBridge.Library.FirstOccurrence

/-!
# What the metrics section creates

The pass looks at the first handler entry of each trimmed id in a metrics entry and makes a metric
for it if its property is not empty. The metrics made, in order and with the ids they are listed
under, are a log that determines the map. An id is marked as handled before the property is looked
at, so an entry without a property also keeps a later entry of its id from being used.
-/

namespace MqttBridge

/-- The handler entries of a metrics entry that are looked at: the first one of each id. -/
def MetricNode.firstEntries (platform : ConfigPlatform) (node : MetricNode) :
    List MetricHandlerNode :=
  firstBy (fun entry => platform.trim entry.handlerId) node.handlers

/-- The metric made for a handler entry that is looked at. -/
def MetricNode.make (platform : ConfigPlatform) (defaultTimestamp : MetricTimestamp)
    (node : MetricNode) (entry : MetricHandlerNode) : Option Metric :=
  match entry.property with
  | none => none
  | some property =>
    if property.isEmpty then none
    else some (node.create platform defaultTimestamp entry property)

/-- All handler entries that are looked at, each with its metrics entry. -/
def lookedAt (platform : ConfigPlatform) (nodes : List MetricNode) :
    List (MetricNode × MetricHandlerNode) :=
  nodes.flatMap fun node => (node.firstEntries platform).map fun entry => (node, entry)

/-- The metrics made for some handler entries, with the ids they are listed under. -/
def madeFor (platform : ConfigPlatform) (defaultTimestamp : MetricTimestamp)
    (entries : List (MetricNode × MetricHandlerNode)) : List (String × Metric) :=
  entries.filterMap fun pair => (pair.1.make platform defaultTimestamp pair.2).map fun metric =>
    (platform.trim pair.2.handlerId, metric)

/-- The log of the pass. -/
def createdMetrics (platform : ConfigPlatform) (defaultTimestamp : MetricTimestamp)
    (nodes : List MetricNode) : List (String × Metric) :=
  madeFor platform defaultTimestamp (lookedAt platform nodes)

/-- The metric objects of a log: their addresses count them. -/
def addressed (log : List (String × Metric)) : List (String × MetricPtr) :=
  log.zipIdx.map fun entry => (entry.1.1, some ⟨entry.2, entry.1.2⟩)

/-- The map under construction after a log. -/
def MetricsBuild.ofLog (log : List (String × Metric)) : MetricsBuild :=
  ⟨log.length, FlatMap.ofLog (addressed log)⟩

/-- Adding a metric object extends the log. -/
theorem MetricsBuild.add_ofLog (log : List (String × Metric)) (handlerId : String)
    (metric : Metric) :
    (ofLog log).add handlerId metric = ofLog (log ++ [(handlerId, metric)]) := by
  have haddressed : addressed (log ++ [(handlerId, metric)]) =
      addressed log ++ [(handlerId, some ⟨log.length, metric⟩)] := by
    simp [addressed, List.zipIdx_append]
  rw [ofLog, ofLog, haddressed, FlatMap.ofLog_concat, List.length_append]
  rfl

/-- The metric objects listed under an id, without their addresses. -/
theorem MetricsBuild.metrics_ofLog (log : List (String × Metric)) (id : String) :
    ((ofLog log).metrics.lookup id).map (List.map (Option.map MetricRef.metric)) =
      if (FlatMap.loggedUnder log id).isEmpty then none
      else some ((FlatMap.loggedUnder log id).map some) := by
  have hmetrics : (FlatMap.loggedUnder (addressed log) id).map (Option.map MetricRef.metric) =
      (FlatMap.loggedUnder log id).map some := by
    have hfilter : (log.filter fun entry => entry.1 = id) =
        (log.zipIdx.filter fun entry => entry.1.1 = id).map Prod.fst := by
      calc (log.filter fun entry => entry.1 = id)
          = (log.zipIdx.map Prod.fst).filter fun entry => entry.1 = id := by
            rw [List.zipIdx_map_fst]
        _ = _ := List.filter_map
    rw [FlatMap.loggedUnder, FlatMap.loggedUnder, hfilter]
    simp [addressed, List.filter_map, Function.comp_def]
  have hempty : (FlatMap.loggedUnder (addressed log) id).isEmpty =
      (FlatMap.loggedUnder log id).isEmpty := by
    simpa using congrArg List.isEmpty hmetrics
  rw [ofLog, FlatMap.lookup_ofLog, ← hmetrics, hempty]
  split <;> rfl

/-- The object with an address is the one the log has there, listed under its id. -/
theorem MetricsBuild.mem_ofLog (log : List (String × Metric)) (id : String) (ref : MetricRef) :
    some ref ∈ ((ofLog log).metrics.lookup id).getD [] ↔
      log[ref.addr]? = some (id, ref.metric) := by
  rw [ofLog, FlatMap.getD_lookup_ofLog, FlatMap.loggedUnder, addressed, List.filter_map,
    List.map_map, List.mem_map]
  constructor
  · intro hmem
    obtain ⟨entry, hentry, heq⟩ := hmem
    obtain ⟨hentry, hid⟩ := List.mem_filter.mp hentry
    cases Option.some.inj heq
    have hid : entry.1.1 = id := by simpa using hid
    rw [← hid]
    exact List.mem_zipIdx_iff_getElem?.mp hentry
  · intro hentry
    refine ⟨((id, ref.metric), ref.addr), List.mem_filter.mpr ⟨?_, by simp⟩, rfl⟩
    exact List.mem_zipIdx_iff_getElem?.mpr hentry

/-- Changing every logged metric changes the metrics of the objects. -/
theorem MetricsBuild.lookup_ofLog_map (f : Metric → Metric) (log : List (String × Metric))
    (id' : String) :
    (ofLog (log.map (Prod.map id f))).metrics.lookup id' =
      ((ofLog log).metrics.lookup id').map
        (List.map (Option.map fun ref => ⟨ref.addr, f ref.metric⟩)) := by
  have haddressed : addressed (log.map (Prod.map id f)) =
      (addressed log).map (Prod.map id (Option.map fun ref => ⟨ref.addr, f ref.metric⟩)) := by
    simp [addressed, List.zipIdx_map]
  rw [ofLog, ofLog, haddressed]
  exact FlatMap.lookup_ofLog_map _ (addressed log) id'

/-- Different logs fill different maps. -/
theorem MetricsBuild.ofLog_injective {log log' : List (String × Metric)}
    (h : ∀ id, (ofLog log).metrics.lookup id = (ofLog log').metrics.lookup id) : log = log' := by
  apply List.ext_getElem?
  intro i
  apply Option.ext
  intro entry
  have hmem := mem_ofLog log entry.1 ⟨i, entry.2⟩
  rw [h entry.1, mem_ofLog log' entry.1 ⟨i, entry.2⟩] at hmem
  exact hmem.symm

section Pass

variable (platform : ConfigPlatform) (defaultTimestamp : MetricTimestamp)

/-- The metrics made for more entries come after those made before. -/
theorem madeFor_append (entries more : List (MetricNode × MetricHandlerNode)) :
    madeFor platform defaultTimestamp (entries ++ more) =
      madeFor platform defaultTimestamp entries ++ madeFor platform defaultTimestamp more :=
  List.filterMap_append ..

/-- At most one metric is made for an entry. -/
theorem madeFor_singleton (node : MetricNode) (entry : MetricHandlerNode) :
    madeFor platform defaultTimestamp [(node, entry)] =
      ((node.make platform defaultTimestamp entry).map fun metric =>
        (platform.trim entry.handlerId, metric)).toList := by
  unfold madeFor
  cases hmake : node.make platform defaultTimestamp entry <;> simp [hmake]

/-- What one handler entry adds to the log when it is the first of its id. -/
theorem MetricNode.addHandler_ofLog (node : MetricNode) (handled : FlatSet String)
    (log : List (String × Metric)) (entry : MetricHandlerNode)
    (hnew : platform.trim entry.handlerId ∉ handled) :
    node.addHandler platform defaultTimestamp (handled, .ofLog log) entry =
      ((handled.emplace (platform.trim entry.handlerId)).1,
        .ofLog (log ++ madeFor platform defaultTimestamp [(node, entry)])) := by
  have hinserted : (handled.emplace (platform.trim entry.handlerId)).2 = true := by simp [hnew]
  rw [madeFor_singleton]
  unfold addHandler make
  dsimp only
  rw [if_pos hinserted]
  cases entry.property with
  | none => simp
  | some property =>
    by_cases hempty : property = ""
    · simp [hempty]
    · simp [hempty, MetricsBuild.add_ofLog]

/-- A handler entry whose id was handled before does nothing. -/
theorem MetricNode.addHandler_of_mem (node : MetricNode) (state : FlatSet String × MetricsBuild)
    (entry : MetricHandlerNode) (hseen : platform.trim entry.handlerId ∈ state.1) :
    node.addHandler platform defaultTimestamp state entry = state := by
  simp [addHandler, hseen]

/-- The inner loop adds the metrics made for the first entry of each id. -/
theorem MetricNode.foldl_addHandler (node : MetricNode) (log : List (String × Metric))
    (entries : List MetricHandlerNode) :
    let state := entries.foldl (node.addHandler platform defaultTimestamp) (∅, .ofLog log)
    let first := firstBy (fun entry => platform.trim entry.handlerId) entries
    (∀ id, id ∈ state.1 ↔ id ∈ entries.map fun entry => platform.trim entry.handlerId) ∧
      state.2 = .ofLog (log ++ madeFor platform defaultTimestamp
        (first.map fun entry => (node, entry))) := by
  induction entries using List.reverseRecOn with
  | nil => exact ⟨fun id => by simp, by simp [madeFor]⟩
  | append_singleton entries entry ih =>
    obtain ⟨hhandled, hlog⟩ := ih
    dsimp only at hhandled hlog ⊢
    rw [List.foldl_append, List.foldl_cons, List.foldl_nil, List.map_append]
    generalize entries.foldl (node.addHandler platform defaultTimestamp) (∅, .ofLog log) = state
      at hhandled hlog ⊢
    obtain ⟨handled, build⟩ := state
    dsimp only at hhandled hlog
    subst hlog
    by_cases hseen : platform.trim entry.handlerId ∈ handled
    · rw [node.addHandler_of_mem platform defaultTimestamp _ entry hseen,
        firstBy_concat_of_mem _ _ _ ((hhandled _).mp hseen)]
      refine ⟨fun id => ?_, rfl⟩
      rw [List.mem_append, hhandled, List.map_singleton, List.mem_singleton]
      refine ⟨Or.inl, fun h => h.elim (fun hold => hold) fun hid => ?_⟩
      rw [hid]
      exact (hhandled _).mp hseen
    · rw [node.addHandler_ofLog platform defaultTimestamp handled _ entry hseen,
        firstBy_concat_of_notMem _ _ _ (mt (hhandled _).mpr hseen)]
      refine ⟨fun id => ?_, ?_⟩
      · rw [FlatSet.mem_emplace, hhandled, List.mem_append, List.map_singleton,
          List.mem_singleton, or_comm]
      · rw [List.map_append, List.map_singleton, madeFor_append, List.append_assoc]

/-- The map of the metrics section is the one its log fills. -/
theorem configurePrometheusMetrics_eq (nodes : Option (List MetricNode)) :
    configurePrometheusMetrics platform nodes defaultTimestamp =
      (MetricsBuild.ofLog (createdMetrics platform defaultTimestamp (nodes.getD []))).metrics := by
  have hbuild : ∀ nodes : List MetricNode,
      nodes.foldl (MetricsBuild.addNode platform defaultTimestamp) ⟨0, ∅⟩ =
        .ofLog (createdMetrics platform defaultTimestamp nodes) := by
    intro nodes
    induction nodes using List.reverseRecOn with
    | nil => rfl
    | append_singleton nodes node ih =>
      have hlookedAt : lookedAt platform (nodes ++ [node]) = lookedAt platform nodes ++
          (node.firstEntries platform).map fun entry => (node, entry) := by simp [lookedAt]
      rw [List.foldl_append, ih, List.foldl_cons, List.foldl_nil, MetricsBuild.addNode,
        (node.foldl_addHandler platform defaultTimestamp _ node.handlers).2, createdMetrics,
        createdMetrics, hlookedAt, madeFor_append]
      rfl
  rw [configurePrometheusMetrics, hbuild]

end Pass

/-- A handler entry with a property that is not empty. -/
def MetricHandlerNode.HasProperty (entry : MetricHandlerNode) : Prop := entry.property.getD "" ≠ ""

instance (entry : MetricHandlerNode) : Decidable entry.HasProperty :=
  inferInstanceAs (Decidable (_ ≠ _))

/-- The metric a metrics entry is to list under an id, made from its first usable handler entry
with that id. -/
def MetricNode.expected (platform : ConfigPlatform) (defaultTimestamp : MetricTimestamp)
    (node : MetricNode) (id : String) : Option Metric :=
  (node.handlers.find? fun entry => platform.trim entry.handlerId = id ∧ entry.HasProperty).map
    fun entry => node.described platform defaultTimestamp entry (entry.property.getD "")

/-- The map has, for each id, the list in section order of the metrics the entries are to list
under it, and no list for other ids. -/
def MetricsMap.ListsExpected (platform : ConfigPlatform) (defaultTimestamp : MetricTimestamp)
    (nodes : List MetricNode) (metrics : MetricsMap) : Prop :=
  ∀ id, let expected := nodes.filterMap fun node => node.expected platform defaultTimestamp id
    (metrics.lookup id).map (List.map (Option.map MetricRef.metric)) =
      if expected.isEmpty then none else some (expected.map some)

/-- The first handler entry of an id is usable if any is that the metrics entry has for the id. -/
def FirstDecides (platform : ConfigPlatform) (nodes : List MetricNode) : Prop :=
  ∀ node ∈ nodes, ∀ first ∈ node.firstEntries platform, ∀ entry ∈ node.handlers,
    platform.trim entry.handlerId = platform.trim first.handlerId →
      entry.HasProperty → first.HasProperty

section Listed

variable (platform : ConfigPlatform) (defaultTimestamp : MetricTimestamp)

/-- A metric is made for usable entries only. -/
theorem MetricNode.make_eq (node : MetricNode) (entry : MetricHandlerNode) :
    node.make platform defaultTimestamp entry =
      if entry.HasProperty then
        some (node.described platform defaultTimestamp entry (entry.property.getD ""))
      else none := by
  unfold make
  simp only [node.create_eq]
  cases hproperty : entry.property with
  | none => rw [if_neg (by simp [MetricHandlerNode.HasProperty, hproperty])]
  | some property =>
    by_cases hempty : property = "" <;>
      simp [MetricHandlerNode.HasProperty, hproperty, hempty]

/-- The metric a metrics entry does list under an id: its first entry with the id decides. -/
def MetricNode.listed (node : MetricNode) (id : String) : Option Metric :=
  (node.handlers.find? fun entry => platform.trim entry.handlerId = id).bind fun entry =>
    if entry.HasProperty then
      some (node.described platform defaultTimestamp entry (entry.property.getD ""))
    else none

/-- It is made from that entry. -/
theorem MetricNode.listed_eq (node : MetricNode) (id : String) :
    node.listed platform defaultTimestamp id =
      (node.handlers.find? fun entry => platform.trim entry.handlerId = id).bind
        (node.make platform defaultTimestamp) := by
  rw [listed]
  exact Option.bind_congr fun entry _ => (node.make_eq platform defaultTimestamp entry).symm

/-- The metrics logged under an id, in section order. -/
theorem loggedUnder_createdMetrics (nodes : List MetricNode) (id : String) :
    FlatMap.loggedUnder (createdMetrics platform defaultTimestamp nodes) id =
      nodes.filterMap fun node => node.listed platform defaultTimestamp id := by
  have hmade : ∀ entries, FlatMap.loggedUnder (madeFor platform defaultTimestamp entries) id =
      (entries.filter fun pair => platform.trim pair.2.handlerId = id).filterMap fun pair =>
        pair.1.make platform defaultTimestamp pair.2 := by
    intro entries
    rw [FlatMap.loggedUnder, madeFor, List.filter_filterMap, List.map_filterMap,
      List.filterMap_filter]
    refine List.filterMap_congr fun pair _ => ?_
    by_cases hid : platform.trim pair.2.handlerId = id <;>
      cases pair.1.make platform defaultTimestamp pair.2 <;> simp [hid]
  have hnode : ∀ node : MetricNode, (((node.firstEntries platform).map fun entry =>
        (node, entry)).filter fun pair => platform.trim pair.2.handlerId = id).filterMap
          (fun pair => pair.1.make platform defaultTimestamp pair.2) =
      (node.listed platform defaultTimestamp id).toList := by
    intro node
    have hfirst := filter_firstBy (fun entry => platform.trim entry.handlerId) node.handlers id
    rw [List.filter_map, List.filterMap_map, MetricNode.firstEntries]
    simp only [Function.comp_def]
    rw [hfirst, MetricNode.listed_eq]
    cases hfind : node.handlers.find? fun entry => platform.trim entry.handlerId = id with
    | none => rfl
    | some entry =>
      cases hmake : node.make platform defaultTimestamp entry <;> simp [hmake]
  rw [createdMetrics, hmade, lookedAt, List.filter_flatMap, List.filterMap_flatMap,
    List.filterMap_eq_flatMap_toList]
  simp only [hnode]

/-- What a metrics entry lists under an id is what it is to list, if it lists anything. -/
theorem MetricNode.expected_of_listed (node : MetricNode) (id : String) (metric : Metric)
    (h : node.listed platform defaultTimestamp id = some metric) :
    node.expected platform defaultTimestamp id = some metric := by
  obtain ⟨entry, hfind, hmake⟩ := Option.bind_eq_some_iff.mp h
  obtain ⟨hproperty, hmetric⟩ := Option.ite_none_right_eq_some.mp hmake
  obtain ⟨hid, before, after, hsplit, hbefore⟩ := List.find?_eq_some_iff_append.mp hfind
  have hfirst : (node.handlers.find? fun entry =>
      platform.trim entry.handlerId = id ∧ entry.HasProperty) = some entry := by
    refine List.find?_eq_some_iff_append.mpr ⟨?_, before, after, hsplit, fun other hother => ?_⟩
    · simpa [hproperty] using hid
    · have hne := hbefore other hother
      simp only [Bool.not_eq_true', decide_eq_false_iff_not] at hne ⊢
      exact fun h => hne h.1
  rw [expected, hfirst, Option.map_some, hmetric]

/-- A metrics entry lists a metric under an id exactly if its first entry with the id is usable. -/
theorem MetricNode.isSome_listed (node : MetricNode) (first : MetricHandlerNode)
    (hfirst : first ∈ node.firstEntries platform) :
    (node.listed platform defaultTimestamp (platform.trim first.handlerId)).isSome = true ↔
      first.HasProperty := by
  have hfind := (mem_firstBy_iff _ _ _).mp hfirst
  rw [listed, hfind, Option.bind_some]
  split <;> simp [*]

/-- A metrics entry is to list a metric under an id exactly if one of its entries with the id is
usable. -/
theorem MetricNode.isSome_expected (node : MetricNode) (id : String) :
    (node.expected platform defaultTimestamp id).isSome = true ↔
      ∃ entry ∈ node.handlers, platform.trim entry.handlerId = id ∧ entry.HasProperty := by
  simp [expected, List.find?_isSome]

/-- Some first entry has the id of any entry. -/
theorem MetricNode.exists_firstEntry (node : MetricNode) (entry : MetricHandlerNode)
    (hentry : entry ∈ node.handlers) :
    ∃ first ∈ node.firstEntries platform,
      platform.trim first.handlerId = platform.trim entry.handlerId := by
  have hid := (mem_map_key_firstBy (fun entry => platform.trim entry.handlerId) node.handlers
    (platform.trim entry.handlerId)).mpr (List.mem_map_of_mem hentry)
  exact List.mem_map.mp hid

/-- A metrics entry lists what it is to list under every id exactly where the first handler entry of
an id is usable if any is. -/
theorem firstDecides_iff (nodes : List MetricNode) :
    FirstDecides platform nodes ↔ ∀ node ∈ nodes, ∀ id,
      node.listed platform defaultTimestamp id = node.expected platform defaultTimestamp id := by
  constructor
  · intro h node hnode id
    cases hlisted : node.listed platform defaultTimestamp id with
    | some metric => rw [node.expected_of_listed platform defaultTimestamp id metric hlisted]
    | none =>
      refine (Option.not_isSome_iff_eq_none.mp fun hsome => ?_).symm
      obtain ⟨entry, hentry, rfl, hproperty⟩ :=
        (node.isSome_expected platform defaultTimestamp id).mp hsome
      obtain ⟨first, hfirst, hid⟩ := node.exists_firstEntry platform entry hentry
      have hmade := (node.isSome_listed platform defaultTimestamp first hfirst).mpr
        (h node hnode first hfirst entry hentry hid.symm hproperty)
      rw [hid, hlisted] at hmade
      cases hmade
  · intro h node hnode first hfirst entry hentry hid hproperty
    rw [← node.isSome_listed platform defaultTimestamp first hfirst, h node hnode,
      node.isSome_expected]
    exact ⟨entry, hentry, hid, hproperty⟩

end Listed

/-- The metrics section gives each id the metrics its entries are to list, in section order, exactly
where the first handler entry of an id is usable if any is: an unusable one keeps later ones of
its id from being used. -/
theorem configurePrometheusMetrics_lists_iff (platform : ConfigPlatform)
    (nodes : Option (List MetricNode)) (defaultTimestamp : MetricTimestamp) :
    (configurePrometheusMetrics platform nodes defaultTimestamp).ListsExpected platform
        defaultTimestamp (nodes.getD []) ↔
      FirstDecides platform (nodes.getD []) := by
  have hlist : ∀ metrics expected : List Metric,
      ((if metrics.isEmpty then none else some (metrics.map some)) =
        if expected.isEmpty then none else some (expected.map some)) ↔ metrics = expected := by
    intro metrics expected
    have hsome : Function.Injective (some : Metric → Option Metric) := fun _ _ => Option.some.inj
    cases metrics <;> cases expected <;> simp [hsome.list_map.eq_iff]
  have hnodes : ∀ id, ∀ node ∈ nodes.getD [], ∀ metric,
      node.listed platform defaultTimestamp id = some metric →
        node.expected platform defaultTimestamp id = some metric := fun id node _ metric =>
    node.expected_of_listed platform defaultTimestamp id metric
  simp only [MetricsMap.ListsExpected, configurePrometheusMetrics_eq,
    MetricsBuild.metrics_ofLog, loggedUnder_createdMetrics, hlist,
    filterMap_eq_iff_of_le _ (hnodes _), firstDecides_iff platform defaultTimestamp]
  exact ⟨fun h node hnode id => h id node hnode, fun h id node hnode => h node hnode id⟩

/-- A metrics entry whose first handler entry for `sensor` has no property. -/
def MetricNode.unusableFirst : MetricNode :=
  { metric := "Temperature"
    handlers := [{ handlerId := "sensor" },
      { handlerId := " sensor", property := some "temperature" }] }

/-- The second handler entry is usable, yet no metric is listed under `sensor`. -/
theorem unlisted_unusableFirst :
    ¬(configurePrometheusMetrics .reference (some [.unusableFirst]) .on).ListsExpected .reference
      .on [.unusableFirst] := by
  intro h
  have hlist := congrArg Option.isSome (h "sensor")
  exact absurd hlist (by decide)

end MqttBridge
