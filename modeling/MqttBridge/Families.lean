import MqttBridge.Provenance
import MqttBridge.WebHandler

/-!
# One header block for each metric name

A record carries the name, type and unit of its metric and never a help text. Metrics entries
are independent of each other, so two of them may publish one name with different types; the
page then announces the name once for each. It is announced once exactly as the exposition
format wants when the metrics that can publish a name agree in type and unit.
-/

namespace MqttBridge

/-- The metrics of the handlers that topics are routed to. -/
def BridgeConfig.routedMetrics (platform : ConfigPlatform) (config : BridgeConfig) :
    List MetricRef :=
  ((config.routes platform).added.flatMap Prod.snd).flatMap MqttHandler.metrics

/-- Routed metrics of one name agree in type and unit. -/
def BridgeConfig.OneTypePerName (platform : ConfigPlatform) (config : BridgeConfig) : Prop :=
  ∀ ref₁ ∈ config.routedMetrics platform, ∀ ref₂ ∈ config.routedMetrics platform,
    ref₁.metric.id.name = ref₂.metric.id.name →
      ref₁.metric.metricType = ref₂.metric.metricType ∧
        ref₁.metric.metricUnit = ref₂.metric.metricUnit

instance (platform : ConfigPlatform) (config : BridgeConfig) :
    Decidable (config.OneTypePerName platform) :=
  inferInstanceAs (Decidable (∀ ref₁ ∈ config.routedMetrics platform,
    ∀ ref₂ ∈ config.routedMetrics platform, _ → _))

/-- Samples the cache may hold after some messages: each is a record of a batch that was added. -/
def MqttClient.Cached (runtime : Platform) (client : MqttClient) (messages : List Message)
    (samples : List MetricData) : Prop :=
  ∀ data ∈ samples, ∃ batch, some batch ∈ (client.run runtime messages).2 ∧ data ∈ batch

/-- The published name of a record. -/
def MetricData.name (data : MetricData) : String := data.id.name

/-- The metric of an event is one of its handler's. -/
theorem MqttHandler.ref_mem_metrics {runtime : Platform} {handler : MqttHandler}
    {data topic : String} {levels : TopicLevelsView} {timestamp : ℤ} {call : MetricCall}
    (h : call ∈ handler.calls runtime data topic levels timestamp) :
    call.ref ∈ handler.metrics := by
  cases handler with
  | value id metrics metricCount =>
    obtain ⟨ref, href, rfl⟩ := List.mem_map.mp h
    exact href
  | json id pointers metricCount =>
    obtain ⟨callback, _, hcall⟩ := List.mem_flatMap.mp h
    obtain ⟨ref, href, rfl⟩ := List.mem_map.mp hcall
    cases hlookup : pointers.lookup callback.pointer with
    | none =>
      rw [hlookup] at href
      exact absurd href List.not_mem_nil
    | some metrics =>
      rw [hlookup] at href
      obtain ⟨before, after, hpointers, _⟩ := List.lookup_eq_some_iff.mp hlookup
      refine List.mem_flatMap.mpr ⟨(callback.pointer, metrics), ?_, href⟩
      rw [hpointers]
      exact List.mem_append_right _ List.mem_cons_self

/-- A cached sample has the header data of a routed metric, without help text. -/
theorem MqttClient.Cached.routed {runtime : Platform} (hadds : runtime.AddsNoHelp)
    {platform : ConfigPlatform} {filterMatches : String → String → Bool} {config : BridgeConfig}
    {automaton : Topics}
    (hsound : automaton.Sound filterMatches (config.routes platform).added) {metricCache : Bool}
    {messages : List Message} {samples : List MetricData}
    (hcached : (config.client platform automaton metricCache).Cached runtime messages samples) :
    ∀ data ∈ samples, ∃ ref ∈ config.routedMetrics platform, data.headerKey =
      ⟨ref.metric.id.name, ref.metric.metricType, ref.metric.metricUnit, ""⟩ := by
  intro data hdata
  obtain ⟨batch, hbatch, hmem⟩ := hcached data hdata
  rw [(MqttClient.run_spec runtime hadds messages _ Heap.clean_initial).2] at hbatch
  obtain ⟨message, _, hbatch⟩ := List.mem_map.mp hbatch
  obtain ⟨handlers, hhandlers, handler, hhandler, call, hcall, rfl⟩ :=
    MqttClient.call_of_mem_expectedBatch hbatch data hmem
  obtain ⟨filter, hadd, _⟩ := hsound _ handlers hhandlers
  refine ⟨call.ref, ?_, Metric.headerKey_emit ..⟩
  refine List.mem_flatMap.mpr ⟨handler, ?_, MqttHandler.ref_mem_metrics hcall⟩
  exact List.mem_flatMap.mpr ⟨(filter, handlers), hadd, hhandler⟩

/-- Where routed metrics of one name agree in type and unit, cached samples of one name agree in
type, unit and help. -/
theorem MqttClient.Cached.headerKey_eq {runtime : Platform} (hadds : runtime.AddsNoHelp)
    {platform : ConfigPlatform} {filterMatches : String → String → Bool} {config : BridgeConfig}
    {automaton : Topics}
    (hsound : automaton.Sound filterMatches (config.routes platform).added)
    (htypes : config.OneTypePerName platform) {metricCache : Bool} {messages : List Message}
    {samples : List MetricData}
    (hcached : (config.client platform automaton metricCache).Cached runtime messages samples) :
    ∀ data₁ ∈ samples, ∀ data₂ ∈ samples, data₁.name = data₂.name →
      data₁.headerKey = data₂.headerKey := by
  intro data₁ hdata₁ data₂ hdata₂ hname
  obtain ⟨ref₁, href₁, hkey₁⟩ := hcached.routed hadds hsound data₁ hdata₁
  obtain ⟨ref₂, href₂, hkey₂⟩ := hcached.routed hadds hsound data₂ hdata₂
  have hname₁ : data₁.name = ref₁.metric.id.name := congrArg HeaderKey.name hkey₁
  have hname₂ : data₂.name = ref₂.metric.id.name := congrArg HeaderKey.name hkey₂
  have hnames : ref₁.metric.id.name = ref₂.metric.id.name := by rw [← hname₁, hname, hname₂]
  obtain ⟨htype, hunit⟩ := htypes ref₁ href₁ ref₂ href₂ hnames
  rw [hkey₁, hkey₂, hnames, htype, hunit]

/-- Where routed metrics of one name agree in type and unit, a scrape of samples grouped by name
writes exactly one header block for each name, before the name's first sample; and no two cached
samples of one name differ in type, unit or help. -/
theorem doGet_one_header_per_name (runtime : Platform) (hadds : runtime.AddsNoHelp)
    (platform : ConfigPlatform) (webPlatform : WebPlatform)
    (filterMatches : String → String → Bool) (config : BridgeConfig)
    (htypes : config.OneTypePerName platform) (automaton : Topics)
    (hsound : automaton.Sound filterMatches (config.routes platform).added) (metricCache : Bool)
    (messages : List Message) (samples : List MetricData)
    (hcached : (config.client platform automaton metricCache).Cached runtime messages samples)
    (hgrouped : Contiguous MetricData.name samples) (handler : PrometheusWebHandler)
    (hcache : handler.metricCache = true) :
    let blocks := announceChanges MetricData.headerKey none samples
    (handler.doGet webPlatform samples).2 =
        [httpResponse (blocks.flatMap (Announced.text webPlatform)).length,
          blocks.flatMap (Announced.text webPlatform)] ∧
      (∀ name ∈ samples.map MetricData.name, AnnouncedOnce MetricData.name name blocks) ∧
      ∀ data₁ ∈ samples, ∀ data₂ ∈ samples, data₁.name = data₂.name →
        data₁.metricType = data₂.metricType ∧ data₁.metricUnit = data₂.metricUnit ∧
          data₁.help = data₂.help := by
  intro blocks
  have hagree := hcached.headerKey_eq hadds hsound htypes
  refine ⟨?_, fun name hname => ?_, fun data₁ hdata₁ data₂ hdata₂ hname => ?_⟩
  · have hwritten := (handler.doGet_writes webPlatform samples).1
    rw [hcache] at hwritten
    exact hwritten
  · have hnames : ∀ data₁ data₂ : MetricData, data₁.headerKey = data₂.headerKey →
        data₁.name = data₂.name := fun _ _ hkey => congrArg HeaderKey.name hkey
    exact announcedOnce_of_agree hgrouped hnames hagree hname
  · have hkey := hagree data₁ hdata₁ data₂ hdata₂ hname
    exact ⟨congrArg HeaderKey.metricType hkey, congrArg HeaderKey.metricUnit hkey,
      congrArg HeaderKey.help hkey⟩

/-- Two metrics entries of one name, for two handlers on two topics. -/
def BridgeConfig.twoEntries (type₁ type₂ : String) : BridgeConfig where
  defaultTimestamp := .on
  metrics := some
    [{ metric := "Temperature", type := some type₁,
       handlers := [{ handlerId := "a", property := some "t" }] },
     { metric := "Temperature ", type := some type₂,
       handlers := [{ handlerId := "b", property := some "t" }] }]
  handlers := some [{ id := "a", type := "value" }, { id := "b", type := "value" }]
  topics :=
    [{ handlers := some ["a"], subscriptions := ["home/a"] },
     { handlers := some ["b"], subscriptions := ["home/b"] }]

/-- The client of the two entries, with an automaton for filters without wildcards. -/
def BridgeConfig.twoEntriesClient (type₁ type₂ : String) : MqttClient :=
  (twoEntries type₁ type₂).client .reference
    (.keeping (· == ·) ((twoEntries type₁ type₂).routes .reference).added
      (Topics.firstAdded ((twoEntries type₁ type₂).routes .reference).added)) true

/-- The records of a message on each of the two topics. -/
def BridgeConfig.twoEntriesSamples (type₁ type₂ : String) : List MetricData :=
  ((twoEntriesClient type₁ type₂).run .reference
    [⟨"home/a", "20.5", 1⟩, ⟨"home/b", "21.5", 2⟩]).2.reduceOption.flatten

/-- The records are cached samples, of one name and with different labels. -/
theorem BridgeConfig.cached_twoEntriesSamples (type₁ type₂ : String) :
    (twoEntriesClient type₁ type₂).Cached .reference
      [⟨"home/a", "20.5", 1⟩, ⟨"home/b", "21.5", 2⟩] (twoEntriesSamples type₁ type₂) := by
  intro data hdata
  obtain ⟨batch, hbatch, hmem⟩ := List.mem_flatten.mp hdata
  exact ⟨batch, List.reduceOption_mem_iff.mp hbatch, hmem⟩

/-- Two entries of one name and type: a GET writes one header block before both samples. -/
theorem doGet_one_header_per_name_gauge :
    AnnouncedOnce MetricData.name "Temperature" (announceChanges MetricData.headerKey none
        (BridgeConfig.twoEntriesSamples "gauge" "gauge")) ∧
      ((⟨true, [1], [2]⟩ : PrometheusWebHandler).doGet .reference
          (BridgeConfig.twoEntriesSamples "gauge" "gauge")).2.getLast? =
        some (asciiBytes "# TYPE Temperature\nTemperature 20.5\nTemperature 21.5\n") := by
  have hgrouped : Contiguous MetricData.name (BridgeConfig.twoEntriesSamples "gauge" "gauge") :=
    .of_const (by decide)
  have hkeeps := Topics.keeps_firstAdded (· == ·)
    ((BridgeConfig.twoEntries "gauge" "gauge").routes .reference).added
  obtain ⟨hwritten, honce, _⟩ := doGet_one_header_per_name .reference
    Platform.addsNoHelp_reference .reference .reference (· == ·) (.twoEntries "gauge" "gauge")
    (by decide) _ hkeeps.sound true _ _ (BridgeConfig.cached_twoEntriesSamples "gauge" "gauge")
    hgrouped ⟨true, [1], [2]⟩ rfl
  refine ⟨honce "Temperature" (by decide), ?_⟩
  rw [hwritten]
  exact congrArg some (by decide)

/-- Two entries of one name, a gauge and a counter: samples of both are cached together, and a
scrape that visits them writes two header blocks for the name. -/
theorem two_headers_of_two_types :
    ∃ samples, (BridgeConfig.twoEntriesClient "gauge" "counter").Cached .reference
        [⟨"home/a", "20.5", 1⟩, ⟨"home/b", "21.5", 2⟩] samples ∧
      samples.Pairwise (fun data₁ data₂ => data₁.labels ≠ data₂.labels) ∧
      Contiguous MetricData.name samples ∧ "Temperature" ∈ samples.map MetricData.name ∧
      ¬AnnouncedOnce MetricData.name "Temperature"
        (announceChanges MetricData.headerKey none samples) := by
  refine ⟨BridgeConfig.twoEntriesSamples "gauge" "counter",
    BridgeConfig.cached_twoEntriesSamples "gauge" "counter", by decide, .of_const (by decide),
    by decide, fun honce => ?_⟩
  exact absurd honce.count (by decide)

end MqttBridge
