import MqttBridge.Bridge
import MqttBridge.Routing

/-!
# From delivered messages to served pages

The bridge asks for its filters whenever it connects, and a broker that delivers only what it has
granted delivers nothing the bridge would ignore: each message reaches a handler, and its batch is
added once, with the records of an entry for every filter that matches. What a GET that is not
disturbed then serves is the page of what the cache shows after some of the messages received, and
nothing on the page was not asked for.
-/

namespace MqttBridge

/-- A cache shows only samples that were added to it. -/
structure MetricDataCache.MakesNothingUp {κ : Type*} (cache : MetricDataCache κ) : Prop where
  visit_empty : cache.visit cache.empty = []
  visit_add : ∀ cached batch, ∀ data ∈ cache.visit (cache.add cached batch),
    data ∈ cache.visit cached ∨ data ∈ batch

/-- The step is one of the network thread, or one of a GET that disturbs no other. -/
def Bridge.Undisturbing {κ ι : Type*} (cache : MetricDataCache κ) (bridge : Bridge κ ι)
    (label : BridgeStep ι) : Prop :=
  match label with
  | .get request call => bridge.scrapes.Exclusive (request, call.step (cache.visit bridge.cache))
  | .connect _ _ | .disconnect | .receive _ | .handle | .add => True

instance {κ ι : Type*} [DecidableEq ι] [Fintype ι] (cache : MetricDataCache κ) (bridge : Bridge κ ι)
    (label : BridgeStep ι) : Decidable (bridge.Undisturbing cache label) :=
  match label with
  | .get _ _ => inferInstanceAs (Decidable (Scrapes.Exclusive _ _))
  | .connect _ _ | .disconnect | .receive _ | .handle | .add => isTrue trivial

/-- The broker delivers a message only if a filter subscribed to on the connection matches it. -/
def Bridge.Delivers {κ ι : Type*} (platform : Platform) (filterMatches : String → String → Bool)
    (bridge : Bridge κ ι) (label : BridgeStep ι) : Prop :=
  match label with
  | .receive message => ∃ filter ∈ bridge.subscribed,
      filterMatches filter (platform.topicTrim message.topic) = true
  | .connect _ _ | .disconnect | .handle | .add | .get _ _ => True

instance {κ ι : Type*} (platform : Platform) (filterMatches : String → String → Bool)
    (bridge : Bridge κ ι) (label : BridgeStep ι) :
    Decidable (bridge.Delivers platform filterMatches label) :=
  match label with
  | .receive _ => inferInstanceAs (Decidable (∃ filter ∈ _, _))
  | .connect _ _ | .disconnect | .handle | .add | .get _ _ => isTrue trivial

section Responses

variable {κ ι : Type*} {cache : MetricDataCache κ} {platform : Platform}
  {webPlatform : WebPlatform}

/-- A sample the cache shows after some messages is a record of one of their batches. -/
theorem MetricDataCache.MakesNothingUp.mem_visit_after (h : cache.MakesNothingUp)
    {client : MqttClient} {messages : List Message} {data : MetricData}
    (hdata : data ∈ cache.visit (cache.after platform client messages)) :
    ∃ message ∈ messages, ∃ batch, client.expectedBatch platform message = some batch ∧
      data ∈ batch := by
  induction messages using List.reverseRecOn with
  | nil =>
    change data ∈ cache.visit cache.empty at hdata
    rw [h.visit_empty] at hdata
    exact absurd hdata List.not_mem_nil
  | append_singleton messages message ih =>
    have hearlier : data ∈ cache.visit (cache.after platform client messages) →
        ∃ earlier ∈ messages ++ [message], ∃ batch,
          client.expectedBatch platform earlier = some batch ∧ data ∈ batch := by
      intro hold
      obtain ⟨earlier, hmem, hbatch⟩ := ih hold
      exact ⟨earlier, List.mem_append_left _ hmem, hbatch⟩
    rw [cache.after_concat] at hdata
    cases hbatch : client.expectedBatch platform message with
    | none =>
      rw [hbatch] at hdata
      exact hearlier hdata
    | some batch =>
      rw [hbatch] at hdata
      rcases h.visit_add _ batch data hdata with hold | hnew
      · exact hearlier hold
      · exact ⟨message, by simp, batch, hbatch, hnew⟩

variable [DecidableEq ι]

/-- No step changes whether the web handler has a cache. -/
theorem Scrapes.metricCache_step {scrapes scrapes' : Scrapes ι} {label : ι × GetStep}
    (hstep : scrapes.step webPlatform label = some scrapes') :
    scrapes'.handler.metricCache = scrapes.handler.metricCache := by
  obtain ⟨⟨handler', request'⟩, happly, rfl⟩ := Option.map_eq_some_iff.mp hstep
  exact (GetStep.moves_of_apply happly).frame.1

/-- In a run without disturbing steps, every GET is consistent with the buffers, and the web handler
has a cache if it had one. -/
theorem Bridge.consistent_of_undisturbing {client : MqttClient} {handler : PrometheusWebHandler}
    {labels : List (BridgeStep ι)} {bridge : Bridge κ ι}
    (hguard : Guarded (step cache platform webPlatform) (Undisturbing cache)
      (initial cache client handler) labels)
    (hrun : runSteps (step cache platform webPlatform) (initial cache client handler) labels =
      some bridge) :
    bridge.scrapes.Consistent webPlatform ∧
      bridge.scrapes.handler.metricCache = handler.metricCache := by
  have hstart : (initial cache client handler : Bridge κ ι).scrapes.Consistent webPlatform ∧
      (initial cache client handler : Bridge κ ι).scrapes.handler.metricCache =
        handler.metricCache := ⟨fun _ => rfl, rfl⟩
  refine Guarded.invariant (motive := fun bridge => bridge.scrapes.Consistent webPlatform ∧
    bridge.scrapes.handler.metricCache = handler.metricCache)
    (fun bridge label bridge' h hlabel hstep => ?_) hstart hguard hrun
  cases moves_of_step hstep with
  | connect | disconnect | ignore | receive | handle | add => exact h
  | get request call scrapes hscrapes =>
    exact ⟨h.1.step hlabel hscrapes, (Scrapes.metricCache_step hscrapes).trans h.2⟩

end Responses

/-- What a GET serves, end to end. In any run in which no step disturbs another GET, a finished
response is a header from which a client reads the size of the body, followed by the blocks of a
page. Reading the page, each sample comes after a header block of its own name, type, unit and help
text. The samples are those the GET's own visit was shown, the ones the cache shows after some first
part of the messages received, and each one is a record of a batch the configuration means for one
of these messages. -/
theorem Bridge.finished_response {κ ι : Type*} [DecidableEq ι] (cache : MetricDataCache κ)
    (hcache : cache.MakesNothingUp) (runtime : Platform) (hadds : runtime.AddsNoHelp)
    (platform : ConfigPlatform) (webPlatform : WebPlatform)
    (filterMatches : String → String → Bool) (config : BridgeConfig)
    (automaton : Topics) (kept : String → MqttHandlerList)
    (hkeeps : automaton.Keeps filterMatches (config.routes platform).added kept)
    (handler : PrometheusWebHandler) (labels : List (BridgeStep ι)) (bridge : Bridge κ ι)
    (hguard : Guarded (step cache runtime webPlatform) (Undisturbing cache)
      (initial cache (config.client platform automaton true) handler) labels)
    (hrun : runSteps (step cache runtime webPlatform)
      (initial cache (config.client platform automaton true) handler) labels = some bridge)
    (i : ι) (hfinished : (bridge.scrapes.requests i).phase = .finished) :
    ∃ (seen : List Message) (samples : List MetricData) (blocks : List (Announced MetricData)),
      seen <+: received labels ∧
        samples = (if handler.metricCache then
          cache.visit (cache.after runtime (config.client platform automaton true) seen)
          else []) ∧
        (bridge.scrapes.requests i).snapshot = some (cache.visit (cache.after runtime
          (config.client platform automaton true) seen)) ∧
        (bridge.scrapes.requests i).written =
          [httpResponse (blocks.flatMap (Announced.text webPlatform)).length,
            blocks.flatMap (Announced.text webPlatform)] ∧
        (bridge.scrapes.requests i).written.head?.bind contentLength =
          some (blocks.flatMap (Announced.text webPlatform)).length ∧
        (readBlocks none blocks).map (Prod.map (Option.map MetricData.headerKey) id) =
          (samples.map fun data => (some data.headerKey, data)) ∧
        ∀ data ∈ samples, ∃ message ∈ seen, ∃ batch,
          config.Means runtime platform filterMatches message (some batch) ∧ data ∈ batch := by
  obtain ⟨hconsistent, hmetricCache⟩ := consistent_of_undisturbing hguard hrun
  obtain ⟨atomic, _, hrepresents, hsince, hreceived⟩ :=
    (represents_initial cache runtime Heap.clean_initial handler).run hadds hrun
  obtain ⟨shown, hsnapshot, hwritten, hlength⟩ := hconsistent.undisturbed i hfinished
  have hshown := hsnapshot
  rw [(hrepresents.requests i).snapshot, Option.map_eq_some_iff] at hshown
  obtain ⟨seen, hseen, rfl⟩ := hshown
  have hserved : bridge.scrapes.handler.served webPlatform
      (cache.visit (cache.after runtime (config.client platform automaton true) seen)) =
      (announceChanges MetricData.headerKey none (if handler.metricCache then
        cache.visit (cache.after runtime (config.client platform automaton true) seen)
        else [])).flatMap (Announced.text webPlatform) := by
    rw [PrometheusWebHandler.served, hmetricCache]
    rfl
  rw [hserved] at hwritten hlength
  refine ⟨seen, _, announceChanges MetricData.headerKey none (if handler.metricCache then
    cache.visit (cache.after runtime (config.client platform automaton true) seen) else []),
    ?_, rfl, hsnapshot, hwritten, hlength, readBlocks_announceChanges _ _ _ _ rfl,
    fun data hdata => ?_⟩
  · have hall : received labels = atomic.published ++ bridge.network.message := hreceived
    rw [hall]
    exact (hsince.fresh i seen rfl hseen).2.trans (List.prefix_append _ _)
  · split at hdata
    · obtain ⟨message, hmessage, batch, hbatch, hmem⟩ := hcache.mem_visit_after hdata
      refine ⟨message, hmessage, batch, ?_, hmem⟩
      rw [← hbatch]
      exact BridgeConfig.means_expectedBatch hkeeps message
    · exact absurd hdata List.not_mem_nil

/-- The reference cache shows only what was added. -/
theorem MetricDataCache.makesNothingUp_reference : reference.MakesNothingUp where
  visit_empty := rfl
  visit_add := by
    intro cached batch data hdata
    change data ∈ batch.foldl _ cached at hdata
    change data ∈ cached ∨ data ∈ batch
    induction batch generalizing cached with
    | nil => exact Or.inl hdata
    | cons first batch ih =>
      rcases ih _ hdata with hold | hnew
      · rcases List.mem_append.mp hold with hold | hold
        · exact Or.inl (List.mem_filter.mp hold).1
        · exact Or.inr (List.mem_singleton.mp hold ▸ List.mem_cons_self)
      · exact Or.inr (List.mem_cons_of_mem first hnew)

/-- An automaton for the temperature example. -/
def Topics.temperature : Topics :=
  .keeping (· == ·) (BridgeConfig.temperature.routes .reference).added
    (firstAdded (BridgeConfig.temperature.routes .reference).added)

/-- A bridge built from the temperature example with one GET, before its first step. -/
def Bridge.temperature : Bridge (List MetricData) (Fin 1) :=
  initial .reference (BridgeConfig.temperature.client .reference .temperature true) ⟨true, [], []⟩

/-- The broker refuses a connection, then accepts one and delivers a message; the message is
published, then the page is served. -/
def Bridge.temperatureSteps : List (BridgeStep (Fin 1)) :=
  [.connect 5 fun _ => true, .disconnect, .connect 0 fun _ => true,
    .receive ⟨"home/kitchen", "\x7b\"temperature\": 21.5\x7d", 2⟩, .handle, .add] ++
    [.clearBody, .visit, .formatHeader, .writeHeader, .writeBody].map (.get 0)

/-- Its GET is answered with a page after the message, which has the one sample on it. -/
theorem Bridge.finished_response_temperature :
    ∃ (bridge : Bridge (List MetricData) (Fin 1)) (seen : List Message)
        (samples : List MetricData) (blocks : List (Announced MetricData)),
      runSteps (step .reference .reference .reference) temperature temperatureSteps =
          some bridge ∧
        seen <+: [⟨"home/kitchen", "\x7b\"temperature\": 21.5\x7d", 2⟩] ∧
        samples.map (fun data => (data.id.name, data.value)) = [("room_temperature", "21.5")] ∧
        (bridge.scrapes.requests 0).written =
          [httpResponse (blocks.flatMap (Announced.text .reference)).length,
            blocks.flatMap (Announced.text .reference)] ∧
        (readBlocks none blocks).map (Prod.map (Option.map MetricData.headerKey) id) =
          (samples.map fun data => (some data.headerKey, data)) := by
  have hkeeps := Topics.keeps_firstAdded (· == ·) (BridgeConfig.temperature.routes .reference).added
  obtain ⟨bridge, shown, hrun, hfinished, hshown, hvalues⟩ : ∃ bridge shown,
      runSteps (step .reference .reference .reference) temperature temperatureSteps =
        some bridge ∧ (bridge.scrapes.requests 0).phase = .finished ∧
      (bridge.scrapes.requests 0).snapshot = some shown ∧
      shown.map (fun data => (data.id.name, data.value)) = [("room_temperature", "21.5")] :=
    ⟨_, _, rfl, rfl, rfl, by decide⟩
  obtain ⟨seen, _, blocks, hseen, rfl, hsnapshot, hwritten, _, hread, _⟩ := finished_response
    .reference MetricDataCache.makesNothingUp_reference .reference Platform.addsNoHelp_reference
    .reference .reference (· == ·) .temperature .temperature _ hkeeps ⟨true, [], []⟩
    temperatureSteps bridge (by decide) hrun 0 hfinished
  rw [hshown] at hsnapshot
  rw [if_pos rfl, ← Option.some.inj hsnapshot] at hread
  exact ⟨bridge, seen, shown, blocks, hrun, hseen, hvalues, hwritten, hread⟩

/-- What the client was made with; only its filters are subscribed to on its connection. -/
structure Bridge.Subscribed {κ ι : Type*} (client : MqttClient) (bridge : Bridge κ ι) : Prop where
  topics : bridge.client.topics = client.topics
  metricCache : bridge.client.metricCache = client.metricCache
  subscriptions : bridge.client.subscriptions = client.subscriptions
  subscribed : ∀ filter ∈ bridge.subscribed, filter ∈ client.subscriptions

/-- What is granted after a step. -/
def BridgeStep.grants {ι : Type*} (granted : String → Bool) (label : BridgeStep ι) :
    String → Bool :=
  match label with
  | .connect rc granted => fun filter => decide (rc = 0) && granted filter
  | .disconnect => fun _ => false
  | .receive _ | .handle | .add | .get _ _ => granted

/-- The filters the broker grants on the connection there is after some steps: none if it refused
the connection or there is none. -/
def grantedAfter {ι : Type*} (labels : List (BridgeStep ι)) : String → Bool :=
  labels.foldl BridgeStep.grants fun _ => false

/-- A batch answers every entry's filter: wherever an entry listens to a filter that matches the
message, the batch has the records that entry asks for, or those of another one that listens to the
same filter. -/
def BridgeConfig.Covers (runtime : Platform) (platform : ConfigPlatform)
    (filterMatches : String → String → Bool) (config : BridgeConfig) (message : Message)
    (batch : List MetricData) : Prop :=
  ∀ filter node, config.Listens platform node filter →
    filterMatches filter (runtime.topicTrim message.topic) = true →
      ∃ served, config.Listens platform served filter ∧
        (config.Unshared platform → served = node) ∧
        config.records runtime platform served message <:+: batch

section Delivery

variable {κ ι : Type*} [DecidableEq ι] {cache : MetricDataCache κ} {runtime : Platform}
  {platform : ConfigPlatform} {webPlatform : WebPlatform} {config : BridgeConfig}
  {filterMatches : String → String → Bool}

/-- Every step keeps it: a connection is asked for the client's filters as it is made. -/
theorem Bridge.Subscribed.step {client : MqttClient} {bridge bridge' : Bridge κ ι}
    {label : BridgeStep ι} (h : bridge.Subscribed client)
    (hstep : bridge.step cache runtime webPlatform label = some bridge') :
    bridge'.Subscribed client := by
  cases moves_of_step hstep with
  | connect rc granted =>
    refine ⟨h.topics, h.metricCache, h.subscriptions, fun filter hfilter => ?_⟩
    dsimp only at hfilter
    split at hfilter
    · exact h.subscriptions ▸ (List.mem_filter.mp hfilter).1
    · exact absurd hfilter List.not_mem_nil
  | disconnect =>
    exact ⟨h.topics, h.metricCache, h.subscriptions,
      fun _ hfilter => absurd hfilter List.not_mem_nil⟩
  | ignore | receive | handle | add | get =>
    exact ⟨h.topics, h.metricCache, h.subscriptions, h.subscribed⟩

/-- What is subscribed to after a step is what is granted then. -/
theorem Bridge.subscribed_step {client : MqttClient} {bridge bridge' : Bridge κ ι}
    {label : BridgeStep ι} {granted : String → Bool} (h : bridge.Subscribed client)
    (hgranted : bridge.subscribed = client.subscriptions.filter granted)
    (hstep : bridge.step cache runtime webPlatform label = some bridge') :
    bridge'.subscribed = client.subscriptions.filter (label.grants granted) := by
  cases moves_of_step hstep with
  | connect rc filters =>
    change (if rc = 0 then bridge.client.subscriptions.filter filters else []) = _
    rw [h.subscriptions]
    by_cases hrc : rc = 0 <;> simp [BridgeStep.grants, hrc]
  | disconnect => simp [BridgeStep.grants]
  | ignore | receive | handle | add | get => exact hgranted

/-- After a run, the filters subscribed to are those granted on the connection there is. -/
theorem Bridge.subscribed_run {client : MqttClient} {labels : List (BridgeStep ι)}
    {bridge bridge' : Bridge κ ι} {granted : String → Bool} (h : bridge.Subscribed client)
    (hgranted : bridge.subscribed = client.subscriptions.filter granted)
    (hrun : runSteps (Bridge.step cache runtime webPlatform) bridge labels = some bridge') :
    bridge'.subscribed = client.subscriptions.filter (labels.foldl BridgeStep.grants granted) := by
  induction labels generalizing bridge granted with
  | nil =>
    cases hrun
    exact hgranted
  | cons label labels ih =>
    obtain ⟨next, hnext, hrun⟩ := Option.bind_eq_some_iff.mp hrun
    exact ih (h.step hnext) (subscribed_step h hgranted hnext) hrun

/-- The batch of an answer covers the message. -/
theorem BridgeConfig.Means.covers {message : Message} {batch : List MetricData}
    (h : config.Means runtime platform filterMatches message (some batch)) :
    config.Covers runtime platform filterMatches message batch := by
  obtain ⟨answer, hbatch⟩ := h
  intro filter node hlistens hmatches
  have hfilter := (answer.mem_filters filter).mpr ⟨⟨node, hlistens⟩, hmatches⟩
  refine ⟨answer.entry filter, answer.listens filter hfilter, fun hunshared =>
    hunshared filter _ _ (answer.listens filter hfilter) hlistens, ?_⟩
  obtain ⟨before, after, hfilters⟩ := List.append_of_mem hfilter
  rw [Answer.batch, if_neg (List.ne_nil_of_mem hfilter)] at hbatch
  rw [← Option.some.inj hbatch, hfilters, List.flatMap_append, List.flatMap_cons]
  exact ⟨_, _, List.append_assoc ..⟩

/-- An automaton finds a list for a topic that a subscribed filter matches, and no list is empty. -/
theorem BridgeConfig.handlers_ne_nil (hsearch : LowerBoundSearch platform.findIterPos)
    {automaton : Topics} {kept : String → MqttHandlerList}
    (hkeeps : automaton.Keeps filterMatches (config.routes platform).added kept)
    {filter topic : String} (hsubscribed : filter ∈ (config.routes platform).subscriptions)
    (hmatches : filterMatches filter topic = true) : automaton.handlers topic ≠ [] := by
  have hadded := ((agree_configureMqttTopics hsearch (config.store platform)
    config.topics).same filter).mp hsubscribed
  obtain ⟨_, _, hresolved, _, hkept⟩ := exists_node_of_kept hkeeps hadded
  have hfound := (hkeeps.mem_find topic (kept filter)).mpr ⟨filter, hadded, hmatches, rfl⟩
  obtain ⟨handler, hhandler⟩ := List.exists_mem_of_ne_nil (kept filter) (hkept.symm ▸ hresolved)
  exact List.ne_nil_of_mem (List.mem_flatten.mpr ⟨kept filter, hfound, hhandler⟩)

/-- A topic with handlers is dispatched. -/
theorem MqttClient.expectedBatch_of_handlers {client : MqttClient} {message : Message}
    (hcache : client.metricCache = true)
    (hhandlers : client.topics.handlers (runtime.topicTrim message.topic) ≠ []) :
    (client.expectedBatch runtime message).isSome = true := by
  have hfind : client.topics.find (runtime.topicTrim message.topic) ≠ [] := fun hnone =>
    hhandlers (by rw [Topics.handlers, hnone, List.flatten_nil])
  rw [expectedBatch, if_pos ⟨hcache, hfind⟩, Option.isSome_some]

end Delivery

/-- Every message the broker delivers is answered. Let it deliver only what some filter subscribed
to on the connection matches. In any run every message received then has a handler, however often
the connection was made again, was refused or was granted some of its filters only. The cache is
what the batches of these messages made of it, added in the order of their reception; only the
message still being dispatched is left out. Each batch is meant by the configuration and covers the
message: for every listened-to filter that matches it has the records of one of the entries that
listen to the filter, hence of all of them if no two entries share one. The filters subscribed to
are those some entry listens to that the broker granted on the connection. -/
theorem Bridge.delivered_published {κ ι : Type*} [DecidableEq ι] (cache : MetricDataCache κ)
    (runtime : Platform) (hadds : runtime.AddsNoHelp) (platform : ConfigPlatform)
    (hsearch : LowerBoundSearch platform.findIterPos) (webPlatform : WebPlatform)
    (filterMatches : String → String → Bool) (config : BridgeConfig) (automaton : Topics)
    (kept : String → MqttHandlerList)
    (hkeeps : automaton.Keeps filterMatches (config.routes platform).added kept)
    (handler : PrometheusWebHandler) (labels : List (BridgeStep ι)) (bridge : Bridge κ ι)
    (hguard : Guarded (step cache runtime webPlatform) (Delivers runtime filterMatches)
      (initial cache (config.client platform automaton true) handler) labels)
    (hrun : runSteps (step cache runtime webPlatform)
      (initial cache (config.client platform automaton true) handler) labels = some bridge) :
    (∀ message ∈ received labels, automaton.handlers (runtime.topicTrim message.topic) ≠ []) ∧
      (∃ (published : List Message) (batches : List (List MetricData)),
        received labels = published ++ bridge.network.message ∧
          List.Forall₂ (fun message batch =>
            config.Means runtime platform filterMatches message (some batch) ∧
              config.Covers runtime platform filterMatches message batch) published batches ∧
          bridge.cache = batches.foldl cache.add cache.empty) ∧
      ∀ filter, filter ∈ bridge.subscribed ↔
        grantedAfter labels filter = true ∧ ∃ node, config.Listens platform node filter := by
  let client := config.client platform automaton true
  have hstart : (initial cache client handler : Bridge κ ι).Subscribed client :=
    ⟨rfl, rfl, rfl, fun _ hfilter => absurd hfilter List.not_mem_nil⟩
  have hstep : ∀ (bridge : Bridge κ ι) label bridge', bridge.Subscribed client →
      bridge.Delivers runtime filterMatches label →
        step cache runtime webPlatform bridge label = some bridge' → bridge'.Subscribed client :=
    fun _ _ _ h _ hstep => h.step hstep
  -- What is delivered is matched by a filter of the configuration.
  have hlabel : ∀ (bridge : Bridge κ ι) label, bridge.Subscribed client →
      bridge.Delivers runtime filterMatches label → ∀ message, label = .receive message →
        automaton.handlers (runtime.topicTrim message.topic) ≠ [] := by
    rintro bridge label h hdelivers message rfl
    obtain ⟨filter, hfilter, hmatches⟩ := hdelivers
    exact BridgeConfig.handlers_ne_nil hsearch hkeeps (h.subscribed filter hfilter) hmatches
  have hhandlers : ∀ message ∈ received labels,
      automaton.handlers (runtime.topicTrim message.topic) ≠ [] := by
    intro message hmessage
    obtain ⟨label, hmem, hreceive⟩ := List.mem_filterMap.mp hmessage
    refine Guarded.forall_mem hstep hlabel hstart hguard hrun label hmem message ?_
    split at hreceive
    · exact Option.some.inj hreceive ▸ rfl
    · cases hreceive
  obtain ⟨atomic, _, hrepresents, _, hreceived⟩ :=
    (represents_initial cache runtime Heap.clean_initial handler).run hadds hrun
  have hall : received labels = atomic.published ++ bridge.network.message := hreceived
  have hbatches := forall₂_filterMap (f := client.expectedBatch runtime) atomic.published
    fun message hmessage => MqttClient.expectedBatch_of_handlers rfl
      (hhandlers message (hall ▸ List.mem_append_left _ hmessage))
  have hsubscribed : bridge.subscribed =
      (config.routes platform).subscriptions.filter (grantedAfter labels) :=
    subscribed_run hstart (by simp [initial]) hrun
  refine ⟨hhandlers, ⟨atomic.published, _, hall, hbatches.imp fun message batch hbatch => ?_,
    hrepresents.cached⟩, fun filter => ?_⟩
  · have hmeans : config.Means runtime platform filterMatches message (some batch) := by
      rw [← hbatch]
      exact BridgeConfig.means_expectedBatch hkeeps message
    exact ⟨hmeans, hmeans.covers⟩
  · rw [hsubscribed, List.mem_filter, BridgeConfig.mem_subscriptions_iff hsearch, and_comm]

/-- So is the message of the temperature example, which comes after a refused connection: its batch
is not empty and makes the cache what it is. -/
theorem Bridge.delivered_published_temperature :
    ∃ (bridge : Bridge (List MetricData) (Fin 1)) (batch : List MetricData),
      runSteps (step .reference .reference .reference) temperature temperatureSteps =
          some bridge ∧
        BridgeConfig.temperature.Means .reference .reference (· == ·)
          ⟨"home/kitchen", "\x7b\"temperature\": 21.5\x7d", 2⟩ (some batch) ∧
        bridge.cache = MetricDataCache.reference.add [] batch ∧
        bridge.cache.map (fun data => (data.id.name, data.value)) =
          [("room_temperature", "21.5")] ∧
        "home/kitchen" ∈ bridge.subscribed := by
  have hkeeps := Topics.keeps_firstAdded (· == ·) (BridgeConfig.temperature.routes .reference).added
  obtain ⟨bridge, hrun, hvalues, hidle, hsubscribed⟩ : ∃ bridge,
      runSteps (step .reference .reference .reference) temperature temperatureSteps =
        some bridge ∧
      bridge.cache.map (fun data => (data.id.name, data.value)) =
        [("room_temperature", "21.5")] ∧
      bridge.network.message = [] ∧ bridge.subscribed = ["home/kitchen"] :=
    ⟨_, rfl, by decide, rfl, by decide⟩
  obtain ⟨_, ⟨published, batches, hreceived, hbatches, hcached⟩, _⟩ := delivered_published
    .reference .reference Platform.addsNoHelp_reference .reference (fun _ _ _ => rfl) .reference
    (· == ·) .temperature .temperature _ hkeeps ⟨true, [], []⟩ temperatureSteps bridge (by decide)
    hrun
  rw [hidle, List.append_nil] at hreceived
  rw [← hreceived] at hbatches
  obtain ⟨batch, rest, ⟨hmeans, _⟩, hrest, rfl⟩ := List.forall₂_cons_left_iff.mp hbatches
  rw [List.forall₂_nil_left_iff.mp hrest] at hcached
  exact ⟨bridge, batch, hrun, hmeans, hcached, hvalues, by rw [hsubscribed]; simp⟩

end MqttBridge
