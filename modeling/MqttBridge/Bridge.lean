import MqttBridge.ConcurrentScrapes
import MqttBridge.Interpretation
import MqttBridge.Library.Simulation

/-!
# The running bridge

One thread runs the network loop: it opens and loses connections, and on each message it dispatches
the payload to one handler after the other before it adds the batch to the metric cache. The web
server's threads serve GETs meanwhile. Their steps interleave freely, and only a single `Add` or
`Visit` of the cache excludes the other. To its users the bridge is simpler: a message is published
at once, and a scrape sees what was published before some point of its own duration. The first
description is shown to refine the second one.
-/

namespace MqttBridge

/-- `yy_prometheus::MetricDataCache` as its users know it: an empty cache, `Add`, and the samples
that `Visit` calls its visitor with. -/
structure MetricDataCache (κ : Type*) where
  empty : κ
  add : κ → List MetricData → κ
  visit : κ → List MetricData

/-- What the network thread is doing: it waits for the next callback, or it is in `on_message` with
some handlers left to call. -/
inductive NetworkPhase
  | idle
  | dispatching (message : Message) (handlers : List MqttHandler) (dispatch : Dispatch)

/-- The bridge: the client with its connection and the filters subscribed to on it, what the network
thread is doing, the cache, and the web handler with the GETs it serves. -/
structure Bridge (κ ι : Type*) where
  client : MqttClient
  isConnected : Bool
  subscribed : List String
  network : NetworkPhase
  cache : κ
  scrapes : Scrapes ι

/-- The steps of `DoGet`; what a visit sees is up to the cache. -/
inductive GetCall
  | clearBody
  | visit
  | formatHeader
  | writeHeader
  | writeBody
deriving DecidableEq, Repr

/-- The step of a `DoGet` whose visit sees some samples. -/
def GetCall.step (samples : List MetricData) : GetCall → GetStep
  | clearBody => .clearBody
  | visit => .visit samples
  | formatHeader => .formatHeader
  | writeHeader => .writeHeader
  | writeBody => .writeBody

/-- The steps of the bridge: the callbacks of a connection, those of `on_message`, and those of a
GET. A connection comes with the broker's answer `rc`, zero if it accepts, and with the filters it
grants of those the bridge asks for. -/
inductive BridgeStep (ι : Type*)
  | connect (rc : ℤ) (granted : String → Bool)
  | disconnect
  | receive (message : Message)
  | handle
  | add
  | get (request : ι) (call : GetCall)

/-- The message is dispatched: there is a cache to publish to, and a filter that matches. -/
def MqttClient.dispatches (platform : Platform) (client : MqttClient) (message : Message) : Bool :=
  client.metricCache && !(client.topics.find (platform.topicTrim message.topic)).isEmpty

namespace Bridge

variable {κ ι : Type*} [DecidableEq ι]

/-- The bridge when `main` has created the client: not connected, with an empty cache. -/
def initial (cache : MetricDataCache κ) (client : MqttClient) (handler : PrometheusWebHandler) :
    Bridge κ ι :=
  ⟨client, false, [], .idle, cache.empty, .initial handler⟩

/-- One step. `on_connect` takes any answer for a connection and asks for all filters; on a
connection that was refused it asks in vain. -/
def step (cache : MetricDataCache κ) (platform : Platform) (webPlatform : WebPlatform)
    (bridge : Bridge κ ι) (label : BridgeStep ι) : Option (Bridge κ ι) :=
  match label, bridge.network with
  | .connect rc granted, .idle =>
    some { bridge with
      isConnected := true
      subscribed := if rc = 0 then bridge.client.onConnect.filter granted else [] }
  | .disconnect, .idle => some { bridge with isConnected := false, subscribed := [] }
  | .receive message, .idle =>
    if bridge.client.dispatches platform message then
      let topic := platform.topicTrim message.topic
      some { bridge with
        client := { bridge.client with path := platform.topicTokenizeView topic }
        network := .dispatching message (bridge.client.topics.handlers topic)
          (Dispatch.start bridge.client.heap) }
    else some bridge
  | .handle, .dispatching message (handler :: handlers) dispatch =>
    let topic := platform.topicTrim message.topic
    let dispatch :=
      dispatch.step platform message.payload topic bridge.client.path message.now handler
    some { bridge with network := .dispatching message handlers dispatch }
  | .add, .dispatching _ [] dispatch =>
    some { bridge with
      client := ({ bridge.client with heap := dispatch.heap } : MqttClient).addBatch platform
      network := .idle
      cache := cache.add bridge.cache dispatch.heap.metricData.live }
  | .get request call, _ =>
    (bridge.scrapes.step webPlatform (request, call.step (cache.visit bridge.cache))).map
      fun scrapes => { bridge with scrapes := scrapes }
  | _, _ => none

end Bridge

/-- The bridge as its users see it: the messages published so far, and for each GET that has taken
its snapshot the messages published before. -/
structure AtomicBridge (ι : Type*) where
  published : List Message
  seen : ι → Option (List Message)

/-- A message is published, or a GET takes its snapshot. -/
inductive AtomicStep (ι : Type*)
  | publish (message : Message)
  | snapshot (request : ι)

namespace AtomicBridge

variable {ι : Type*} [DecidableEq ι]

/-- Nothing is published and no GET has taken a snapshot. -/
def initial : AtomicBridge ι := ⟨[], fun _ => none⟩

/-- One step. A GET takes one snapshot. -/
def step (bridge : AtomicBridge ι) : AtomicStep ι → Option (AtomicBridge ι)
  | .publish message => some { bridge with published := bridge.published ++ [message] }
  | .snapshot request =>
    match bridge.seen request with
    | none => some { bridge with seen := Function.update bridge.seen request bridge.published }
    | some _ => none

end AtomicBridge

namespace Bridge

variable {κ ι : Type*} [DecidableEq ι]

/-- When a step of the bridge takes effect: a message that is dispatched is published as its batch
is added, one that is not as it is received, and a GET takes its snapshot as it visits the cache. -/
def effect (platform : Platform) (bridge : Bridge κ ι) (label : BridgeStep ι) :
    List (AtomicStep ι) :=
  match label, bridge.network with
  | .receive message, _ =>
    if bridge.client.dispatches platform message then [] else [.publish message]
  | .add, .dispatching message _ _ => [.publish message]
  | .get request .visit, _ => [.snapshot request]
  | _, _ => []

end Bridge

/-- The cache after some messages of a client: their expected batches were added in order. -/
def MetricDataCache.after {κ : Type*} (cache : MetricDataCache κ) (platform : Platform)
    (client : MqttClient) (messages : List Message) : κ :=
  (messages.filterMap (client.expectedBatch platform)).foldl cache.add cache.empty

/-- The message being dispatched, if there is one. -/
def NetworkPhase.message : NetworkPhase → List Message
  | idle => []
  | dispatching message _ _ => [message]

/-- The messages a run receives. -/
def received {ι : Type*} (labels : List (BridgeStep ι)) : List Message :=
  labels.filterMap fun label =>
    match label with
    | .receive message => some message
    | _ => none

namespace Bridge

variable {κ ι : Type*} [DecidableEq ι]

/-- What a step can do, with the condition it is taken under. -/
inductive Moves (cache : MetricDataCache κ) (platform : Platform) (webPlatform : WebPlatform)
    (bridge : Bridge κ ι) : BridgeStep ι → Bridge κ ι → Prop
  | connect (rc : ℤ) (granted : String → Bool) (hidle : bridge.network = .idle) :
    Moves cache platform webPlatform bridge (.connect rc granted)
      { bridge with
        isConnected := true
        subscribed := if rc = 0 then bridge.client.onConnect.filter granted else [] }
  | disconnect (hidle : bridge.network = .idle) :
    Moves cache platform webPlatform bridge .disconnect
      { bridge with isConnected := false, subscribed := [] }
  | ignore (message : Message) (hidle : bridge.network = .idle)
      (hdispatches : bridge.client.dispatches platform message = false) :
    Moves cache platform webPlatform bridge (.receive message) bridge
  | receive (message : Message) (hidle : bridge.network = .idle)
      (hdispatches : bridge.client.dispatches platform message = true) :
    Moves cache platform webPlatform bridge (.receive message)
      { bridge with
        client :=
          { bridge.client with
            path := platform.topicTokenizeView (platform.topicTrim message.topic) }
        network := .dispatching message
          (bridge.client.topics.handlers (platform.topicTrim message.topic))
          (Dispatch.start bridge.client.heap) }
  | handle (message : Message) (handler : MqttHandler) (handlers : List MqttHandler)
      (dispatch : Dispatch)
      (hnetwork : bridge.network = .dispatching message (handler :: handlers) dispatch) :
    Moves cache platform webPlatform bridge .handle
      { bridge with
        network := .dispatching message handlers
          (dispatch.step platform message.payload (platform.topicTrim message.topic)
            bridge.client.path message.now handler) }
  | add (message : Message) (dispatch : Dispatch)
      (hnetwork : bridge.network = .dispatching message [] dispatch) :
    Moves cache platform webPlatform bridge .add
      { bridge with
        client := ({ bridge.client with heap := dispatch.heap } : MqttClient).addBatch platform
        network := .idle
        cache := cache.add bridge.cache dispatch.heap.metricData.live }
  | get (request : ι) (call : GetCall) (scrapes : Scrapes ι)
      (hscrapes : bridge.scrapes.step webPlatform
        (request, call.step (cache.visit bridge.cache)) = some scrapes) :
    Moves cache platform webPlatform bridge (.get request call) { bridge with scrapes := scrapes }

/-- Each step is one of the moves. -/
theorem moves_of_step {cache : MetricDataCache κ} {platform : Platform}
    {webPlatform : WebPlatform} {bridge bridge' : Bridge κ ι} {label : BridgeStep ι}
    (hstep : bridge.step cache platform webPlatform label = some bridge') :
    bridge.Moves cache platform webPlatform label bridge' := by
  unfold step at hstep
  split at hstep
  · rename_i hidle
    cases hstep
    exact .connect _ _ hidle
  · rename_i hidle
    cases hstep
    exact .disconnect hidle
  · rename_i hidle
    split at hstep
    · rename_i hdispatches
      cases hstep
      exact .receive _ hidle hdispatches
    · rename_i hdispatches
      cases hstep
      exact .ignore _ hidle (by simpa using hdispatches)
  · rename_i hnetwork
    cases hstep
    exact .handle _ _ _ _ hnetwork
  · rename_i hnetwork
    cases hstep
    exact .add _ _ hnetwork
  · obtain ⟨scrapes, hscrapes, rfl⟩ := Option.map_eq_some_iff.mp hstep
    exact .get _ _ scrapes hscrapes
  · cases hstep

end Bridge

namespace Bridge

variable {κ ι : Type*} [DecidableEq ι] (cache : MetricDataCache κ) (platform : Platform)
  (webPlatform : WebPlatform) (bridge : Bridge κ ι) (message : Message)

/-- The handlers left to call, called with no other step between them. -/
theorem runSteps_handle (handlers : List MqttHandler) (dispatch : Dispatch) :
    runSteps (step cache platform webPlatform)
        { bridge with network := .dispatching message handlers dispatch }
        (handlers.map fun _ => .handle) =
      some { bridge with
        network := .dispatching message []
          (handlers.foldl (Dispatch.step platform message.payload
            (platform.topicTrim message.topic) bridge.client.path message.now) dispatch) } := by
  induction handlers generalizing dispatch with
  | nil => rfl
  | cons handler handlers ih => exact ih _

/-- The steps of one message with no other step between them are one `on_message`, and its batch
goes to the cache. -/
theorem runSteps_onMessage (hidle : bridge.network = .idle) :
    runSteps (step cache platform webPlatform) bridge
        (.receive message :: if bridge.client.dispatches platform message then
          ((bridge.client.topics.handlers (platform.topicTrim message.topic)).map fun _ =>
            .handle) ++ [.add] else []) =
      some { bridge with
        client := (bridge.client.onMessage platform message).client
        cache := (bridge.client.onMessage platform message).added.elim bridge.cache
          (cache.add bridge.cache) } := by
  obtain ⟨client, isConnected, subscribed, network, cached, scrapes⟩ := bridge
  dsimp only at hidle
  subst hidle
  cases hdispatches : client.dispatches platform message with
  | false =>
    have hnone : client.onMessage platform message = ⟨client, [], none⟩ := by
      unfold MqttClient.onMessage
      unfold MqttClient.dispatches at hdispatches
      by_cases hcache : client.metricCache = true <;> simp_all
    rw [hnone]
    simp [runSteps, step, hdispatches]
  | true =>
    obtain ⟨hcache, hfind⟩ : client.metricCache = true ∧
        (client.topics.find (platform.topicTrim message.topic)).isEmpty = false := by
      simpa [MqttClient.dispatches] using hdispatches
    have hreceive : (⟨client, isConnected, subscribed, .idle, cached, scrapes⟩ : Bridge κ ι).step
        cache platform webPlatform (.receive message) =
        some ⟨{ client with path := platform.topicTokenizeView (platform.topicTrim message.topic) },
          isConnected, subscribed, .dispatching message
            (client.topics.handlers (platform.topicTrim message.topic))
            (Dispatch.start client.heap), cached, scrapes⟩ := if_pos hdispatches
    have hhandle := runSteps_handle cache platform webPlatform
      (⟨{ client with path := platform.topicTokenizeView (platform.topicTrim message.topic) },
        isConnected, subscribed, .idle, cached, scrapes⟩ : Bridge κ ι) message
      (client.topics.handlers (platform.topicTrim message.topic)) (Dispatch.start client.heap)
    rw [if_pos rfl, runSteps, hreceive, Option.bind_some, runSteps_append, hhandle,
      Option.bind_some, MqttClient.onMessage, if_pos hcache]
    dsimp only
    rw [hfind, if_neg Bool.false_ne_true, ← List.foldl_flatten]
    rfl

end Bridge

/-- What the network thread has collected: between messages the heap is clean, and while a message
is dispatched the records collected and those its remaining handlers emit make its batch. -/
def NetworkPhase.Collecting (platform : Platform) (client : MqttClient) : NetworkPhase → Prop
  | idle => client.heap.Clean
  | dispatching message handlers dispatch =>
    dispatch.heap.Clean ∧
      client.path = platform.topicTokenizeView (platform.topicTrim message.topic) ∧
      client.expectedBatch platform message = some (dispatch.heap.metricData.live ++
        (handlers.flatMap fun handler => handler.calls platform message.payload
          (platform.topicTrim message.topic) client.path message.now).map MetricCall.emit)

/-- A GET's snapshot is what the cache shows after the messages it has seen; before its visit it has
seen none. -/
structure Request.Sees {κ : Type*} (cache : MetricDataCache κ) (platform : Platform)
    (client : MqttClient) (seen : Option (List Message)) (request : Request) : Prop where
  snapshot : request.snapshot =
    seen.map fun published => cache.visit (cache.after platform client published)
  unseen : request.phase = .started ∨ request.phase = .cleared → seen = none

/-- What a state of the bridge stands for: its cache is the one after the messages published, and
each GET's snapshot is what it shows after those published before the visit. -/
structure Bridge.Represents {κ ι : Type*} (cache : MetricDataCache κ) (platform : Platform)
    (client : MqttClient) (bridge : Bridge κ ι) (atomic : AtomicBridge ι) : Prop where
  topics : bridge.client.topics = client.topics
  metricCache : bridge.client.metricCache = client.metricCache
  network : bridge.network.Collecting platform bridge.client
  cached : bridge.cache = cache.after platform client atomic.published
  requests : ∀ i, (bridge.scrapes.requests i).Sees cache platform client (atomic.seen i)

section Messages

variable {platform : Platform} {client client' : MqttClient} {message : Message}

/-- The expected batch depends on the topics and the cache pointer only. -/
theorem MqttClient.expectedBatch_congr (htopics : client'.topics = client.topics)
    (hcache : client'.metricCache = client.metricCache) (message : Message) :
    client'.expectedBatch platform message = client.expectedBatch platform message := by
  rw [expectedBatch, expectedBatch, htopics, hcache]

/-- A message has a batch exactly if it is dispatched, that of its events. -/
theorem MqttClient.expectedBatch_eq (client : MqttClient) (message : Message) :
    client.expectedBatch platform message =
      if client.dispatches platform message then
        some ((client.topics.calls platform message).map MetricCall.emit)
      else none := by
  rw [expectedBatch, dispatches]
  congr 1
  simp

/-- One more message adds its batch, if it has one. -/
theorem MetricDataCache.after_concat {κ : Type*} (cache : MetricDataCache κ) (platform : Platform)
    (client : MqttClient) (messages : List Message) (message : Message) :
    cache.after platform client (messages ++ [message]) =
      match client.expectedBatch platform message with
      | none => cache.after platform client messages
      | some batch => cache.add (cache.after platform client messages) batch := by
  unfold after
  rw [List.filterMap_append, List.foldl_append]
  cases hbatch : client.expectedBatch platform message <;> simp [hbatch]

end Messages

section Network

variable {platform : Platform} {client : MqttClient}

/-- Receiving a message that is dispatched starts an empty batch. -/
theorem NetworkPhase.Collecting.receive (h : client.heap.Clean) {message : Message}
    (hdispatches : client.dispatches platform message = true) :
    (NetworkPhase.dispatching message
      (client.topics.handlers (platform.topicTrim message.topic))
      (Dispatch.start client.heap)).Collecting platform
        { client with path := platform.topicTokenizeView (platform.topicTrim message.topic) } := by
  refine ⟨Dispatch.clean_start h, rfl, ?_⟩
  have hbatch : client.expectedBatch platform message =
      some ((client.topics.calls platform message).map MetricCall.emit) := by
    rw [MqttClient.expectedBatch_eq, if_pos hdispatches]
  exact hbatch

/-- Calling the next handler moves the records it emits into the batch. -/
theorem NetworkPhase.Collecting.handle {message : Message} {handler : MqttHandler}
    {handlers : List MqttHandler} {dispatch : Dispatch}
    (h : (dispatching message (handler :: handlers) dispatch).Collecting platform client) :
    (dispatching message handlers
      (dispatch.step platform message.payload (platform.topicTrim message.topic) client.path
        message.now handler)).Collecting platform client := by
  obtain ⟨hclean, hpath, hbatch⟩ := h
  obtain ⟨hclean', hlive⟩ := Dispatch.step_spec platform message.payload
    (platform.topicTrim message.topic) client.path message.now handler hclean
  refine ⟨hclean', hpath, ?_⟩
  rw [hbatch, hlive, List.flatMap_cons, List.map_append, List.append_assoc]

end Network

namespace Bridge

variable {κ ι : Type*} {cache : MetricDataCache κ} {platform : Platform} {client : MqttClient}
  {bridge : Bridge κ ι} {atomic : AtomicBridge ι}

/-- Publishing a message leaves every snapshot as it is. -/
theorem Represents.publish (h : bridge.Represents cache platform client atomic) (message : Message)
    {bridge' : Bridge κ ι} (htopics : bridge'.client.topics = bridge.client.topics)
    (hcache : bridge'.client.metricCache = bridge.client.metricCache)
    (hnetwork : bridge'.network.Collecting platform bridge'.client)
    (hcached : bridge'.cache = cache.after platform client (atomic.published ++ [message]))
    (hscrapes : bridge'.scrapes = bridge.scrapes) :
    bridge'.Represents cache platform client
      { atomic with published := atomic.published ++ [message] } where
  topics := htopics.trans h.topics
  metricCache := hcache.trans h.metricCache
  network := hnetwork
  cached := hcached
  requests := by rw [hscrapes]; exact h.requests

/-- A step of one GET changes what the others have seen in no way. -/
theorem Represents.get [DecidableEq ι] (h : bridge.Represents cache platform client atomic)
    (i : ι) (handler : PrometheusWebHandler) {request : Request} {seen : Option (List Message)}
    (hsees : request.Sees cache platform client seen) :
    ({ bridge with
      scrapes := ⟨handler, Function.update bridge.scrapes.requests i request⟩ } :
        Bridge κ ι).Represents cache platform client
      { atomic with seen := Function.update atomic.seen i seen } where
  topics := h.topics
  metricCache := h.metricCache
  network := h.network
  cached := h.cached
  requests := fun j => by
    by_cases hj : j = i
    · subst hj
      simpa only [Function.update_self] using hsees
    · simpa only [Function.update_of_ne hj] using h.requests j

/-- A GET has seen nothing more after a step other than its visit. -/
theorem Represents.get_same [DecidableEq ι] (h : bridge.Represents cache platform client atomic)
    (i : ι) (handler : PrometheusWebHandler) {request : Request}
    (hsnapshot : request.snapshot = (bridge.scrapes.requests i).snapshot)
    (hphase : request.phase = .started ∨ request.phase = .cleared →
      (bridge.scrapes.requests i).phase = .started ∨
        (bridge.scrapes.requests i).phase = .cleared) :
    ({ bridge with
      scrapes := ⟨handler, Function.update bridge.scrapes.requests i request⟩ } :
        Bridge κ ι).Represents cache platform client atomic := by
  have hsees : request.Sees cache platform client (atomic.seen i) :=
    ⟨hsnapshot.trans (h.requests i).snapshot, fun hunseen => (h.requests i).unseen (hphase hunseen)⟩
  have hget := h.get i handler hsees
  rwa [Function.update_eq_self] at hget

end Bridge

/-- Every step of the bridge is matched by its effect. -/
theorem Bridge.simulates {κ ι : Type*} [DecidableEq ι] (cache : MetricDataCache κ)
    (platform : Platform) (hadds : platform.AddsNoHelp) (webPlatform : WebPlatform)
    (client : MqttClient) :
    Simulates (step (ι := ι) cache platform webPlatform) (fun _ _ => True)
      AtomicBridge.step (effect platform)
      fun bridge atomic => bridge.Represents cache platform client atomic := by
  intro bridge atomic label bridge' h _ hstep
  cases moves_of_step hstep with
  | connect | disconnect =>
    exact ⟨atomic, rfl, h.topics, h.metricCache, h.network, h.cached, h.requests⟩
  | ignore message hidle hdispatches =>
    have hbatch : client.expectedBatch platform message = none := by
      rw [← MqttClient.expectedBatch_congr h.topics h.metricCache, MqttClient.expectedBatch_eq,
        hdispatches]
      rfl
    refine ⟨{ atomic with published := atomic.published ++ [message] }, ?_,
      h.publish message rfl rfl h.network ?_ rfl⟩
    · simp [effect, hdispatches, runSteps, AtomicBridge.step]
    · rw [cache.after_concat, hbatch]
      exact h.cached
  | receive message hidle hdispatches =>
    have hclean := h.network
    rw [hidle] at hclean
    refine ⟨atomic, ?_, h.topics, h.metricCache, .receive hclean hdispatches, h.cached, h.requests⟩
    simp [effect, hdispatches, runSteps]
  | handle message handler handlers dispatch hnetwork =>
    have hcollecting := h.network
    rw [hnetwork] at hcollecting
    refine ⟨atomic, ?_, h.topics, h.metricCache, hcollecting.handle, h.cached, h.requests⟩
    simp [effect, runSteps]
  | add message dispatch hnetwork =>
    have hcollecting := h.network
    rw [hnetwork] at hcollecting
    obtain ⟨hclean, _, hbatch⟩ := hcollecting
    rw [MqttClient.expectedBatch_congr h.topics h.metricCache, List.flatMap_nil, List.map_nil,
      List.append_nil] at hbatch
    refine ⟨{ atomic with published := atomic.published ++ [message] }, ?_,
      h.publish message rfl rfl (MqttClient.clean_addBatch platform hadds hclean) ?_ rfl⟩
    · simp [effect, hnetwork, runSteps, AtomicBridge.step]
    · rw [cache.after_concat, hbatch, h.cached]
  | get request call scrapes hscrapes =>
    obtain ⟨⟨handler', request'⟩, happly, rfl⟩ := Option.map_eq_some_iff.mp hscrapes
    have hmoves := GetStep.moves_of_apply happly
    cases call with
    | visit =>
      simp only [GetCall.step] at hmoves
      cases hmoves with
      | visit _ hphase =>
        have hunseen := (h.requests request).unseen (Or.inr hphase)
        refine ⟨{ atomic with seen := Function.update atomic.seen request (some atomic.published) },
          ?_, h.get request _ ⟨?_, ?_⟩⟩
        · simp [effect, runSteps, AtomicBridge.step, hunseen]
        · rw [Option.map_some, ← h.cached]
        · simp
    | clearBody =>
      simp only [GetCall.step] at hmoves
      cases hmoves with
      | clearBody hphase =>
        exact ⟨atomic, rfl, h.get_same request _ rfl fun _ => Or.inl hphase⟩
    | formatHeader | writeHeader | writeBody =>
      simp only [GetCall.step] at hmoves
      cases hmoves with
      | _ hphase => exact ⟨atomic, rfl, h.get_same request _ rfl (by simp)⟩

/-- A bridge that has just been set up has published nothing. -/
theorem Bridge.represents_initial {κ ι : Type*} (cache : MetricDataCache κ) (platform : Platform)
    {client : MqttClient} (hclean : client.heap.Clean) (handler : PrometheusWebHandler) :
    (initial cache client handler : Bridge κ ι).Represents cache platform client .initial where
  topics := rfl
  metricCache := rfl
  network := hclean
  cached := rfl
  requests := fun _ => ⟨rfl, fun _ => rfl⟩

/-- The messages published by some atomic steps. -/
def AtomicStep.published {ι : Type*} (labels : List (AtomicStep ι)) : List Message :=
  labels.filterMap fun label =>
    match label with
    | .publish message => some message
    | .snapshot _ => none

namespace AtomicBridge

variable {ι : Type*} [DecidableEq ι]

/-- A run publishes the messages of its steps, in order. -/
theorem published_of_run {labels : List (AtomicStep ι)} {bridge bridge' : AtomicBridge ι}
    (hrun : runSteps step bridge labels = some bridge') :
    bridge'.published = bridge.published ++ AtomicStep.published labels := by
  induction labels generalizing bridge with
  | nil =>
    cases hrun
    simp [AtomicStep.published]
  | cons label labels ih =>
    obtain ⟨next, hnext, hrun⟩ := Option.bind_eq_some_iff.mp hrun
    rw [ih hrun]
    cases label with
    | publish message =>
      cases hnext
      simp [AtomicStep.published]
    | snapshot request =>
      have hsame : next.published = bridge.published := by
        simp only [step] at hnext
        split at hnext
        · cases hnext
          rfl
        · cases hnext
      rw [hsame]
      rfl

/-- What has been seen since some state of the bridge: GETs that had seen something still have, and
the others have seen at least what was published then. -/
structure Since (past bridge : AtomicBridge ι) : Prop where
  published : past.published <+: bridge.published
  kept : ∀ i seen, past.seen i = some seen → bridge.seen i = some seen
  fresh : ∀ i seen, past.seen i = none → bridge.seen i = some seen →
    past.published <+: seen ∧ seen <+: bridge.published

/-- Each step leaves the snapshots taken as they are, and takes a new one of all that is
published. -/
theorem Since.step {past bridge bridge' : AtomicBridge ι} {label : AtomicStep ι}
    (h : past.Since bridge) (hstep : bridge.step label = some bridge') : past.Since bridge' := by
  cases label with
  | publish message =>
    cases hstep
    have hgrows : bridge.published <+: bridge.published ++ [message] := List.prefix_append _ _
    refine ⟨h.published.trans hgrows, h.kept, fun i seen hunseen hseen => ?_⟩
    obtain ⟨hpast, hpublished⟩ := h.fresh i seen hunseen hseen
    exact ⟨hpast, hpublished.trans hgrows⟩
  | snapshot request =>
    simp only [AtomicBridge.step] at hstep
    split at hstep
    · rename_i hnone
      cases hstep
      refine ⟨h.published, fun i seen hseen => ?_, fun i seen hunseen hseen => ?_⟩
      · by_cases hi : i = request
        · subst hi
          exact absurd (h.kept i seen hseen) (by simp [hnone])
        · simpa only [Function.update_of_ne hi] using h.kept i seen hseen
      · by_cases hi : i = request
        · subst hi
          simp only [Function.update_self, Option.some.injEq] at hseen
          exact hseen ▸ ⟨h.published, List.prefix_rfl⟩
        · simp only [Function.update_of_ne hi] at hseen
          exact h.fresh i seen hunseen hseen
    · cases hstep

/-- So does every run. -/
theorem since_of_run {labels : List (AtomicStep ι)} {bridge bridge' : AtomicBridge ι}
    (hrun : runSteps AtomicBridge.step bridge labels = some bridge') : bridge.Since bridge' := by
  have hstart : bridge.Since bridge :=
    ⟨List.prefix_rfl, fun _ _ h => h, fun _ _ hnone hsome => by simp [hnone] at hsome⟩
  have hguard : Guarded AtomicBridge.step (fun _ _ => True) bridge labels :=
    .of_forall (fun _ _ _ => trivial) bridge
  exact Guarded.invariant (motive := fun state => bridge.Since state)
    (fun _ _ _ h _ hstep => h.step hstep) hstart hguard hrun

end AtomicBridge

namespace Bridge

variable {κ ι : Type*} [DecidableEq ι] {cache : MetricDataCache κ} {platform : Platform}
  {webPlatform : WebPlatform}

/-- Each step hands a message on from the network to the message being dispatched, and from there
to the ones published. -/
theorem message_append_step {bridge bridge' : Bridge κ ι} {label : BridgeStep ι}
    (hstep : bridge.step cache platform webPlatform label = some bridge') :
    bridge.network.message ++ received [label] =
      AtomicStep.published (bridge.effect platform label) ++ bridge'.network.message := by
  cases moves_of_step hstep with
  | connect | disconnect => simp [received, effect, AtomicStep.published]
  | ignore message hidle hdispatches =>
    simp [received, effect, AtomicStep.published, hidle, hdispatches, NetworkPhase.message]
  | receive message hidle hdispatches =>
    simp [received, effect, AtomicStep.published, hidle, hdispatches, NetworkPhase.message]
  | handle message handler handlers dispatch hnetwork =>
    simp [received, effect, AtomicStep.published, hnetwork, NetworkPhase.message]
  | add message dispatch hnetwork =>
    simp [received, effect, AtomicStep.published, hnetwork, NetworkPhase.message]
  | get request call scrapes hscrapes =>
    cases call <;> simp [received, effect, AtomicStep.published]

/-- The messages received in a run are those published in it and the one being dispatched, in order;
one that was being dispatched before comes first. -/
theorem message_append_received {labels : List (BridgeStep ι)} {bridge bridge' : Bridge κ ι}
    (hrun : runSteps (step cache platform webPlatform) bridge labels = some bridge') :
    bridge.network.message ++ received labels =
      AtomicStep.published (matchedRun (step cache platform webPlatform) (effect platform) bridge
        labels) ++ bridge'.network.message := by
  induction labels generalizing bridge with
  | nil =>
    cases hrun
    simp [received, matchedRun, AtomicStep.published]
  | cons label labels ih =>
    obtain ⟨next, hnext, hrun⟩ := Option.bind_eq_some_iff.mp hrun
    have hreceived : received (label :: labels) = received [label] ++ received labels :=
      List.filterMap_append (l := [label])
    have hpublished : ∀ first rest : List (AtomicStep ι), AtomicStep.published (first ++ rest) =
        AtomicStep.published first ++ AtomicStep.published rest := fun _ _ =>
      List.filterMap_append
    rw [hreceived, ← List.append_assoc, message_append_step hnext, List.append_assoc, ih hrun,
      matchedRun, hnext, hpublished, List.append_assoc]

/-- A run of the bridge is explained by a run of the atomic one, which publishes the messages in the
order they were received. -/
theorem Represents.run (hadds : platform.AddsNoHelp) {client : MqttClient}
    {labels : List (BridgeStep ι)} {bridge bridge' : Bridge κ ι} {atomic : AtomicBridge ι}
    (h : bridge.Represents cache platform client atomic)
    (hrun : runSteps (step cache platform webPlatform) bridge labels = some bridge') :
    ∃ atomic', runSteps AtomicBridge.step atomic
        (matchedRun (step cache platform webPlatform) (effect platform) bridge labels) =
        some atomic' ∧
      bridge'.Represents cache platform client atomic' ∧ atomic.Since atomic' ∧
      atomic.published ++ (bridge.network.message ++ received labels) =
        atomic'.published ++ bridge'.network.message := by
  obtain ⟨atomic', hatomic, hrepresents⟩ :=
    (simulates cache platform hadds webPlatform client).run h
      (.of_forall (fun _ _ _ => trivial) _) hrun
  refine ⟨atomic', hatomic, hrepresents, AtomicBridge.since_of_run hatomic, ?_⟩
  rw [message_append_received hrun, AtomicBridge.published_of_run hatomic, List.append_assoc]

end Bridge

/-- The running bridge refines the atomic one. However the steps of the network thread and of any
number of GETs interleave, and however often the connection is lost, each run to a state of the
bridge is explained by one of the atomic bridge, step by step: a batch takes effect as a whole when
it is added, a snapshot when the cache is visited. The messages published are those received, in
order, without the one still being dispatched. The cache may leave anything in the batch it is given
but a help text. -/
theorem Bridge.refines_atomic {κ ι : Type*} [DecidableEq ι] (cache : MetricDataCache κ)
    (platform : Platform) (hadds : platform.AddsNoHelp) (webPlatform : WebPlatform)
    (topics : Topics) (subscriptions : List String) (metricCache : Bool)
    (handler : PrometheusWebHandler)
    (labels : List (BridgeStep ι)) (bridge : Bridge κ ι)
    (hrun : runSteps (step cache platform webPlatform)
      (initial cache (.create topics subscriptions metricCache) handler) labels = some bridge) :
    ∃ atomic, runSteps AtomicBridge.step .initial
        (matchedRun (step cache platform webPlatform) (effect platform)
          (initial cache (.create topics subscriptions metricCache) handler) labels) =
        some atomic ∧
      bridge.Represents cache platform (.create topics subscriptions metricCache) atomic ∧
      received labels = atomic.published ++ bridge.network.message := by
  obtain ⟨atomic, hatomic, hrepresents, _, hreceived⟩ :=
    (represents_initial cache platform Heap.clean_initial handler).run hadds hrun
  exact ⟨atomic, hatomic, hrepresents, hreceived⟩

/-- A cache that keeps the latest sample of each id with each labels. -/
def MetricDataCache.reference : MetricDataCache (List MetricData) where
  empty := []
  add := fun samples batch => batch.foldl (fun samples data =>
    (samples.filter fun old => ¬(old.id = data.id ∧ old.labels = data.labels)) ++ [data]) samples
  visit := fun samples => samples

/-- An automaton that finds one handler for every topic, which hands on the payload. -/
def Topics.everything : Topics :=
  ⟨fun _ => [[.value "sensor" [⟨0, .create ⟨"Temperature", ""⟩ "temperature" ⟨2⟩ .none .off [] []
    []⟩] 1]]⟩

/-- A bridge with two GETs, before its first step. -/
def Bridge.two : Bridge (List MetricData) (Fin 2) :=
  initial .reference (.create .everything ["#"] true) ⟨true, [], []⟩

/-- The first GET visits the cache while a message is being dispatched. -/
def Bridge.stepsBefore : List (BridgeStep (Fin 2)) :=
  [.connect 0 fun _ => true, .receive ⟨"home", "21.5", 1⟩, .get 0 .clearBody, .handle,
    .get 0 .visit]

/-- A visit while a message is being dispatched is explained by an atomic bridge. -/
theorem Bridge.refines_atomic_two :
    ∃ bridge atomic, runSteps (step .reference .reference .reference) two stepsBefore =
        some bridge ∧
      bridge.Represents .reference .reference (.create .everything ["#"] true) atomic := by
  obtain ⟨bridge, hrun⟩ : ∃ bridge,
      runSteps (step .reference .reference .reference) two stepsBefore = some bridge := ⟨_, rfl⟩
  obtain ⟨atomic, _, hrepresents, _⟩ := refines_atomic .reference .reference
    Platform.addsNoHelp_reference .reference .everything ["#"] true ⟨true, [], []⟩ stepsBefore
    bridge hrun
  exact ⟨bridge, atomic, hrun, hrepresents⟩

/-- Scrapes read monotonically and miss nothing. Take any point of any run, a GET that had its
snapshot by then and one that takes it later. The later one sees the messages the earlier one saw
and all others whose batch had been added by then; both see a part of the messages received, each
of these with its whole batch and in the order of their reception. -/
theorem Bridge.reads_monotone {κ ι : Type*} [DecidableEq ι] (cache : MetricDataCache κ)
    (platform : Platform) (hadds : platform.AddsNoHelp) (webPlatform : WebPlatform)
    (topics : Topics) (subscriptions : List String) (metricCache : Bool)
    (handler : PrometheusWebHandler)
    (before after : List (BridgeStep ι)) (mid bridge : Bridge κ ι)
    (hbefore : runSteps (step cache platform webPlatform)
      (initial cache (.create topics subscriptions metricCache) handler) before = some mid)
    (hafter : runSteps (step cache platform webPlatform) mid after = some bridge) (i j : ι)
    (samples samples' : List MetricData)
    (hi : (mid.scrapes.requests i).snapshot = some samples)
    (hj : (mid.scrapes.requests j).snapshot = none)
    (hj' : (bridge.scrapes.requests j).snapshot = some samples') :
    let client := MqttClient.create topics subscriptions metricCache
    ∃ seen published seen' : List Message,
      seen <+: published ∧ published <+: seen' ∧ seen' <+: received (before ++ after) ∧
        received before = published ++ mid.network.message ∧
        samples = cache.visit (cache.after platform client seen) ∧
        samples' = cache.visit (cache.after platform client seen') := by
  intro client
  obtain ⟨past, hpast, hmid, hsincePast, hreceived⟩ :=
    (represents_initial cache platform Heap.clean_initial handler).run hadds hbefore
  obtain ⟨atomic, _, hbridge, hsince, hreceived'⟩ := hmid.run hadds hafter
  rw [(hmid.requests i).snapshot, Option.map_eq_some_iff] at hi
  rw [(hmid.requests j).snapshot, Option.map_eq_none_iff] at hj
  rw [(hbridge.requests j).snapshot, Option.map_eq_some_iff] at hj'
  obtain ⟨seen, hseen, rfl⟩ := hi
  obtain ⟨seen', hseen', rfl⟩ := hj'
  obtain ⟨hfresh, hpublished⟩ := hsince.fresh j seen' hj hseen'
  refine ⟨seen, past.published, seen', (hsincePast.fresh i seen rfl hseen).2, hfresh, ?_,
    hreceived, rfl, rfl⟩
  have hall : received (before ++ after) = atomic.published ++ bridge.network.message := by
    have hreceivedBefore : received before = past.published ++ mid.network.message := hreceived
    rw [received, List.filterMap_append]
    change received before ++ received after = _
    rw [hreceivedBefore, List.append_assoc, hreceived']
  rw [hall]
  exact hpublished.trans (List.prefix_append _ _)

/-- The second GET visits the cache after the message was added: it sees it, the first one does
not. -/
theorem Bridge.reads_monotone_two :
    ∃ samples : List MetricData, samples ≠ [] ∧ ∃ seen : List Message,
      seen <+: [⟨"home", "21.5", 1⟩] ∧
        samples = MetricDataCache.reference.visit
          (MetricDataCache.reference.after .reference (.create .everything ["#"] true) seen) := by
  obtain ⟨mid, bridge, samples, hbefore, hafter, hi, hj, hj', hne⟩ : ∃ mid bridge samples,
      runSteps (step .reference .reference .reference) two stepsBefore = some mid ∧
        runSteps (step .reference .reference .reference) mid
          [.add, .get 1 .clearBody, .get 1 .visit] = some bridge ∧
        (mid.scrapes.requests 0).snapshot = some [] ∧
        (mid.scrapes.requests 1).snapshot = none ∧
        (bridge.scrapes.requests 1).snapshot = some samples ∧ samples ≠ [] :=
    ⟨_, _, _, rfl, rfl, rfl, rfl, rfl, List.cons_ne_nil _ _⟩
  obtain ⟨_, _, seen, _, _, hseen, _, _, hsamples⟩ := reads_monotone .reference .reference
    Platform.addsNoHelp_reference .reference .everything ["#"] true ⟨true, [], []⟩ stepsBefore _ mid
    bridge hbefore hafter 0 1 [] samples
    hi hj hj'
  exact ⟨samples, hne, seen, hseen, hsamples⟩

end MqttBridge
