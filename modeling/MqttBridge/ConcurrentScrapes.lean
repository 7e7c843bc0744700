import Mathlib.Data.Fintype.Basic
import Mathlib.Logic.Function.Basic
import MqttBridge.Library.Runs
import MqttBridge.WebHandler

/-!
# Several scrapes at once

The web server holds one handler object and may serve any number of GETs with it at the same
time. Body and header buffers are fields of that object, and only the visit of the cache is
locked, so the steps of several `DoGet` calls interleave freely on the same buffers. A response
is undisturbed as long as nobody changes the body between its serialisation and its writing.
-/

namespace MqttBridge

/-- The atomic steps of one `DoGet` call. What the cache holds at the visit is up to the step. -/
inductive GetStep
  | clearBody
  | visit (samples : List MetricData)
  | formatHeader
  | writeHeader
  | writeBody
deriving DecidableEq

/-- The last step a `DoGet` call has made. -/
inductive GetPhase
  | started
  | cleared
  | visited
  | formatted
  | headerWritten
  | finished
deriving DecidableEq, Repr

/-- One GET being served: where its `DoGet` call is, the snapshot its own visit took, and what was
written to its connection. -/
structure Request where
  phase : GetPhase := .started
  snapshot : Option (List MetricData) := none
  written : List Buffer := []
deriving DecidableEq

/-- The one handler object and the requests it serves. -/
structure Scrapes (ι : Type*) where
  handler : PrometheusWebHandler
  requests : ι → Request

/-- What a step does to the shared handler and to its own request, if it is the next one. -/
def GetStep.apply (platform : WebPlatform) (step : GetStep) (handler : PrometheusWebHandler)
    (request : Request) : Option (PrometheusWebHandler × Request) :=
  match step, request.phase with
  | .clearBody, .started => some (handler.clearBody, { request with phase := .cleared })
  | .visit samples, .cleared =>
    some (handler.visit platform samples,
      { request with phase := .visited, snapshot := some samples })
  | .formatHeader, .visited => some (handler.formatHeader, { request with phase := .formatted })
  | .writeHeader, .formatted =>
    some (handler,
      { request with phase := .headerWritten, written := request.written ++ [handler.header] })
  | .writeBody, .headerWritten =>
    some (handler,
      { request with phase := .finished, written := request.written ++ [handler.body] })
  | _, _ => none

namespace Scrapes

variable {ι : Type*} [DecidableEq ι]

/-- All requests have come in and none has made a step. -/
def initial (handler : PrometheusWebHandler) : Scrapes ι := ⟨handler, fun _ => {}⟩

/-- One step of one of the requests. -/
def step (platform : WebPlatform) (scrapes : Scrapes ι) (label : ι × GetStep) :
    Option (Scrapes ι) :=
  (label.2.apply platform scrapes.handler (scrapes.requests label.1)).map fun next =>
    ⟨next.1, Function.update scrapes.requests label.1 next.2⟩

end Scrapes

/-- The page of a snapshot, as the handler serves it. -/
def PrometheusWebHandler.served (platform : WebPlatform) (handler : PrometheusWebHandler)
    (samples : List MetricData) : Buffer :=
  page platform none (if handler.metricCache then samples else [])

section Handler

variable (platform : WebPlatform) (handler : PrometheusWebHandler) (samples : List MetricData)

@[simp] theorem PrometheusWebHandler.metricCache_visit :
    (handler.visit platform samples).metricCache = handler.metricCache := by
  rw [handler.visit_eq]

@[simp] theorem PrometheusWebHandler.body_visit :
    (handler.visit platform samples).body = handler.body ++ handler.served platform samples := by
  rw [handler.visit_eq]
  rfl

@[simp] theorem PrometheusWebHandler.header_visit :
    (handler.visit platform samples).header = handler.header := by
  rw [handler.visit_eq]

end Handler

/-- The steps of one request with no other step between them are one `DoGet`. -/
theorem Scrapes.runSteps_alone {ι : Type*} [DecidableEq ι] (platform : WebPlatform)
    (scrapes : Scrapes ι) (i : ι) (samples : List MetricData)
    (hstarted : scrapes.requests i = {}) :
    runSteps (step platform) scrapes
        [(i, .clearBody), (i, .visit samples), (i, .formatHeader), (i, .writeHeader),
          (i, .writeBody)] =
      some ⟨(scrapes.handler.doGet platform samples).1,
        Function.update scrapes.requests i
          ⟨.finished, some samples, (scrapes.handler.doGet platform samples).2⟩⟩ := by
  simp [runSteps, step, GetStep.apply, hstarted, PrometheusWebHandler.doGet]

/-- A finished response is a header from which a client reads its body's size, followed by the page
of the snapshot the request's own visit took. -/
def Scrapes.Undisturbed {ι : Type*} (platform : WebPlatform) (scrapes : Scrapes ι) : Prop :=
  ∀ i, (scrapes.requests i).phase = .finished →
    ∃ samples, (scrapes.requests i).snapshot = some samples ∧
      (scrapes.requests i).written =
        [httpResponse (scrapes.handler.served platform samples).length,
          scrapes.handler.served platform samples] ∧
      (scrapes.requests i).written.head?.bind contentLength =
        some (scrapes.handler.served platform samples).length

/-- A request has serialised its snapshot into the body and not yet written the body. -/
def Request.UsesBody (request : Request) : Prop :=
  request.phase = .visited ∨ request.phase = .formatted ∨ request.phase = .headerWritten

instance (request : Request) : Decidable request.UsesBody := inferInstanceAs (Decidable (_ ∨ _))

/-- The step changes the body only while no other request uses it, and serialises only into an
empty body. -/
def Scrapes.Exclusive {ι : Type*} (scrapes : Scrapes ι) (label : ι × GetStep) : Prop :=
  match label.2 with
  | .clearBody =>
    scrapes.handler.body = [] ∨ ∀ i, i ≠ label.1 → ¬(scrapes.requests i).UsesBody
  | .visit samples =>
    scrapes.handler.body = [] ∧ (scrapes.handler.metricCache = false ∨ samples = [] ∨
      ∀ i, i ≠ label.1 → ¬(scrapes.requests i).UsesBody)
  | .formatHeader | .writeHeader | .writeBody => True

instance {ι : Type*} [DecidableEq ι] [Fintype ι] (scrapes : Scrapes ι) (label : ι × GetStep) :
    Decidable (scrapes.Exclusive label) :=
  match label with
  | (_, .clearBody) => inferInstanceAs (Decidable (_ ∨ _))
  | (_, .visit _) => inferInstanceAs (Decidable (_ ∧ _))
  | (_, .formatHeader) | (_, .writeHeader) | (_, .writeBody) => isTrue trivial

/-- What a request may rely on between its steps: from its visit on, the body is its own page. -/
def Request.Consistent (platform : WebPlatform) (handler : PrometheusWebHandler)
    (request : Request) : Prop :=
  match request.phase with
  | .started | .cleared => request.written = []
  | .visited =>
    request.written = [] ∧ ∃ samples, request.snapshot = some samples ∧
      handler.body = handler.served platform samples
  | .formatted =>
    request.written = [] ∧ handler.header = httpResponse handler.body.length ∧
      ∃ samples, request.snapshot = some samples ∧ handler.body = handler.served platform samples
  | .headerWritten =>
    request.written = [httpResponse handler.body.length] ∧
      ∃ samples, request.snapshot = some samples ∧ handler.body = handler.served platform samples
  | .finished =>
    ∃ samples, request.snapshot = some samples ∧
      request.written = [httpResponse (handler.served platform samples).length,
        handler.served platform samples]

section Steps

variable {platform : WebPlatform} {handler handler' : PrometheusWebHandler} {request : Request}

/-- A request is not disturbed by a step of another one that leaves the body alone while it is
used, and the header too unless it is formatted anew. -/
theorem Request.Consistent.frame (h : request.Consistent platform handler)
    (hcache : handler'.metricCache = handler.metricCache)
    (hbody : request.UsesBody → handler'.body = handler.body)
    (hheader : handler'.header = handler.header ∨
      handler'.header = httpResponse handler'.body.length) :
    request.Consistent platform handler' := by
  have hserved : ∀ samples, handler'.served platform samples = handler.served platform samples :=
    fun samples => by rw [PrometheusWebHandler.served, hcache, PrometheusWebHandler.served]
  unfold Consistent at *
  cases hphase : request.phase with
  | started | cleared | finished => simpa only [hphase, hserved] using h
  | visited | headerWritten =>
    have hsame : handler'.body = handler.body := hbody (by simp [UsesBody, hphase])
    simpa only [hphase, hserved, hsame] using h
  | formatted =>
    have hsame : handler'.body = handler.body := hbody (by simp [UsesBody, hphase])
    rw [hphase] at h
    obtain ⟨hwritten, hold, hsnapshot⟩ := h
    refine ⟨hwritten, ?_, by simpa only [hserved, hsame] using hsnapshot⟩
    rcases hheader with hheader | hheader
    · rw [hheader, hsame, hold]
    · exact hheader

/-- What a step can do to the handler and to its own request. -/
inductive GetStep.Moves (platform : WebPlatform) (handler : PrometheusWebHandler)
    (request : Request) : GetStep → PrometheusWebHandler → Request → Prop
  | clearBody (hphase : request.phase = .started) :
    Moves platform handler request .clearBody handler.clearBody { request with phase := .cleared }
  | visit (samples : List MetricData) (hphase : request.phase = .cleared) :
    Moves platform handler request (.visit samples) (handler.visit platform samples)
      { request with phase := .visited, snapshot := some samples }
  | formatHeader (hphase : request.phase = .visited) :
    Moves platform handler request .formatHeader handler.formatHeader
      { request with phase := .formatted }
  | writeHeader (hphase : request.phase = .formatted) :
    Moves platform handler request .writeHeader handler
      { request with phase := .headerWritten, written := request.written ++ [handler.header] }
  | writeBody (hphase : request.phase = .headerWritten) :
    Moves platform handler request .writeBody handler
      { request with phase := .finished, written := request.written ++ [handler.body] }

/-- Each step is one of the moves. -/
theorem GetStep.moves_of_apply {step : GetStep} {request' : Request}
    (hstep : step.apply platform handler request = some (handler', request')) :
    step.Moves platform handler request handler' request' := by
  unfold apply at hstep
  split at hstep
  · rename_i hphase
    cases hstep
    exact .clearBody hphase
  · rename_i hphase
    cases hstep
    exact .visit _ hphase
  · rename_i hphase
    cases hstep
    exact .formatHeader hphase
  · rename_i hphase
    cases hstep
    exact .writeHeader hphase
  · rename_i hphase
    cases hstep
    exact .writeBody hphase
  · cases hstep

/-- A step keeps its own request consistent if the body is empty wherever it serialises. -/
theorem GetStep.Moves.consistent {step : GetStep} {request' : Request}
    (hmoves : step.Moves platform handler request handler' request')
    (h : request.Consistent platform handler)
    (hvisit : ∀ samples, step = .visit samples → handler.body = []) :
    request'.Consistent platform handler' := by
  unfold Request.Consistent at h
  cases hmoves with
  | clearBody hphase =>
    rw [hphase] at h
    exact h
  | visit samples hphase =>
    rw [hphase] at h
    have hserved : (handler.visit platform samples).served platform samples =
        handler.served platform samples := by simp [PrometheusWebHandler.served]
    have hbody : (handler.visit platform samples).body =
        (handler.visit platform samples).served platform samples := by
      rw [hserved, PrometheusWebHandler.body_visit, hvisit samples rfl, List.nil_append]
    exact ⟨h, samples, rfl, hbody⟩
  | formatHeader hphase =>
    rw [hphase] at h
    obtain ⟨hwritten, samples, hsnapshot, hbody⟩ := h
    have hserved : handler.formatHeader.served platform samples =
        handler.served platform samples := by simp [PrometheusWebHandler.served]
    refine ⟨hwritten, ?_, samples, hsnapshot, ?_⟩
    · rw [PrometheusWebHandler.header_formatHeader, PrometheusWebHandler.body_formatHeader]
    · rw [PrometheusWebHandler.body_formatHeader, hserved, hbody]
  | writeHeader hphase =>
    rw [hphase] at h
    obtain ⟨hwritten, hheader, hsnapshot⟩ := h
    exact ⟨by rw [hwritten, hheader, List.nil_append], hsnapshot⟩
  | writeBody hphase =>
    rw [hphase] at h
    obtain ⟨hwritten, samples, hsnapshot, hbody⟩ := h
    exact ⟨samples, hsnapshot, by rw [hwritten, hbody]; rfl⟩

/-- What a step does to the shared buffers: only clearing and serialising touch the body, and only
formatting touches the header. -/
theorem GetStep.Moves.frame {step : GetStep} {request' : Request}
    (hmoves : step.Moves platform handler request handler' request') :
    handler'.metricCache = handler.metricCache ∧
      (handler'.header = handler.header ∨ handler'.header = httpResponse handler'.body.length) ∧
      (handler'.body = handler.body ∨ step = .clearBody ∧ handler'.body = [] ∨
        ∃ samples, step = .visit samples ∧
          handler'.body = handler.body ++ handler.served platform samples) := by
  cases hmoves with
  | clearBody => exact ⟨rfl, Or.inl rfl, Or.inr (Or.inl ⟨rfl, rfl⟩)⟩
  | visit samples =>
    exact ⟨handler.metricCache_visit platform samples,
      Or.inl (handler.header_visit platform samples),
      Or.inr (Or.inr ⟨samples, rfl, handler.body_visit platform samples⟩)⟩
  | formatHeader =>
    rw [PrometheusWebHandler.body_formatHeader]
    exact ⟨handler.metricCache_formatHeader, Or.inr handler.header_formatHeader, Or.inl rfl⟩
  | writeHeader | writeBody => exact ⟨rfl, Or.inl rfl, Or.inl rfl⟩

end Steps

/-- Every request is consistent with the shared buffers. -/
def Scrapes.Consistent {ι : Type*} (platform : WebPlatform) (scrapes : Scrapes ι) : Prop :=
  ∀ i, (scrapes.requests i).Consistent platform scrapes.handler

/-- An exclusive step leaves the body alone while another request uses it. -/
theorem Scrapes.Exclusive.body_eq {ι : Type*} {platform : WebPlatform} {scrapes : Scrapes ι}
    {label : ι × GetStep} (hexclusive : scrapes.Exclusive label)
    {handler' : PrometheusWebHandler} {request' : Request}
    (hmoves : label.2.Moves platform scrapes.handler (scrapes.requests label.1) handler' request')
    {i : ι} (hi : i ≠ label.1) (huses : (scrapes.requests i).UsesBody) :
    handler'.body = scrapes.handler.body := by
  obtain ⟨_, _, hsame | ⟨hclear, hempty⟩ | ⟨samples, hvisit, happended⟩⟩ := hmoves.frame
  · exact hsame
  · unfold Exclusive at hexclusive
    rw [hclear] at hexclusive
    rcases hexclusive with hbody | hnone
    · rw [hempty, hbody]
    · exact absurd huses (hnone i hi)
  · unfold Exclusive at hexclusive
    rw [hvisit] at hexclusive
    rcases hexclusive.2 with hcache | hsamples | hnone
    · simp [happended, PrometheusWebHandler.served, hcache, page, announceChanges]
    · simp [happended, PrometheusWebHandler.served, hsamples, page, announceChanges]
    · exact absurd huses (hnone i hi)

/-- An exclusive step keeps every request consistent. -/
theorem Scrapes.Consistent.step {ι : Type*} [DecidableEq ι] {platform : WebPlatform}
    {scrapes scrapes' : Scrapes ι} {label : ι × GetStep} (h : scrapes.Consistent platform)
    (hexclusive : scrapes.Exclusive label)
    (hstep : scrapes.step platform label = some scrapes') : scrapes'.Consistent platform := by
  unfold Scrapes.step at hstep
  obtain ⟨⟨handler', request'⟩, happly, rfl⟩ := Option.map_eq_some_iff.mp hstep
  have hmoves := GetStep.moves_of_apply happly
  obtain ⟨hcache, hheader, _⟩ := hmoves.frame
  intro i
  by_cases hi : i = label.1
  · subst hi
    have hvisit : ∀ samples, label.2 = .visit samples → scrapes.handler.body = [] := by
      intro samples hlabel
      unfold Exclusive at hexclusive
      rw [hlabel] at hexclusive
      exact hexclusive.1
    simpa using hmoves.consistent (h label.1) hvisit
  · have hframe := (h i).frame hcache (hexclusive.body_eq hmoves hi) hheader
    simpa [Function.update_of_ne hi] using hframe

/-- Steps that are all exclusive keep every request consistent. -/
theorem Scrapes.consistent_of_exclusive {ι : Type*} [DecidableEq ι] (platform : WebPlatform)
    (handler : PrometheusWebHandler) {labels : List (ι × GetStep)} {scrapes : Scrapes ι}
    (hexclusive : Guarded (step platform) Exclusive (initial handler) labels)
    (hrun : runSteps (step platform) (initial handler) labels = some scrapes) :
    scrapes.Consistent platform := by
  have hinitial : (initial handler : Scrapes ι).Consistent platform := fun _ => rfl
  exact Guarded.invariant (motive := Consistent platform)
    (fun _ _ _ h hexclusive hstep => h.step hexclusive hstep) hinitial hexclusive hrun

/-- Requests that are consistent are undisturbed when they are finished. -/
theorem Scrapes.Consistent.undisturbed {ι : Type*} {platform : WebPlatform} {scrapes : Scrapes ι}
    (h : scrapes.Consistent platform) : scrapes.Undisturbed platform := by
  intro i hfinished
  have hrequest := h i
  unfold Request.Consistent at hrequest
  rw [hfinished] at hrequest
  obtain ⟨samples, hsnapshot, hwritten⟩ := hrequest
  refine ⟨samples, hsnapshot, hwritten, ?_⟩
  rw [hwritten, List.head?_cons, Option.bind_some, contentLength_httpResponse]

section Clashes

variable {ι : Type*} [DecidableEq ι] {platform : WebPlatform} {scrapes : Scrapes ι}

/-- A request that uses the body can finish with no other step in between, and writes the body as it
is. -/
theorem Scrapes.exists_finish (platform : WebPlatform) (scrapes : Scrapes ι) (i : ι)
    (huses : (scrapes.requests i).UsesBody) :
    ∃ later scrapes', runSteps (step platform) scrapes later = some scrapes' ∧
      scrapes'.handler.metricCache = scrapes.handler.metricCache ∧
      (scrapes'.requests i).phase = .finished ∧
      (scrapes'.requests i).snapshot = (scrapes.requests i).snapshot ∧
      (scrapes'.requests i).written.getLast? = some scrapes.handler.body := by
  obtain hphase | hphase | hphase := huses
  · refine ⟨[(i, .formatHeader), (i, .writeHeader), (i, .writeBody)], ?_⟩
    simp [runSteps, step, GetStep.apply, hphase, PrometheusWebHandler.formatHeader]
  · refine ⟨[(i, .writeHeader), (i, .writeBody)], ?_⟩
    simp [runSteps, step, GetStep.apply, hphase]
  · refine ⟨[(i, .writeBody)], ?_⟩
    simp [runSteps, step, GetStep.apply, hphase]

/-- A request that uses a body other than its own page can finish disturbed. -/
theorem Scrapes.exists_disturbed_of_body_ne {handler : PrometheusWebHandler}
    {requests : ι → Request} {i : ι} {request : Request} (hrequest : requests i = request)
    (huses : request.UsesBody) {samples : List MetricData}
    (hsnapshot : request.snapshot = some samples)
    (hne : handler.body ≠ handler.served platform samples) :
    ∃ later scrapes', runSteps (step platform) ⟨handler, requests⟩ later = some scrapes' ∧
      ¬scrapes'.Undisturbed platform := by
  subst hrequest
  obtain ⟨later, scrapes', hrun, hcache, hfinished, hsame, hlast⟩ :=
    exists_finish platform ⟨handler, requests⟩ i huses
  refine ⟨later, scrapes', hrun, fun hundisturbed => hne ?_⟩
  obtain ⟨samples', hsnapshot', hwritten, _⟩ := hundisturbed i hfinished
  rw [hsame, hsnapshot] at hsnapshot'
  cases hsnapshot'
  rw [hwritten] at hlast
  have hbody : scrapes'.handler.served platform samples = handler.body := by simpa using hlast
  rw [← hbody, PrometheusWebHandler.served, hcache, PrometheusWebHandler.served]

/-- A page with samples is not empty if no sample's text is. -/
theorem page_ne_nil (hformat : ∀ data, platform.format data ≠ []) (data : MetricData)
    (samples : List MetricData) : page platform none (data :: samples) ≠ [] := by
  rw [page_cons]
  simp [hformat data]

/-- A consistent request that uses the body has it as its page. -/
theorem Request.Consistent.body_eq {handler : PrometheusWebHandler} {request : Request}
    (h : request.Consistent platform handler) (huses : request.UsesBody) :
    ∃ samples, request.snapshot = some samples ∧
      handler.body = handler.served platform samples := by
  unfold Consistent at h
  obtain hphase | hphase | hphase := huses
  · rw [hphase] at h
    exact h.2
  · rw [hphase] at h
    exact h.2.2
  · rw [hphase] at h
    exact h.2

/-- Clearing a body that another request uses loses that request's page. -/
theorem Scrapes.exists_disturbed_of_clear (h : scrapes.Consistent platform) (j : ι)
    (request : Request) (hbody : scrapes.handler.body ≠ []) {i : ι} (hi : i ≠ j)
    (huses : (scrapes.requests i).UsesBody) :
    ∃ later scrapes',
      runSteps (step platform)
        ⟨scrapes.handler.clearBody, Function.update scrapes.requests j request⟩ later =
          some scrapes' ∧ ¬scrapes'.Undisturbed platform := by
  obtain ⟨samples, hsnapshot, hpage⟩ := (h i).body_eq huses
  exact exists_disturbed_of_body_ne (Function.update_of_ne hi ..) huses hsnapshot fun hempty =>
    hbody (hpage.trans hempty.symm)

/-- Serialising samples into the empty body of another request gives that request a page that is
not its own. -/
theorem Scrapes.exists_disturbed_of_shared_visit (hformat : ∀ data, platform.format data ≠ [])
    (h : scrapes.Consistent platform) (j : ι) (request : Request) {samples : List MetricData}
    (hbody : scrapes.handler.body = []) (hcache : scrapes.handler.metricCache = true)
    (hsamples : samples ≠ []) {i : ι} (hi : i ≠ j) (huses : (scrapes.requests i).UsesBody) :
    ∃ later scrapes',
      runSteps (step platform)
        ⟨scrapes.handler.visit platform samples, Function.update scrapes.requests j request⟩ later =
          some scrapes' ∧ ¬scrapes'.Undisturbed platform := by
  obtain ⟨own, hsnapshot, hpage⟩ := (h i).body_eq huses
  refine exists_disturbed_of_body_ne (Function.update_of_ne hi ..) huses hsnapshot ?_
  have hown : (scrapes.handler.visit platform samples).served platform own = [] := by
    rw [← hbody, hpage]
    simp [PrometheusWebHandler.served]
  obtain ⟨data, rest, rfl⟩ := List.exists_cons_of_ne_nil hsamples
  rw [hown, PrometheusWebHandler.body_visit, hbody, List.nil_append, PrometheusWebHandler.served,
    if_pos hcache]
  exact page_ne_nil hformat data rest

/-- Serialising behind what is left in the body gives the request itself a page that is not its
own. -/
theorem Scrapes.exists_disturbed_of_leftover (scrapes : Scrapes ι) (j : ι) {request : Request}
    (hphase : request.phase = .visited) {samples : List MetricData}
    (hsnapshot : request.snapshot = some samples) (hbody : scrapes.handler.body ≠ []) :
    ∃ later scrapes',
      runSteps (step platform)
        ⟨scrapes.handler.visit platform samples, Function.update scrapes.requests j request⟩ later =
          some scrapes' ∧ ¬scrapes'.Undisturbed platform := by
  refine exists_disturbed_of_body_ne (Function.update_self ..) (Or.inl hphase) hsnapshot ?_
  have hserved : (scrapes.handler.visit platform samples).served platform samples =
      scrapes.handler.served platform samples := by simp [PrometheusWebHandler.served]
  rw [hserved, PrometheusWebHandler.body_visit]
  simpa using hbody

/-- The condition is exact: where all steps so far were exclusive, a step that is not can be
followed by steps that disturb a response, as long as no sample's text is empty. -/
theorem Scrapes.exists_disturbed_of_not_exclusive (hformat : ∀ data, platform.format data ≠ [])
    (h : scrapes.Consistent platform) {label : ι × GetStep} {next : Scrapes ι}
    (hstep : scrapes.step platform label = some next) (hclash : ¬scrapes.Exclusive label) :
    ∃ later scrapes', runSteps (step platform) scrapes (label :: later) = some scrapes' ∧
      ¬scrapes'.Undisturbed platform := by
  have hnext : ∃ later scrapes', runSteps (step platform) next later = some scrapes' ∧
      ¬scrapes'.Undisturbed platform := by
    obtain ⟨j, action⟩ := label
    unfold Scrapes.step at hstep
    obtain ⟨⟨handler', request'⟩, happly, rfl⟩ := Option.map_eq_some_iff.mp hstep
    cases GetStep.moves_of_apply happly with
    | clearBody hphase =>
      obtain ⟨hbody, hothers⟩ := not_or.mp hclash
      push Not at hothers
      obtain ⟨i, hi, huses⟩ := hothers
      exact exists_disturbed_of_clear h j _ hbody hi huses
    | visit samples hphase =>
      by_cases hbody : scrapes.handler.body = []
      · have hshared := fun hothers => hclash ⟨hbody, hothers⟩
        obtain ⟨hcache, hothers⟩ := not_or.mp hshared
        obtain ⟨hsamples, hothers⟩ := not_or.mp hothers
        push Not at hothers
        obtain ⟨i, hi, huses⟩ := hothers
        exact exists_disturbed_of_shared_visit hformat h j _ hbody (by simpa using hcache) hsamples
          hi huses
      · exact exists_disturbed_of_leftover scrapes j rfl rfl hbody
    | formatHeader | writeHeader | writeBody => exact absurd trivial hclash
  obtain ⟨later, scrapes', hrun, hdisturbed⟩ := hnext
  exact ⟨later, scrapes', by rw [runSteps, hstep]; exact hrun, hdisturbed⟩

end Clashes

/-- Scrapes whose steps are all exclusive do not disturb each other: in every state they reach,
each finished response has the size of the body that follows it, and the body is the page of the
snapshot taken by the request's own visit. The condition is exact: the first step that is not
exclusive can be followed by steps that disturb a response, as long as no sample's text is
empty. -/
theorem Scrapes.undisturbed_of_exclusive {ι : Type*} [DecidableEq ι] (platform : WebPlatform)
    (handler : PrometheusWebHandler) :
    (∀ (labels : List (ι × GetStep)) scrapes,
      Guarded (step platform) Exclusive (initial handler) labels →
      runSteps (step platform) (initial handler) labels = some scrapes →
      scrapes.Undisturbed platform) ∧
    ((∀ data, platform.format data ≠ []) → ∀ (labels : List (ι × GetStep)) scrapes label next,
      Guarded (step platform) Exclusive (initial handler) labels →
      runSteps (step platform) (initial handler) labels = some scrapes →
      scrapes.step platform label = some next → ¬scrapes.Exclusive label →
      ∃ later scrapes', runSteps (step platform) scrapes (label :: later) = some scrapes' ∧
        ¬scrapes'.Undisturbed platform) := by
  constructor
  · intro labels scrapes hexclusive hrun
    exact (consistent_of_exclusive platform handler hexclusive hrun).undisturbed
  · intro hformat labels scrapes label next hexclusive hrun hstep hclash
    exact exists_disturbed_of_not_exclusive hformat
      (consistent_of_exclusive platform handler hexclusive hrun) hstep hclash

/-- Two scrapes, the second one clearing the body before the first one serialises into it. -/
theorem Scrapes.undisturbed_of_exclusive_two :
    ∃ scrapes : Scrapes (Fin 2), (scrapes.requests 0).phase = .finished ∧
      scrapes.Undisturbed .reference := by
  obtain ⟨scrapes, hrun, hphase⟩ : ∃ scrapes : Scrapes (Fin 2),
      runSteps (step .reference) (initial ⟨true, [1], [2]⟩)
        [(0, .clearBody), (1, .clearBody), (0, .visit [.temperature]), (0, .formatHeader),
          (0, .writeHeader), (0, .writeBody)] = some scrapes ∧
      (scrapes.requests 0).phase = .finished := ⟨_, rfl, rfl⟩
  have hexclusive : Guarded (step .reference) Exclusive
      (initial ⟨true, [1], [2]⟩ : Scrapes (Fin 2))
      [(0, .clearBody), (1, .clearBody), (0, .visit [.temperature]), (0, .formatHeader),
        (0, .writeHeader), (0, .writeBody)] := by decide
  exact ⟨scrapes, hphase,
    (undisturbed_of_exclusive .reference ⟨true, [1], [2]⟩).1 _ scrapes hexclusive hrun⟩

/-- A second scrape clears the body after the first one has formatted its header: the first
response announces a body it does not have. -/
theorem Scrapes.disturbed_by_clear :
    ∃ scrapes : Scrapes (Fin 2),
      runSteps (step .reference) (initial ⟨true, [], []⟩)
        [(0, .clearBody), (0, .visit [.temperature]), (0, .formatHeader), (1, .clearBody),
          (0, .writeHeader), (0, .writeBody)] = some scrapes ∧
      ¬scrapes.Undisturbed .reference := by
  refine ⟨_, rfl, fun hundisturbed => ?_⟩
  obtain ⟨samples, hsnapshot, hwritten, _⟩ := hundisturbed 0 rfl
  cases hsnapshot
  have hbody : ([] : Buffer) = page .reference none [.temperature] :=
    (List.cons.inj (List.cons.inj hwritten).2).1
  exact absurd hbody (by decide)

end MqttBridge
