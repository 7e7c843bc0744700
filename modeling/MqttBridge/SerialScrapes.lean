import MqttBridge.Serving

/-!
# One scrape after the other

A scraper that waits for its response, and is the only one, begins a GET when no other is being
served. The network thread goes on meanwhile, so the cache may change at every point of a GET. Still
no GET is disturbed: the buffers of the handler are only touched by the one being served.
-/

namespace MqttBridge

/-- The request is not being served. -/
def Request.Idle (request : Request) : Prop :=
  request.phase = .started ∨ request.phase = .finished

instance (request : Request) : Decidable request.Idle := inferInstanceAs (Decidable (_ ∨ _))

/-- A GET is begun only while no other is being served. -/
def Bridge.InTurn {κ ι : Type*} (bridge : Bridge κ ι) (label : BridgeStep ι) : Prop :=
  match label with
  | .get request .clearBody => ∀ other, other ≠ request → (bridge.scrapes.requests other).Idle
  | .get _ .visit | .get _ .formatHeader | .get _ .writeHeader | .get _ .writeBody => True
  | .connect _ _ | .disconnect | .receive _ | .handle | .add => True

instance {κ ι : Type*} [DecidableEq ι] [Fintype ι] (bridge : Bridge κ ι) (label : BridgeStep ι) :
    Decidable (bridge.InTurn label) :=
  match label with
  | .get _ .clearBody => inferInstanceAs (Decidable (∀ _, _ → _))
  | .get _ .visit | .get _ .formatHeader | .get _ .writeHeader | .get _ .writeBody => isTrue trivial
  | .connect _ _ | .disconnect | .receive _ | .handle | .add => isTrue trivial

/-- At most one request is being served, and its body is empty until its visit. -/
structure Scrapes.Serial {ι : Type*} (scrapes : Scrapes ι) : Prop where
  one : ∀ i j, i ≠ j → (scrapes.requests i).Idle ∨ (scrapes.requests j).Idle
  cleared : ∀ i, (scrapes.requests i).phase = .cleared → scrapes.handler.body = []

/-- An idle request does not use the body. -/
theorem Request.Idle.not_usesBody {request : Request} (h : request.Idle) : ¬request.UsesBody := by
  rcases h with h | h <;> simp [UsesBody, h]

section Serial

variable {ι : Type*} {platform : WebPlatform} {scrapes scrapes' : Scrapes ι} {i : ι}

/-- While a request is served, the others are not. -/
theorem Scrapes.Serial.others (h : scrapes.Serial) (hbusy : ¬(scrapes.requests i).Idle) {j : ι}
    (hj : j ≠ i) : (scrapes.requests j).Idle := (h.one j i hj).resolve_right hbusy

variable [DecidableEq ι]

/-- A step of a request after which the others are idle. -/
theorem Scrapes.Serial.update (hidle : ∀ j, j ≠ i → (scrapes.requests j).Idle)
    {handler : PrometheusWebHandler} {request : Request}
    (hcleared : request.phase = .cleared → handler.body = []) :
    (⟨handler, Function.update scrapes.requests i request⟩ : Scrapes ι).Serial where
  one := by
    intro j k hne
    by_cases hj : j = i
    · subst hj
      right
      simpa only [Function.update_of_ne hne.symm] using hidle k hne.symm
    · left
      simpa only [Function.update_of_ne hj] using hidle j hj
  cleared := by
    intro j hphase
    change (Function.update scrapes.requests i request j).phase = .cleared at hphase
    by_cases hj : j = i
    · subst hj
      rw [Function.update_self] at hphase
      exact hcleared hphase
    · rw [Function.update_of_ne hj] at hphase
      rcases hidle j hj with hstarted | hfinished
      · exact absurd (hstarted.symm.trans hphase) (by simp)
      · exact absurd (hfinished.symm.trans hphase) (by simp)

/-- Requests served in turn stay so, and disturb no other. -/
theorem Scrapes.Serial.step (h : scrapes.Serial) {step : GetStep}
    (hturn : step = .clearBody → ∀ j, j ≠ i → (scrapes.requests j).Idle)
    (hstep : scrapes.step platform (i, step) = some scrapes') :
    scrapes'.Serial ∧ scrapes.Exclusive (i, step) := by
  obtain ⟨⟨handler, request⟩, happly, rfl⟩ := Option.map_eq_some_iff.mp hstep
  have hothers : ∀ phase, (scrapes.requests i).phase = phase → phase ≠ .started →
      phase ≠ .finished → ∀ j, j ≠ i → (scrapes.requests j).Idle := by
    intro phase hphase hstarted hfinished j hj
    refine h.others (fun hidle => ?_) hj
    rw [Request.Idle, hphase] at hidle
    exact hidle.elim hstarted hfinished
  cases GetStep.moves_of_apply happly with
  | clearBody hphase =>
    exact ⟨.update (hturn rfl) fun _ => rfl, Or.inr fun j hj => (hturn rfl j hj).not_usesBody⟩
  | visit samples hphase =>
    have hidle := hothers _ hphase (by simp) (by simp)
    refine ⟨.update hidle (by simp), h.cleared i hphase, ?_⟩
    exact Or.inr (Or.inr fun j hj => (hidle j hj).not_usesBody)
  | formatHeader hphase | writeHeader hphase | writeBody hphase =>
    exact ⟨.update (hothers _ hphase (by simp) (by simp)) (by simp), trivial⟩

end Serial

/-- Scrapes that take turns do not disturb one another. In any run in which each GET is begun only
while no other is being served, no step disturbs another GET, whatever the network thread does in
between; so each finished response is the page of the one snapshot its own visit took, after a
header with the size of that page. -/
theorem Bridge.undisturbed_of_inTurn {κ ι : Type*} [DecidableEq ι] (cache : MetricDataCache κ)
    (platform : Platform) (webPlatform : WebPlatform) (client : MqttClient)
    (handler : PrometheusWebHandler) (labels : List (BridgeStep ι)) (bridge : Bridge κ ι)
    (hguard : Guarded (step cache platform webPlatform) InTurn (initial cache client handler)
      labels)
    (hrun : runSteps (step cache platform webPlatform) (initial cache client handler) labels =
      some bridge) :
    Guarded (step cache platform webPlatform) (Undisturbing cache) (initial cache client handler)
        labels ∧
      bridge.scrapes.Undisturbed webPlatform := by
  have hstart : (initial cache client handler : Bridge κ ι).scrapes.Serial :=
    ⟨fun _ _ _ => Or.inl (Or.inl rfl), fun _ hphase => by cases hphase⟩
  have hserial : ∀ (bridge : Bridge κ ι) label bridge', bridge.scrapes.Serial →
      bridge.InTurn label → step cache platform webPlatform bridge label = some bridge' →
        bridge'.scrapes.Serial ∧ bridge.Undisturbing cache label := by
    intro bridge label bridge' h hturn hstep
    cases moves_of_step hstep with
    | connect | disconnect | ignore | receive | handle | add => exact ⟨h, trivial⟩
    | get request call scrapes hscrapes =>
      refine h.step (fun hclear => ?_) hscrapes
      cases call with
      | clearBody => exact hturn
      | visit | formatHeader | writeHeader | writeBody => cases hclear
  have hundisturbing := Guarded.of_invariant
    (fun _ _ _ h hturn hstep => (hserial _ _ _ h hturn hstep).1)
    (fun _ _ _ h hturn hstep => (hserial _ _ _ h hturn hstep).2) hstart hguard hrun
  exact ⟨hundisturbing, (consistent_of_undisturbing hundisturbing hrun).1.undisturbed⟩

/-- Two GETs one after the other, the second one begun while a message is being dispatched. -/
def Bridge.stepsInTurn {ι : Type*} (first second : ι) : List (BridgeStep ι) :=
  [.get first .clearBody, .get first .visit, .get first .formatHeader, .get first .writeHeader,
    .get first .writeBody, .receive ⟨"home", "21.5", 1⟩, .get second .clearBody, .handle,
    .get second .visit, .add, .get second .formatHeader, .get second .writeHeader,
    .get second .writeBody]

/-- Neither is disturbed. -/
theorem Bridge.undisturbed_of_inTurn_two :
    ∃ bridge, runSteps (step .reference .reference .reference) two (stepsInTurn 0 1) = some bridge ∧
      bridge.scrapes.Undisturbed .reference := by
  obtain ⟨bridge, hrun⟩ : ∃ bridge,
      runSteps (step .reference .reference .reference) two (stepsInTurn 0 1) = some bridge :=
    ⟨_, rfl⟩
  exact ⟨bridge, hrun, (undisturbed_of_inTurn .reference .reference .reference
    (.create .everything ["#"] true) ⟨true, [], []⟩ (stepsInTurn 0 1) bridge (by decide) hrun).2⟩

end MqttBridge
