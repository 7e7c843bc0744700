import MqttBridge.Library.Runs

/-!
# Simulations between transition systems

A system is simulated by a more abstract one if each of its steps is matched by a run of the
abstract system, of any number of steps or none, that leads from related states to related ones.
A whole run is then matched by the runs of its steps one after the other. A guard restricts the
steps that have to be matched.
-/

section Simulation

variable {σ σ' ℓ ℓ' : Type*}

/-- The abstract labels that match a run, those of each step in the state it is taken from. -/
def matchedRun (step : σ → ℓ → Option σ) (matched : σ → ℓ → List ℓ') : σ → List ℓ → List ℓ'
  | _, [] => []
  | s, label :: labels =>
    matched s label ++
      match step s label with
      | none => []
      | some s' => matchedRun step matched s' labels

/-- Guarded steps from related states are matched by abstract runs to related states. -/
def Simulates (step : σ → ℓ → Option σ) (guard : σ → ℓ → Prop) (abstractStep : σ' → ℓ' → Option σ')
    (matched : σ → ℓ → List ℓ') (related : σ → σ' → Prop) : Prop :=
  ∀ s a label s', related s a → guard s label → step s label = some s' →
    ∃ a', runSteps abstractStep a (matched s label) = some a' ∧ related s' a'

/-- A simulation matches whole runs. -/
theorem Simulates.run {step : σ → ℓ → Option σ} {guard : σ → ℓ → Prop}
    {abstractStep : σ' → ℓ' → Option σ'} {matched : σ → ℓ → List ℓ'} {related : σ → σ' → Prop}
    (h : Simulates step guard abstractStep matched related) {labels : List ℓ} {s s' : σ} {a : σ'}
    (hrelated : related s a) (hguard : Guarded step guard s labels)
    (hrun : runSteps step s labels = some s') :
    ∃ a', runSteps abstractStep a (matchedRun step matched s labels) = some a' ∧
      related s' a' := by
  induction labels generalizing s a with
  | nil =>
    cases hrun
    exact ⟨a, rfl, hrelated⟩
  | cons label labels ih =>
    obtain ⟨hlabel, hrest⟩ := hguard
    obtain ⟨next, hnext, hrun⟩ := Option.bind_eq_some_iff.mp hrun
    obtain ⟨a₁, hmatched, hrelated₁⟩ := h s a label next hrelated hlabel hnext
    obtain ⟨a', hmatchedRun, hrelated'⟩ := ih hrelated₁ (hrest next hnext) hrun
    refine ⟨a', ?_, hrelated'⟩
    rw [matchedRun, hnext, runSteps_append, hmatched, Option.bind_some]
    exact hmatchedRun

/-- The abstract run that matches a guarded one is guarded itself if the runs that match its steps
are. -/
theorem Simulates.guarded_matchedRun {step : σ → ℓ → Option σ} {guard : σ → ℓ → Prop}
    {abstractStep : σ' → ℓ' → Option σ'} {matched : σ → ℓ → List ℓ'} {related : σ → σ' → Prop}
    (h : Simulates step guard abstractStep matched related) {abstractGuard : σ' → ℓ' → Prop}
    (hmatched : ∀ s a label s', related s a → guard s label → step s label = some s' →
      Guarded abstractStep abstractGuard a (matched s label)) {labels : List ℓ} {s s' : σ} {a : σ'}
    (hrelated : related s a) (hguard : Guarded step guard s labels)
    (hrun : runSteps step s labels = some s') :
    Guarded abstractStep abstractGuard a (matchedRun step matched s labels) := by
  induction labels generalizing s a with
  | nil => trivial
  | cons label labels ih =>
    obtain ⟨hlabel, hrest⟩ := hguard
    obtain ⟨next, hnext, hrun⟩ := Option.bind_eq_some_iff.mp hrun
    obtain ⟨a₁, hstep, hrelated₁⟩ := h s a label next hrelated hlabel hnext
    rw [matchedRun, hnext]
    refine (hmatched s a label next hrelated hlabel hnext).append fun a' ha' => ?_
    cases hstep.symm.trans ha'
    exact ih hrelated₁ (hrest next hnext) hrun

end Simulation
