import Mathlib.Data.List.Basic

/-!
# Runs of a transition system

A system is a partial step function on labelled steps; a run is a list of labels that are all
enabled in turn. A guard singles out the runs whose every step satisfies a condition on the
state before it. An invariant of guarded steps holds wherever a guarded run leads, hence in
every state such a run passes, since each prefix of it is a guarded run too.
-/

section Runs

variable {σ ℓ : Type*}

/-- Take the labelled steps in order, or fail at the first one that is not enabled. -/
def runSteps (step : σ → ℓ → Option σ) : σ → List ℓ → Option σ
  | s, [] => some s
  | s, label :: labels => (step s label).bind fun s' => runSteps step s' labels

/-- A run may be taken in two parts. -/
theorem runSteps_append (step : σ → ℓ → Option σ) (s : σ) (labels more : List ℓ) :
    runSteps step s (labels ++ more) =
      (runSteps step s labels).bind fun s' => runSteps step s' more := by
  induction labels generalizing s with
  | nil => rfl
  | cons label labels ih =>
    rw [List.cons_append, runSteps, runSteps, Option.bind_assoc]
    exact Option.bind_congr fun s' _ => ih s'

/-- Steps with labels of some kind can lead to a state with a property. -/
def CanReach (step : σ → ℓ → Option σ) (allowed : ℓ → Prop) (s : σ) (goal : σ → Prop) : Prop :=
  ∃ labels s', (∀ label ∈ labels, allowed label) ∧ runSteps step s labels = some s' ∧ goal s'

/-- What can be reached from where allowed steps lead can be reached. -/
theorem CanReach.trans {step : σ → ℓ → Option σ} {allowed : ℓ → Prop} {s s' : σ} {goal : σ → Prop}
    {labels : List ℓ} (hallowed : ∀ label ∈ labels, allowed label)
    (hrun : runSteps step s labels = some s') (h : CanReach step allowed s' goal) :
    CanReach step allowed s goal := by
  obtain ⟨more, final, hmore, hfinal, hgoal⟩ := h
  refine ⟨labels ++ more, final, fun label hmem => ?_, ?_, hgoal⟩
  · exact (List.mem_append.mp hmem).elim (hallowed label) (hmore label)
  · rw [runSteps_append, hrun, Option.bind_some]
    exact hfinal

/-- Every step of the run meets the guard in the state it is taken from. -/
def Guarded (step : σ → ℓ → Option σ) (guard : σ → ℓ → Prop) : σ → List ℓ → Prop
  | _, [] => True
  | s, label :: labels =>
    guard s label ∧ ∀ s', step s label = some s' → Guarded step guard s' labels

instance (step : σ → ℓ → Option σ) (guard : σ → ℓ → Prop) [∀ s label, Decidable (guard s label)]
    (s : σ) (labels : List ℓ) : Decidable (Guarded step guard s labels) :=
  decideGuarded s labels
where
  /-- Guardedness is decided by running the steps. -/
  decideGuarded : (s : σ) → (labels : List ℓ) → Decidable (Guarded step guard s labels)
    | _, [] => isTrue trivial
    | s, label :: labels =>
      match h : step s label with
      | none => decidable_of_iff (guard s label) (by simp [Guarded, h])
      | some s' =>
        have := decideGuarded s' labels
        decidable_of_iff (guard s label ∧ Guarded step guard s' labels) (by simp [Guarded, h])

/-- A run is guarded if its labels meet the guard in every state. -/
theorem Guarded.of_forall {step : σ → ℓ → Option σ} {guard : σ → ℓ → Prop} {labels : List ℓ}
    (h : ∀ label ∈ labels, ∀ s, guard s label) (s : σ) : Guarded step guard s labels := by
  induction labels generalizing s with
  | nil => trivial
  | cons label labels ih =>
    refine ⟨h label List.mem_cons_self s, fun s' _ => ih (fun later hlater => ?_) s'⟩
    exact h later (List.mem_cons_of_mem label hlater)

/-- A run in two parts is guarded if both parts are. -/
theorem Guarded.append {step : σ → ℓ → Option σ} {guard : σ → ℓ → Prop} {labels more : List ℓ}
    {s : σ} (h : Guarded step guard s labels)
    (hmore : ∀ s', runSteps step s labels = some s' → Guarded step guard s' more) :
    Guarded step guard s (labels ++ more) := by
  induction labels generalizing s with
  | nil => exact hmore s rfl
  | cons label labels ih =>
    obtain ⟨hlabel, hrest⟩ := h
    refine ⟨hlabel, fun next hnext => ih (hrest next hnext) fun s' hrun => hmore s' ?_⟩
    rw [runSteps, hnext, Option.bind_some]
    exact hrun

/-- What guarded steps preserve holds at the end of every guarded run. -/
theorem Guarded.invariant {step : σ → ℓ → Option σ} {guard : σ → ℓ → Prop} {motive : σ → Prop}
    (hstep : ∀ s label s', motive s → guard s label → step s label = some s' → motive s')
    {labels : List ℓ} {s s' : σ} (hstart : motive s) (hguard : Guarded step guard s labels)
    (hrun : runSteps step s labels = some s') : motive s' := by
  induction labels generalizing s with
  | nil =>
    cases hrun
    exact hstart
  | cons label labels ih =>
    obtain ⟨hlabel, hrest⟩ := hguard
    obtain ⟨next, hnext, hrun⟩ := Option.bind_eq_some_iff.mp hrun
    exact ih (hstep s label next hstart hlabel hnext) (hrest next hnext) hrun

/-- A guarded run meets another guard if that one follows from what guarded steps preserve. -/
theorem Guarded.of_invariant {step : σ → ℓ → Option σ} {guard guard' : σ → ℓ → Prop}
    {motive : σ → Prop}
    (hstep : ∀ s label s', motive s → guard s label → step s label = some s' → motive s')
    (hguard' : ∀ s label s', motive s → guard s label → step s label = some s' → guard' s label)
    {labels : List ℓ} {s s' : σ} (hstart : motive s) (hguard : Guarded step guard s labels)
    (hrun : runSteps step s labels = some s') : Guarded step guard' s labels := by
  induction labels generalizing s with
  | nil => trivial
  | cons label labels ih =>
    obtain ⟨hlabel, hrest⟩ := hguard
    obtain ⟨next, hnext, hrun⟩ := Option.bind_eq_some_iff.mp hrun
    refine ⟨hguard' s label next hstart hlabel hnext, fun other hother => ?_⟩
    cases hnext.symm.trans hother
    exact ih (hstep s label next hstart hlabel hnext) (hrest next hnext) hrun

/-- What the guard asks of a label, given what guarded steps preserve, holds of every label of a
guarded run. -/
theorem Guarded.forall_mem {step : σ → ℓ → Option σ} {guard : σ → ℓ → Prop} {motive : σ → Prop}
    {p : ℓ → Prop}
    (hstep : ∀ s label s', motive s → guard s label → step s label = some s' → motive s')
    (hlabel : ∀ s label, motive s → guard s label → p label) {labels : List ℓ} {s s' : σ}
    (hstart : motive s) (hguard : Guarded step guard s labels)
    (hrun : runSteps step s labels = some s') : ∀ label ∈ labels, p label := by
  induction labels generalizing s with
  | nil => exact fun label hmem => absurd hmem List.not_mem_nil
  | cons label labels ih =>
    obtain ⟨hfirst, hrest⟩ := hguard
    obtain ⟨next, hnext, hrun⟩ := Option.bind_eq_some_iff.mp hrun
    intro later hlater
    rcases List.mem_cons.mp hlater with rfl | hlater
    · exact hlabel s later hstart hfirst
    · exact ih (hstep s label next hstart hfirst hnext) (hrest next hnext) hrun later hlater

end Runs
