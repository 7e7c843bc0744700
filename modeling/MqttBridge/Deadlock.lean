import Mathlib.Data.List.Induction
import MqttBridge.Locking

/-!
# When the signal handler never returns

The mutex of the bridge state is not recursive. A call of the handler that interrupts `main` inside
its visit waits for the mutex, and `main`, which is to unlock it, waits for the call to return. From
then on all calls wait, on every thread. No other order of steps leads there: from any other state
each call that is pending can still return.
-/

namespace MqttBridge

/-- The step delivers no signal. -/
def ThreadStep.Quiet {τ : Type*} (label : ThreadStep τ) : Prop :=
  ∀ signal thread, label ≠ .deliver signal thread

/-- Steps of a call are quiet. -/
theorem ThreadStep.quiet_replicate {τ : Type*} (count : ℕ) (thread : τ) :
    ∀ label ∈ List.replicate count (ThreadStep.call thread), label.Quiet := by
  intro label hlabel signal other
  rw [List.eq_of_mem_replicate hlabel]
  simp

namespace ThreadedProcess

variable {τ : Type*} [DecidableEq τ] {main : τ} {endsWait : Bool} {state state' : ThreadedProcess τ}
  {label : ThreadStep τ}

/-- A call on its own thread has interrupted `main` inside its visit. -/
def Deadlocked (main : τ) (state : ThreadedProcess τ) : Prop :=
  state.visit ≠ .outside ∧ state.calls main ≠ []

/-- A call that is not inside does not return by a step of its thread. -/
theorem calls_update_ne_nil {thread other : τ} {call : SignalCall} {rest : List SignalCall}
    (hpending : state.calls other ≠ []) :
    Function.update state.calls thread (call :: rest) other ≠ [] := by
  by_cases hother : other = thread
  · subst hother
    simp
  · simpa [hother] using hpending

/-- In a deadlock nothing happens to the process, except that a signal may kill it, and no call
returns. -/
theorem Deadlocked.step (h : state.Deadlocked main) (hexclusive : state.Exclusive)
    (hstep : state.step main endsWait label = some state') :
    state'.Deadlocked main ∧
      (state'.process = state.process ∨
        state'.process = { state.process with stage := .ended }) ∧
      ∀ thread, state.calls thread ≠ [] → state'.calls thread ≠ [] := by
  obtain ⟨hvisit, hmain⟩ := h
  have hinside : state.Inside none := hvisit
  obtain ⟨hlocked, halone⟩ := hexclusive.unique hinside
  -- `main` holds the mutex, so no call is inside.
  have hout : ∀ thread call rest, state.calls thread = call :: rest →
      call.phase.inside = true → False := fun thread call rest hcalls hphase =>
    absurd (halone _ ((hexclusive.inside_iff hcalls).mpr hphase)) (by simp)
  cases (moves_of_step hstep).2 with
  | lock hfree | create hfree | unlock hfree | main _ _ hfree => exact absurd hfree hmain
  | deliver =>
    exact ⟨⟨hvisit, calls_update_ne_nil hmain⟩, Or.inl rfl, fun _ => calls_update_ne_nil⟩
  | kill => exact ⟨⟨hvisit, hmain⟩, Or.inr rfl, fun _ hpending => hpending⟩
  | resetSigint | resetSigterm =>
    exact ⟨⟨hvisit, calls_update_ne_nil hmain⟩, Or.inl rfl, fun _ => calls_update_ne_nil⟩
  | lockCall _ _ _ _ hmutex => exact absurd (hlocked.symm.trans hmutex) Bool.noConfusion
  | exitProgram _ _ _ hcalls | returnCall _ _ _ hcalls => exact (hout _ _ _ hcalls rfl).elim

/-- Nor does anything in all steps that follow. -/
theorem Deadlocked.run (h : state.Deadlocked main) (hexclusive : state.Exclusive)
    {later : List (ThreadStep τ)}
    (hrun : runSteps (ThreadedProcess.step main endsWait) state later = some state') :
    state'.Deadlocked main ∧
      (state'.process = state.process ∨
        state'.process = { state.process with stage := .ended }) ∧
      ∀ thread, state.calls thread ≠ [] → state'.calls thread ≠ [] := by
  have hguard : Guarded (ThreadedProcess.step main endsWait) (fun _ _ => True) state later :=
    .of_forall (fun _ _ _ => trivial) state
  refine (Guarded.invariant (motive := fun next => next.Exclusive ∧ next.Deadlocked main ∧
    (next.process = state.process ∨ next.process = { state.process with stage := .ended }) ∧
    ∀ thread, state.calls thread ≠ [] → next.calls thread ≠ [])
    (fun next label next' hnext _ hstep => ?_)
    ⟨hexclusive, h, Or.inl rfl, fun _ hpending => hpending⟩ hguard hrun).2
  obtain ⟨hexclusive, hdeadlocked, hprocess, hpending⟩ := hnext
  obtain ⟨hdeadlocked', hprocess', hpending'⟩ := hdeadlocked.step hexclusive hstep
  have hsame := hprocess.resolve_right fun hended =>
    (moves_of_step hstep).1 (by rw [hended])
  rw [hsame] at hprocess'
  exact ⟨hexclusive.step hstep, hdeadlocked', hprocess', fun thread h =>
    hpending' thread (hpending thread h)⟩

/-- Somewhere in a run a handled signal was delivered to `main`'s thread inside `main`'s visit. -/
def InterruptedVisit (main : τ) (endsWait : Bool) (labels : List (ThreadStep τ)) : Prop :=
  ∃ before signal after mid, labels = before ++ .deliver signal main :: after ∧
    runSteps (ThreadedProcess.step main endsWait) initial before = some mid ∧
    mid.visit ≠ .outside ∧ mid.installed signal = true

/-- A step leads into a deadlock only by such a delivery. -/
theorem deadlocked_of_step (h : ¬state.Deadlocked main)
    (hstep : state.step main endsWait label = some state') (hdeadlocked : state'.Deadlocked main) :
    ∃ signal, label = .deliver signal main ∧ state.visit ≠ .outside ∧
      state.installed signal = true := by
  obtain ⟨hvisit, hmain⟩ := hdeadlocked
  have hother : ∀ {thread call rest calls}, state.calls thread = call :: rest →
      Function.update state.calls thread calls main ≠ [] → state.visit ≠ .outside → False := by
    intro thread call rest calls hcalls hupdated hvisit
    refine h ⟨hvisit, fun hfree => ?_⟩
    by_cases hthread : main = thread
    · subst hthread
      rw [hfree] at hcalls
      cases hcalls
    · rw [Function.update_of_ne hthread] at hupdated
      exact hupdated hfree
  cases (moves_of_step hstep).2 with
  | lock hfree | create hfree | unlock hfree | main _ _ hfree => exact absurd hfree hmain
  | deliver signal thread hinstalled =>
    by_cases hthread : main = thread
    · subst hthread
      exact ⟨signal, rfl, hvisit, hinstalled⟩
    · refine absurd ⟨hvisit, ?_⟩ h
      simpa [hthread] using hmain
  | kill => exact absurd ⟨hvisit, hmain⟩ h
  | resetSigint _ _ _ hcalls | resetSigterm _ _ _ hcalls | lockCall _ _ _ hcalls
    | exitProgram _ _ _ hcalls | returnCall _ _ _ hcalls =>
    exact (hother hcalls hmain hvisit).elim

/-- A run leads into a deadlock exactly if it interrupts the visit. -/
theorem deadlocked_iff_interruptedVisit {labels : List (ThreadStep τ)}
    (hrun : runSteps (ThreadedProcess.step main endsWait) initial labels = some state) :
    state.Deadlocked main ↔ InterruptedVisit main endsWait labels := by
  constructor
  · intro hdeadlocked
    induction labels using List.reverseRecOn generalizing state with
    | nil =>
      cases hrun
      exact absurd rfl hdeadlocked.1
    | append_singleton labels label ih =>
      rw [runSteps_append] at hrun
      obtain ⟨mid, hmid, hlast⟩ := Option.bind_eq_some_iff.mp hrun
      obtain ⟨_, hstep, hsame⟩ := Option.bind_eq_some_iff.mp hlast
      cases hsame
      by_cases hbefore : mid.Deadlocked main
      · obtain ⟨before, signal, after, mid', rfl, hmid', hvisit, hinstalled⟩ := ih hmid hbefore
        exact ⟨before, signal, after ++ [label], mid', by simp, hmid', hvisit, hinstalled⟩
      · obtain ⟨signal, rfl, hvisit, hinstalled⟩ := deadlocked_of_step hbefore hstep hdeadlocked
        exact ⟨labels, signal, [], mid, rfl, hmid, hvisit, hinstalled⟩
  · intro hinterrupted
    obtain ⟨before, signal, after, mid, rfl, hmid, hvisit, hinstalled⟩ := hinterrupted
    rw [runSteps_append, hmid, Option.bind_some] at hrun
    obtain ⟨next, hstep, hrun⟩ := Option.bind_eq_some_iff.mp hrun
    have hdeadlocked : next.Deadlocked main := by
      have hmoves := (moves_of_step hstep).2
      cases hmoves with
      | deliver => exact ⟨hvisit, by simp⟩
      | kill _ _ hreset => exact absurd (hinstalled.symm.trans hreset) Bool.noConfusion
    have hexclusive := (exclusive_settled_of_run exclusive_settled_initial hmid).1
    exact (hdeadlocked.run (hexclusive.step hstep) hrun).1

section Progress

variable {thread : τ} {signal : BridgeSignal} {rest : List SignalCall}

/-- Before the process has ended, a thread's step is that of its running call. -/
theorem step_call (hended : state.process.stage ≠ .ended) :
    state.step main endsWait (.call thread) = state.stepCall endsWait thread := if_neg hended

/-- By steps of its own, a thread returns from its running call: its visit is over, and
`do_exit_program` was executed. -/
def Returns (main : τ) (endsWait : Bool) (thread : τ) (rest : List SignalCall)
    (state : ThreadedProcess τ) : Prop :=
  ∃ count state', runSteps (ThreadedProcess.step main endsWait) state
      (List.replicate count (.call thread)) = some state' ∧
    state'.process = state.process.doExitProgram endsWait ∧ state'.mutex = false ∧
    state'.visit = state.visit ∧ state'.calls = Function.update state.calls thread rest

/-- It does if it does after a step of its call. -/
theorem Returns.of_step (hended : state.process.stage ≠ .ended)
    (hstep : state.stepCall endsWait thread = some state')
    (hprocess : state'.process = state.process) (hvisit : state'.visit = state.visit)
    {calls : List SignalCall} (hcalls : state'.calls = Function.update state.calls thread calls)
    (h : state'.Returns main endsWait thread rest) : state.Returns main endsWait thread rest := by
  obtain ⟨count, final, hrun, hprocess', hmutex', hvisit', hcalls'⟩ := h
  refine ⟨count + 1, final, ?_, by rw [hprocess', hprocess], hmutex', hvisit'.trans hvisit, ?_⟩
  · rw [List.replicate_succ, runSteps, step_call hended, hstep, Option.bind_some]
    exact hrun
  · rw [hcalls', hcalls, Function.update_idem]

/-- Inside its visit, a call returns. -/
theorem returns_of_locked (hended : state.process.stage ≠ .ended)
    (hcalls : state.calls thread = ⟨signal, .locked⟩ :: rest) :
    state.Returns main endsWait thread rest := by
  have hended' : (state.process.doExitProgram endsWait).stage ≠ .ended := fun hstage =>
    hended ((state.process.stage_doExitProgram endsWait (Or.inr rfl)).mp hstage)
  refine ⟨2, { state with
    process := state.process.doExitProgram endsWait
    mutex := false
    calls := Function.update state.calls thread rest
    stopCalls := if state.process.bridgeState.client then state.stopCalls + 1
      else state.stopCalls }, ?_, rfl, rfl, rfl, rfl⟩
  simp [List.replicate, runSteps, step_call, hended, hended', stepCall, hcalls]

/-- At an unlocked mutex, a call that has reset both signals returns. -/
theorem returns_of_sigtermReset (hended : state.process.stage ≠ .ended)
    (hmutex : state.mutex = false)
    (hcalls : state.calls thread = ⟨signal, .sigtermReset⟩ :: rest) :
    state.Returns main endsWait thread rest := by
  have hstep : state.stepCall endsWait thread = some { state with
      mutex := true
      calls := Function.update state.calls thread (⟨signal, .locked⟩ :: rest) } := by
    simp [stepCall, hcalls, hmutex]
  exact .of_step hended hstep rfl rfl rfl (returns_of_locked hended (Function.update_self ..))

/-- So does one that has reset the first signal. -/
theorem returns_of_sigintReset (hended : state.process.stage ≠ .ended)
    (hmutex : state.mutex = false)
    (hcalls : state.calls thread = ⟨signal, .sigintReset⟩ :: rest) :
    state.Returns main endsWait thread rest := by
  have hstep : state.stepCall endsWait thread = some { state with
      installed := Function.update state.installed .sigterm false
      calls := Function.update state.calls thread (⟨signal, .sigtermReset⟩ :: rest) } := by
    simp [stepCall, hcalls]
  exact .of_step hended hstep rfl rfl rfl
    (returns_of_sigtermReset hended hmutex (Function.update_self ..))

/-- So does every call that is not inside. -/
theorem returns_of_not_inside (hended : state.process.stage ≠ .ended)
    (hmutex : state.mutex = false) {call : SignalCall}
    (hcalls : state.calls thread = call :: rest) (hphase : call.phase.inside = false) :
    state.Returns main endsWait thread rest := by
  obtain ⟨signal, phase⟩ := call
  cases phase with
  | locked | exitDone => cases hphase
  | sigtermReset => exact returns_of_sigtermReset hended hmutex hcalls
  | sigintReset => exact returns_of_sigintReset hended hmutex hcalls
  | entered =>
    have hstep : state.stepCall endsWait thread = some { state with
        installed := Function.update state.installed .sigint false
        calls := Function.update state.calls thread (⟨signal, .sigintReset⟩ :: rest) } := by
      simp [stepCall, hcalls]
    exact .of_step hended hstep rfl rfl rfl
      (returns_of_sigintReset hended hmutex (Function.update_self ..))

/-- A thread has returned from all its calls, and the flag is set. -/
structure Drained (thread : τ) (state : ThreadedProcess τ) : Prop where
  calls : state.calls thread = []
  exitProgram : state.process.bridgeState.exitProgram = true

/-- Without further signals, a thread can return from all its calls, and set the flag. -/
def CanDrain (main : τ) (endsWait : Bool) (thread : τ) (state : ThreadedProcess τ) : Prop :=
  CanReach (ThreadedProcess.step main endsWait) ThreadStep.Quiet state (Drained thread)

/-- At an unlocked mutex, a thread can return from all its calls if none of them is inside. -/
theorem canReach_drained (stack : List SignalCall) (hended : state.process.stage ≠ .ended)
    (hmutex : state.mutex = false) (hcalls : state.calls thread = stack)
    (hstack : ∀ call ∈ stack, call.phase.inside = false)
    (hflag : stack = [] → state.process.bridgeState.exitProgram = true) :
    state.CanDrain main endsWait thread := by
  induction stack generalizing state with
  | nil => exact ⟨[], state, by simp, rfl, hcalls, hflag rfl⟩
  | cons call rest ih =>
    have hreturns : state.Returns main endsWait thread rest :=
      returns_of_not_inside hended hmutex hcalls (hstack call List.mem_cons_self)
    obtain ⟨count, state', hrun, hprocess, hmutex', _, hcalls'⟩ := hreturns
    refine CanReach.trans (ThreadStep.quiet_replicate count thread) hrun (ih ?_ hmutex' ?_
      (fun other hother => hstack other (List.mem_cons_of_mem _ hother)) fun _ => ?_)
    · rw [hprocess]
      exact fun hstage =>
        hended ((state.process.stage_doExitProgram endsWait (Or.inr rfl)).mp hstage)
    · rw [hcalls', Function.update_self]
    · rw [hprocess, (state.process.doExitProgram_state endsWait).1]

variable (endsWait) in
/-- If there is no deadlock, whoever is inside can leave. A call that has returned then was let
through its visit. -/
theorem exists_unlocked (hexclusive : state.Exclusive) (hsettled : state.Settled)
    (hended : state.process.stage ≠ .ended) (hdeadlocked : ¬state.Deadlocked main) :
    ∃ later state', (∀ label ∈ later, label.Quiet) ∧
      runSteps (ThreadedProcess.step main endsWait) state later = some state' ∧
      state'.mutex = false ∧ state'.process.stage ≠ .ended ∧
      ∀ thread, state.calls thread ≠ [] → state'.calls thread = [] →
        state'.process.bridgeState.exitProgram = true := by
  obtain ⟨owner, howner, hinside⟩ := hexclusive.owned
  match owner with
  | none => exact ⟨[], state, by simp, rfl, howner, hended, fun _ hpending hnone =>
      absurd hnone hpending⟩
  | some none =>
    have hvisit : state.visit ≠ .outside := (hinside none).mpr rfl
    have hfree : state.calls main = [] := by
      by_contra hmain
      exact hdeadlocked ⟨hvisit, hmain⟩
    cases hphase : state.visit with
    | outside => exact absurd hphase hvisit
    | locked =>
      refine ⟨[.create, .unlock], { state with
        process := { state.process.doCreateClient with stage := .clientCreated }
        mutex := false
        visit := .outside }, by simp [ThreadStep.Quiet], ?_, rfl, by simp, fun _ hpending hnone =>
          absurd hnone hpending⟩
      simp [runSteps, ThreadedProcess.step, stepMain, hended, hfree, hphase]
    | created =>
      refine ⟨[.unlock], { state with mutex := false, visit := .outside },
        by simp [ThreadStep.Quiet], ?_, rfl, hended, fun _ hpending hnone =>
          absurd hnone hpending⟩
      simp [runSteps, ThreadedProcess.step, stepMain, hended, hfree, hphase]
  | some (some other) =>
    have hother : state.Inside (some other) := (hinside (some other)).mpr rfl
    cases hcalls : state.calls other with
    | nil =>
      obtain ⟨call, hcall, _⟩ := hother
      rw [hcalls] at hcall
      exact absurd hcall List.not_mem_nil
    | cons call rest =>
      obtain ⟨signal, phase⟩ := call
      have hphase := (hexclusive.inside_iff hcalls).mp hother
      cases phase with
      | entered | sigintReset | sigtermReset => cases hphase
      | locked =>
        have hreturns : state.Returns main endsWait other rest := returns_of_locked hended hcalls
        obtain ⟨count, state', hrun, hprocess, hmutex', _⟩ := hreturns
        refine ⟨_, state', ThreadStep.quiet_replicate count other, hrun, hmutex', ?_,
          fun _ _ _ => ?_⟩
        · rw [hprocess]
          exact fun hstage =>
            hended ((state.process.stage_doExitProgram endsWait (Or.inr rfl)).mp hstage)
        · rw [hprocess, (state.process.doExitProgram_state endsWait).1]
      | exitDone =>
        refine ⟨[.call other], { state with
          mutex := false
          calls := Function.update state.calls other rest }, by simp [ThreadStep.Quiet], ?_, rfl,
          hended, fun _ _ _ => hsettled.done other _ (by rw [hcalls]; exact List.mem_cons_self) rfl⟩
        simp [runSteps, step_call, hended, stepCall, hcalls]

end Progress

/-- When a call of the signal handler can return, given that the library's `disconnect` returns when
the handler calls it. In any run, and with signals on any threads, a call that is pending can return
by steps that follow without further signals, and has then set the flag, exactly if no handled
signal was delivered to `main`'s thread inside `main`'s visit. After such a delivery no call ever
returns: whatever follows, the process stays as it is until a signal kills it. -/
theorem call_returns_iff (main : τ) (endsWait : Bool) (labels : List (ThreadStep τ))
    (state : ThreadedProcess τ)
    (hrun : runSteps (ThreadedProcess.step main endsWait) initial labels = some state)
    (hended : state.process.stage ≠ .ended) (thread : τ) (hpending : state.calls thread ≠ []) :
    (state.CanDrain main endsWait thread ↔ ¬InterruptedVisit main endsWait labels) ∧
      (InterruptedVisit main endsWait labels → ∀ later state',
        runSteps (ThreadedProcess.step main endsWait) state later = some state' →
          (state'.process = state.process ∨
            state'.process = { state.process with stage := .ended }) ∧
          state'.calls thread ≠ []) := by
  obtain ⟨hexclusive, hsettled⟩ := exclusive_settled_of_run exclusive_settled_initial hrun
  rw [← deadlocked_iff_interruptedVisit hrun]
  have hstuck : state.Deadlocked main → ∀ later state',
      runSteps (ThreadedProcess.step main endsWait) state later = some state' →
        (state'.process = state.process ∨
          state'.process = { state.process with stage := .ended }) ∧ state'.calls thread ≠ [] := by
    intro hdeadlocked later state' hlater
    obtain ⟨_, hprocess, hcalls⟩ := hdeadlocked.run hexclusive hlater
    exact ⟨hprocess, hcalls thread hpending⟩
  refine ⟨⟨fun hreach hdeadlocked => ?_, fun hdeadlocked => ?_⟩, hstuck⟩
  · obtain ⟨later, state', _, hlater, hdrained⟩ := hreach
    exact (hstuck hdeadlocked later state' hlater).2 hdrained.calls
  · obtain ⟨later, state', hquiet, hlater, hmutex, hended', hflag⟩ :=
      exists_unlocked endsWait hexclusive hsettled hended hdeadlocked
    have hexclusive' := (exclusive_settled_of_run ⟨hexclusive, hsettled⟩ hlater).1
    refine CanReach.trans hquiet hlater (canReach_drained _ hended' hmutex rfl
      (fun call hcall => ?_) (hflag thread hpending))
    by_contra hphase
    exact hexclusive'.not_inside hmutex (some thread) ⟨call, hcall, by simpa using hphase⟩

/-- One signal to `main`'s thread while it creates the client: its call never returns. -/
theorem call_returns_iff_deadlock :
    ∃ state, runSteps (ThreadedProcess.step false true) (initial : ThreadedProcess Bool)
        [.lock, .deliver .sigint false] = some state ∧
      ¬state.CanDrain false true false := by
  obtain ⟨state, hrun, hended, hpending⟩ : ∃ state,
      runSteps (ThreadedProcess.step false true) (initial : ThreadedProcess Bool)
          [.lock, .deliver .sigint false] = some state ∧
        state.process.stage ≠ .ended ∧ state.calls false ≠ [] := ⟨_, rfl, by decide, by decide⟩
  have hinterrupted : InterruptedVisit false true
      ([.lock, .deliver .sigint false] : List (ThreadStep Bool)) :=
    ⟨[.lock], .sigint, [], _, rfl, rfl, by decide, rfl⟩
  have hreturns := (call_returns_iff false true _ state hrun hended false hpending).1
  exact ⟨state, hrun, fun hreach => hreturns.mp hreach hinterrupted⟩

end ThreadedProcess

end MqttBridge
