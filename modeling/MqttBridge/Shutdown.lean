import MqttBridge.Library.Runs

/-!
# Shutting down while starting up

`main` creates the client under the lock of the bridge state unless the exit flag is set, and
then calls `run`, which connects and enters the network loop. The signal handler sets the flag
under the same lock and asks the client, if there is one, to disconnect. The flag is looked at
once only, when the client is created, so a request is honoured only where a disconnect ends
the loop.
-/

namespace MqttBridge

/-- `MqttBridgeState`: whether the client pointer is set, and the exit flag. -/
structure MqttBridgeState where
  client : Bool := false
  exitProgram : Bool := false
deriving DecidableEq, Repr

/-- How far `main` has come. From `connected` on it is in `run`'s network loop. -/
inductive MainStage
  | configured
  | clientCreated
  | runEntered
  | connected
  | reconnecting
  | loopEnded
  | ended
deriving DecidableEq, Repr

/-- What a shutdown request is judged by. -/
inductive ProcessEvent
  | exitRequested
  | nullRun
  | connectionOpened
deriving DecidableEq, Repr

/-- The process: `main` with its own client pointer, the shared state, whether the signal handler
is still installed, and the events so far. -/
structure Process where
  stage : MainStage
  bridgeState : MqttBridgeState
  client : Bool
  handlerInstalled : Bool
  events : List ProcessEvent
deriving DecidableEq, Repr

/-- The steps of `main`, of the network loop, and the delivery of a signal. A connection attempt is
accepted by the broker or not. -/
inductive ProcessStep
  | createClient
  | callRun
  | connect (accepted : Bool)
  | loseConnection
  | reconnect (accepted : Bool)
  | endLoop
  | endRun
  | signal
deriving DecidableEq, Repr

/-- The effect of `disconnect` on the network loop: it ends the loop of a connected client, has no
effect before the first connection, and may or may not end the wait for a reconnect. -/
def MainStage.disconnect (endsWait : Bool) : MainStage → MainStage
  | connected => loopEnded
  | reconnecting => if endsWait then loopEnded else reconnecting
  | stage => stage

namespace Process

/-- The process once the configuration is read. -/
def initial : Process := ⟨.configured, {}, false, true, []⟩

/-- `do_create_client`. -/
def doCreateClient (process : Process) : Process :=
  if !process.bridgeState.exitProgram then
    { process with client := true, bridgeState.client := true }
  else process

/-- `do_exit_program`. -/
def doExitProgram (endsWait : Bool) (process : Process) : Process :=
  let process :=
    { process with
      bridgeState.exitProgram := true
      events := process.events ++ [ProcessEvent.exitRequested] }
  if process.bridgeState.client then
    { process with stage := process.stage.disconnect endsWait }
  else process

/-- `signal_handler`: the next signal has its default effect. -/
def signalHandler (endsWait : Bool) (process : Process) : Process :=
  doExitProgram endsWait { process with handlerInstalled := false }

/-- An attempt to connect. -/
def openConnection (accepted : Bool) (process : Process) : Process :=
  { process with
    stage := if accepted then .connected else .reconnecting
    events := process.events ++ [.connectionOpened] }

/-- One step. A run through a null client ends the process, as does a second signal. -/
def step (endsWait : Bool) (process : Process) (label : ProcessStep) : Option Process :=
  match label, process.stage with
  | .createClient, .configured => some { process.doCreateClient with stage := .clientCreated }
  | .callRun, .clientCreated =>
    if process.client then some { process with stage := .runEntered }
    else some { process with stage := .ended, events := process.events ++ [.nullRun] }
  | .connect accepted, .runEntered => some (process.openConnection accepted)
  | .loseConnection, .connected => some { process with stage := .reconnecting }
  | .reconnect accepted, .reconnecting => some (process.openConnection accepted)
  | .endLoop, .connected | .endLoop, .reconnecting => some { process with stage := .loopEnded }
  | .endRun, .loopEnded => some { process with stage := .ended }
  | .signal, .ended => none
  | .signal, _ =>
    if process.handlerInstalled then some (process.signalHandler endsWait)
    else some { process with stage := .ended }
  | _, _ => none

/-- What a step can do, with the condition it is taken under. -/
inductive Moves (endsWait : Bool) (process : Process) : ProcessStep → Process → Prop
  | createClient (hstage : process.stage = .configured) :
    Moves endsWait process .createClient { process.doCreateClient with stage := .clientCreated }
  | callRun (hstage : process.stage = .clientCreated) (hclient : process.client = true) :
    Moves endsWait process .callRun { process with stage := .runEntered }
  | nullRun (hstage : process.stage = .clientCreated) (hclient : process.client = false) :
    Moves endsWait process .callRun
      { process with stage := .ended, events := process.events ++ [.nullRun] }
  | connect (accepted : Bool) (hstage : process.stage = .runEntered) :
    Moves endsWait process (.connect accepted) (process.openConnection accepted)
  | loseConnection (hstage : process.stage = .connected) :
    Moves endsWait process .loseConnection { process with stage := .reconnecting }
  | reconnect (accepted : Bool) (hstage : process.stage = .reconnecting) :
    Moves endsWait process (.reconnect accepted) (process.openConnection accepted)
  | endLoop (hstage : process.stage = .connected ∨ process.stage = .reconnecting) :
    Moves endsWait process .endLoop { process with stage := .loopEnded }
  | endRun (hstage : process.stage = .loopEnded) :
    Moves endsWait process .endRun { process with stage := .ended }
  | handleSignal (hstage : process.stage ≠ .ended) (hinstalled : process.handlerInstalled = true) :
    Moves endsWait process .signal (process.signalHandler endsWait)
  | killed (hstage : process.stage ≠ .ended) (hinstalled : process.handlerInstalled = false) :
    Moves endsWait process .signal { process with stage := .ended }

/-- Each step is one of the moves. -/
theorem moves_of_step {endsWait : Bool} {process process' : Process} {label : ProcessStep}
    (hstep : process.step endsWait label = some process') :
    process.Moves endsWait label process' := by
  unfold step at hstep
  split at hstep
  · rename_i hstage
    cases hstep
    exact .createClient hstage
  · rename_i hstage
    split at hstep
    · rename_i hclient
      cases hstep
      exact .callRun hstage hclient
    · rename_i hclient
      cases hstep
      exact .nullRun hstage (by simpa using hclient)
  · rename_i hstage
    cases hstep
    exact .connect _ hstage
  · rename_i hstage
    cases hstep
    exact .loseConnection hstage
  · rename_i hstage
    cases hstep
    exact .reconnect _ hstage
  · rename_i hstage
    cases hstep
    exact .endLoop (Or.inl hstage)
  · rename_i hstage
    cases hstep
    exact .endLoop (Or.inr hstage)
  · rename_i hstage
    cases hstep
    exact .endRun hstage
  · cases hstep
  · rename_i hstage
    split at hstep
    · rename_i hinstalled
      cases hstep
      exact .handleSignal hstage hinstalled
    · rename_i hinstalled
      cases hstep
      exact .killed hstage (by simpa using hinstalled)
  · cases hstep

/-- After the exit request, `run` is not called through a null client and no connection is
opened. -/
def Honoured (process : Process) : Prop :=
  process.events.Pairwise fun earlier later =>
    earlier = .exitRequested → later ≠ .nullRun ∧ later ≠ .connectionOpened

instance (process : Process) : Decidable process.Honoured :=
  inferInstanceAs (Decidable (List.Pairwise _ _))

end Process

/-- A disconnect at this stage keeps `main` from opening a further connection. -/
def MainStage.interruptible (endsWait : Bool) : MainStage → Bool
  | configured | clientCreated | runEntered => false
  | reconnecting => endsWait
  | connected | loopEnded | ended => true

/-- The signal handler runs only while a disconnect ends the loop, or after the loop. -/
def Process.Interruptible (endsWait : Bool) (process : Process) (label : ProcessStep) : Prop :=
  label = .signal → process.handlerInstalled = true → process.stage.interruptible endsWait = true

instance (endsWait : Bool) (process : Process) (label : ProcessStep) :
    Decidable (process.Interruptible endsWait label) :=
  inferInstanceAs (Decidable (_ → _))

namespace Process

/-- Where a process stands whose signals all came when they could be honoured. -/
structure Orderly (process : Process) : Prop where
  honoured : process.Honoured
  requested : .exitRequested ∈ process.events → process.bridgeState.exitProgram = true
  stopped : process.bridgeState.exitProgram = true →
    process.stage = .loopEnded ∨ process.stage = .ended
  created : process.stage ≠ .configured → process.stage ≠ .ended →
    process.client = true ∧ process.bridgeState.client = true
  installed : process.handlerInstalled = true → process.bridgeState.exitProgram = false

/-- While no exit was requested, any event is in order. -/
theorem Orderly.honoured_concat {process : Process} (h : process.Orderly)
    (hexit : process.bridgeState.exitProgram = false) (event : ProcessEvent) :
    (process.events ++ [event]).Pairwise fun earlier later =>
      earlier = .exitRequested → later ≠ .nullRun ∧ later ≠ .connectionOpened := by
  refine List.pairwise_append.mpr ⟨h.honoured, List.pairwise_singleton _ _, ?_⟩
  intro earlier hearlier later _ hrequest
  have hflag := h.requested (hrequest ▸ hearlier)
  exact absurd (hexit.symm.trans hflag) Bool.false_ne_true

/-- The exit flag is not set at a stage before the end of the loop. -/
theorem Orderly.exitProgram_eq {process : Process} (h : process.Orderly)
    (hloop : process.stage ≠ .loopEnded) (hended : process.stage ≠ .ended) :
    process.bridgeState.exitProgram = false := by
  by_contra hexit
  exact (h.stopped (by simpa using hexit)).elim hloop hended

/-- Opening a connection before an exit request is in order. -/
theorem Orderly.openConnection {process : Process} (h : process.Orderly)
    (hexit : process.bridgeState.exitProgram = false)
    (hcreated : process.client = true ∧ process.bridgeState.client = true) (accepted : Bool) :
    (process.openConnection accepted).Orderly where
  honoured := h.honoured_concat hexit .connectionOpened
  requested := fun hmem => h.requested (by simpa [Process.openConnection] using hmem)
  stopped := fun hset => absurd (hexit.symm.trans hset) Bool.false_ne_true
  created := fun _ _ => hcreated
  installed := h.installed

/-- A step from one stage to another that keeps everything else. -/
theorem Orderly.moveTo {process : Process} (h : process.Orderly) (stage : MainStage)
    (hstopped : process.bridgeState.exitProgram = true → stage = .loopEnded ∨ stage = .ended)
    (hcreated : stage ≠ .ended → process.client = true ∧ process.bridgeState.client = true) :
    ({ process with stage := stage } : Process).Orderly where
  honoured := h.honoured
  requested := h.requested
  stopped := hstopped
  created := fun _ hended => hcreated hended
  installed := h.installed

/-- At an interruptible stage a disconnect ends the loop, if it has not ended. -/
theorem disconnect_of_interruptible {endsWait : Bool} {stage : MainStage}
    (hinterruptible : stage.interruptible endsWait = true) (hended : stage ≠ .ended) :
    stage.disconnect endsWait = .loopEnded := by
  cases stage with
  | configured | clientCreated | runEntered => cases hinterruptible
  | reconnecting =>
    have hwait : endsWait = true := hinterruptible
    simp [MainStage.disconnect, hwait]
  | connected | loopEnded => rfl
  | ended => exact absurd rfl hended

/-- A first signal at an interruptible stage leaves the process after its loop. -/
theorem Orderly.signalHandler {process : Process} (h : process.Orderly) {endsWait : Bool}
    (hended : process.stage ≠ .ended) (hinstalled : process.handlerInstalled = true)
    (hinterruptible : process.stage.interruptible endsWait = true) :
    (process.signalHandler endsWait).Orderly := by
  have hconfigured : process.stage ≠ .configured := fun hstage => by
    rw [hstage] at hinterruptible
    cases hinterruptible
  have hcreated := h.created hconfigured hended
  have hdisconnect := disconnect_of_interruptible hinterruptible hended
  have hprocess : process.signalHandler endsWait =
      { process with
        stage := .loopEnded
        bridgeState.exitProgram := true
        handlerInstalled := false
        events := process.events ++ [ProcessEvent.exitRequested] } := by
    simp [Process.signalHandler, doExitProgram, hcreated.2, hdisconnect]
  rw [hprocess]
  exact {
    honoured := h.honoured_concat (h.installed hinstalled) .exitRequested
    requested := fun _ => rfl
    stopped := fun _ => Or.inl rfl
    created := fun _ _ => hcreated
    installed := fun hstill => absurd hstill Bool.false_ne_true }

/-- Creating the client before an exit request. -/
theorem Orderly.createClient {process : Process} (h : process.Orderly)
    (hexit : process.bridgeState.exitProgram = false) :
    ({ process.doCreateClient with stage := .clientCreated } : Process).Orderly := by
  have hprocess : process.doCreateClient =
      { process with client := true, bridgeState.client := true } := by
    simp [doCreateClient, hexit]
  rw [hprocess]
  exact {
    honoured := h.honoured
    requested := h.requested
    stopped := fun hset => absurd (hexit.symm.trans hset) Bool.false_ne_true
    created := fun _ _ => ⟨rfl, rfl⟩
    installed := h.installed }

/-- Each step keeps a process orderly if its signals come at interruptible stages. -/
theorem Orderly.step {endsWait : Bool} {process process' : Process} {label : ProcessStep}
    (h : process.Orderly) (hguard : process.Interruptible endsWait label)
    (hstep : process.step endsWait label = some process') : process'.Orderly := by
  have hexit : process.stage ≠ .loopEnded → process.stage ≠ .ended →
      ∀ stage : MainStage, process.bridgeState.exitProgram = true →
        stage = .loopEnded ∨ stage = .ended := fun hloop hended stage hset =>
    absurd ((h.exitProgram_eq hloop hended).symm.trans hset) Bool.false_ne_true
  cases moves_of_step hstep with
  | createClient hstage =>
    exact h.createClient (h.exitProgram_eq (by simp [hstage]) (by simp [hstage]))
  | callRun hstage hclient =>
    have hcreated := h.created (by simp [hstage]) (by simp [hstage])
    exact h.moveTo .runEntered (hexit (by simp [hstage]) (by simp [hstage]) _) fun _ => hcreated
  | nullRun hstage hclient =>
    -- Whoever came this far without an exit request has a client.
    have hcreated := h.created (by simp [hstage]) (by simp [hstage])
    exact absurd (hclient.symm.trans hcreated.1) Bool.false_ne_true
  | connect accepted hstage =>
    exact h.openConnection (h.exitProgram_eq (by simp [hstage]) (by simp [hstage]))
      (h.created (by simp [hstage]) (by simp [hstage])) accepted
  | loseConnection hstage =>
    have hcreated := h.created (by simp [hstage]) (by simp [hstage])
    exact h.moveTo .reconnecting (hexit (by simp [hstage]) (by simp [hstage]) _) fun _ => hcreated
  | reconnect accepted hstage =>
    exact h.openConnection (h.exitProgram_eq (by simp [hstage]) (by simp [hstage]))
      (h.created (by simp [hstage]) (by simp [hstage])) accepted
  | endLoop hstage =>
    have hcreated := h.created (by rcases hstage with hstage | hstage <;> simp [hstage])
      (by rcases hstage with hstage | hstage <;> simp [hstage])
    exact h.moveTo .loopEnded (fun _ => Or.inl rfl) fun _ => hcreated
  | endRun hstage => exact h.moveTo .ended (fun _ => Or.inr rfl) fun hended => absurd rfl hended
  | handleSignal hstage hinstalled =>
    exact h.signalHandler hstage hinstalled (hguard rfl hinstalled)
  | killed hstage hinstalled =>
    exact h.moveTo .ended (fun _ => Or.inr rfl) fun hended => absurd rfl hended

/-- An event that must not follow an exit request does follow one. -/
theorem not_pairwise_concat {events : List ProcessEvent} (hrequested : .exitRequested ∈ events)
    {event : ProcessEvent} (hevent : event = .nullRun ∨ event = .connectionOpened) :
    ¬(events ++ [event]).Pairwise fun earlier later =>
      earlier = .exitRequested → later ≠ .nullRun ∧ later ≠ .connectionOpened := by
  intro h
  obtain ⟨hnull, hopened⟩ := (List.pairwise_append.mp h).2.2 .exitRequested hrequested event
    (List.mem_singleton_self event) rfl
  exact hevent.elim hnull hopened

/-- From some process, further steps can break what was requested. -/
def Breakable (endsWait : Bool) (process : Process) : Prop :=
  ∃ later process', runSteps (Process.step endsWait) process later = some process' ∧
    ¬process'.Honoured

/-- A process is breakable if one of its steps leads to a breakable one. -/
theorem Breakable.of_step {endsWait : Bool} {process next : Process} {label : ProcessStep}
    (hstep : process.step endsWait label = some next) (h : next.Breakable endsWait) :
    process.Breakable endsWait := by
  obtain ⟨later, process', hrun, hbroken⟩ := h
  exact ⟨label :: later, process', by rw [runSteps, hstep]; exact hrun, hbroken⟩

/-- A process is breakable if its next step breaks the request. -/
theorem Breakable.of_last {endsWait : Bool} {process next : Process} {label : ProcessStep}
    (hstep : process.step endsWait label = some next) (hbroken : ¬next.Honoured) :
    process.Breakable endsWait :=
  .of_step hstep ⟨[], next, rfl, hbroken⟩

section Windows

variable {endsWait : Bool} {process : Process} (hrequested : .exitRequested ∈ process.events)
include hrequested

/-- Requested before `connect`, the exit does not keep `run` from connecting. -/
theorem breakable_of_runEntered (hstage : process.stage = .runEntered) :
    process.Breakable endsWait := by
  have hstep : process.step endsWait (.connect true) = some (process.openConnection true) := by
    simp [Process.step, hstage]
  exact .of_last hstep (not_pairwise_concat hrequested (Or.inr rfl))

/-- Nor does it keep the loop from reconnecting. -/
theorem breakable_of_reconnecting (hstage : process.stage = .reconnecting) :
    process.Breakable endsWait := by
  have hstep : process.step endsWait (.reconnect true) = some (process.openConnection true) := by
    simp [Process.step, hstage]
  exact .of_last hstep (not_pairwise_concat hrequested (Or.inr rfl))

/-- Requested before the call of `run`, the exit does not keep `main` from the call, through a null
client or not. -/
theorem breakable_of_clientCreated (hstage : process.stage = .clientCreated) :
    process.Breakable endsWait := by
  cases hclient : process.client with
  | true =>
    have hstep : process.step endsWait .callRun = some { process with stage := .runEntered } := by
      simp [Process.step, hstage, hclient]
    exact .of_step hstep (breakable_of_runEntered hrequested rfl)
  | false =>
    have hstep : process.step endsWait .callRun =
        some { process with stage := .ended, events := process.events ++ [.nullRun] } := by
      simp [Process.step, hstage, hclient]
    exact .of_last hstep (not_pairwise_concat hrequested (Or.inl rfl))

/-- Requested before the client is created, the exit leaves `main` with a null client. -/
theorem breakable_of_configured (hstage : process.stage = .configured) :
    process.Breakable endsWait := by
  have hstep : process.step endsWait .createClient =
      some { process.doCreateClient with stage := .clientCreated } := by
    simp [Process.step, hstage]
  have hevents : process.doCreateClient.events = process.events := by
    unfold doCreateClient
    split <;> rfl
  exact .of_step hstep (breakable_of_clientCreated (by rw [hevents]; exact hrequested) rfl)

end Windows

/-- A first signal at a stage that is not interruptible can be followed by steps that break it. -/
theorem exists_broken_of_signal {endsWait : Bool} {process : Process}
    (hinstalled : process.handlerInstalled = true)
    (hstage : process.stage.interruptible endsWait = false) :
    ∃ later process', runSteps (Process.step endsWait) process (.signal :: later) = some process' ∧
      ¬process'.Honoured := by
  have hkept : process.stage.disconnect endsWait = process.stage := by
    cases h : process.stage with
    | reconnecting =>
      rw [h] at hstage
      have hwait : endsWait = false := hstage
      simp [MainStage.disconnect, hwait]
    | connected | loopEnded | ended => rw [h] at hstage; cases hstage
    | configured | clientCreated | runEntered => rfl
  have hsignal : (process.signalHandler endsWait).stage = process.stage ∧
      .exitRequested ∈ (process.signalHandler endsWait).events := by
    cases hclient : process.bridgeState.client <;>
      simp [Process.signalHandler, doExitProgram, hclient, hkept]
  have hstep : process.step endsWait .signal = some (process.signalHandler endsWait) := by
    cases h : process.stage with
    | ended => rw [h] at hstage; cases hstage
    | configured | clientCreated | runEntered | connected | reconnecting | loopEnded =>
      simp [Process.step, h, hinstalled]
  have hbreakable : (process.signalHandler endsWait).Breakable endsWait := by
    cases h : process.stage with
    | configured => exact breakable_of_configured hsignal.2 (hsignal.1.trans h)
    | clientCreated => exact breakable_of_clientCreated hsignal.2 (hsignal.1.trans h)
    | runEntered => exact breakable_of_runEntered hsignal.2 (hsignal.1.trans h)
    | reconnecting => exact breakable_of_reconnecting hsignal.2 (hsignal.1.trans h)
    | connected | loopEnded | ended => rw [h] at hstage; cases hstage
  obtain ⟨later, process', hrun, hbroken⟩ := hbreakable
  exact ⟨later, process', by rw [runSteps, hstep]; exact hrun, hbroken⟩

/-- The signal handler stays installed until the first signal. -/
theorem handlerInstalled_step {endsWait : Bool} {process process' : Process} {label : ProcessStep}
    (hinstalled : process.handlerInstalled = true) (hlabel : label ≠ .signal)
    (hstep : process.step endsWait label = some process') : process'.handlerInstalled = true := by
  cases moves_of_step hstep with
  | createClient =>
    have hcreate : process.doCreateClient.handlerInstalled = process.handlerInstalled := by
      unfold doCreateClient
      split <;> rfl
    exact hcreate.trans hinstalled
  | callRun | nullRun | connect | loseConnection | reconnect | endLoop | endRun =>
    exact hinstalled
  | handleSignal | killed => exact absurd rfl hlabel

/-- A shutdown request is honoured in every run whose signals come while a disconnect ends the loop
or after the loop. The condition is exact: a first signal at any other point can be followed by
a run through a null client or by a further connection. -/
theorem shutdown_honoured (endsWait : Bool) :
    (∀ labels process,
      Guarded (Process.step endsWait) (Interruptible endsWait) initial labels →
      runSteps (Process.step endsWait) initial labels = some process → process.Honoured) ∧
    ∀ labels process, .signal ∉ labels →
      runSteps (Process.step endsWait) initial labels = some process →
      process.stage.interruptible endsWait = false →
      ∃ later process', runSteps (Process.step endsWait) process (.signal :: later) =
        some process' ∧ ¬process'.Honoured := by
  constructor
  · intro labels process hguarded hrun
    have hinitial : initial.Orderly := {
      honoured := List.Pairwise.nil
      requested := fun hmem => absurd hmem List.not_mem_nil
      stopped := fun hset => absurd hset Bool.false_ne_true
      created := fun hconfigured => absurd rfl hconfigured
      installed := fun _ => rfl }
    have horderly : process.Orderly := Guarded.invariant (motive := Orderly)
      (fun _ _ _ h hguard hstep => h.step hguard hstep) hinitial hguarded hrun
    exact horderly.honoured
  · intro labels process hunsignalled hrun hstage
    have hlabels : ∀ label ∈ labels, label ≠ ProcessStep.signal := fun label hlabel heq =>
      hunsignalled (heq ▸ hlabel)
    have hguarded : Guarded (Process.step endsWait) (fun _ label => label ≠ .signal) initial
        labels := .of_forall (fun label hlabel _ => hlabels label hlabel) initial
    have hinstalled : process.handlerInstalled = true :=
      Guarded.invariant (motive := fun process => process.handlerInstalled = true)
        (fun _ _ _ h hlabel hstep => handlerInstalled_step h hlabel hstep) rfl hguarded hrun
    exact exists_broken_of_signal hinstalled hstage

/-- A signal before the client is created leads to a run through a null client; one between the
creation and the connect does not stop the connect. Both happen even if a disconnect ends every
wait. -/
theorem shutdown_missed :
    (∃ process, runSteps (Process.step true) initial [.signal, .createClient, .callRun] =
        some process ∧ process.events = [.exitRequested, .nullRun] ∧ ¬process.Honoured) ∧
      ∃ process, runSteps (Process.step true) initial
          [.createClient, .signal, .callRun, .connect true] = some process ∧
        process.events = [.exitRequested, .connectionOpened] ∧ ¬process.Honoured :=
  ⟨⟨_, rfl, by decide, by decide⟩, _, rfl, by decide, by decide⟩

end Process

end MqttBridge
