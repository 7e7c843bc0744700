import Mathlib.Logic.Function.Basic
import MqttBridge.Library.Runs
import MqttBridge.Shutdown

/-!
# Signals on several threads

`main` creates the client, and the signal handler asks for the exit, in a visit of the bridge state
under its mutex. A signal may be delivered to any thread of the process at any time; the code it
interrupts goes on only after the handler has returned. The mutex is not recursive, so a handler
that interrupts `main` inside its visit waits for a mutex that is never unlocked. Everywhere else
each call of the handler can return, as long as `disconnect` does, and the two visits exclude each
other.
-/

namespace MqttBridge

/-- The signals the handler is installed for. -/
inductive BridgeSignal
  | sigint
  | sigterm
deriving DecidableEq, Repr

/-- The last step a call of `signal_handler` has made. -/
inductive CallPhase
  | entered
  | sigintReset
  | sigtermReset
  | locked
  | exitDone
deriving DecidableEq, Repr

/-- A call of `signal_handler` that has not returned. -/
structure SignalCall where
  signal : BridgeSignal
  phase : CallPhase
deriving DecidableEq, Repr

/-- The last step `main` has made in its visit of the bridge state. -/
inductive VisitPhase
  | outside
  | locked
  | created
deriving DecidableEq, Repr

/-- The process with its threads: the mutex of the bridge state, where `main` is in its visit,
whether each signal still has its handler, and on each thread the calls of the handler, the running
one first. The dispositions take the place of `process.handlerInstalled`, which is left as it is. -/
structure ThreadedProcess (τ : Type*) where
  process : Process
  mutex : Bool
  visit : VisitPhase
  installed : BridgeSignal → Bool
  calls : τ → List SignalCall
  stopCalls : ℕ

/-- The steps of `main`, of the handler, and the delivery of a signal to a thread. -/
inductive ThreadStep (τ : Type*)
  | lock
  | create
  | unlock
  | main (label : ProcessStep)
  | deliver (signal : BridgeSignal) (thread : τ)
  | call (thread : τ)
deriving DecidableEq, Repr

/-- A call in this phase is inside its visit of the bridge state. -/
def CallPhase.inside : CallPhase → Bool
  | entered | sigintReset | sigtermReset => false
  | locked | exitDone => true

/-- A call in this phase has not reset both signals. -/
def CallPhase.early : CallPhase → Bool
  | entered | sigintReset => true
  | sigtermReset | locked | exitDone => false

/-- A call that has not reset both signals is not inside. -/
theorem CallPhase.inside_of_early {phase : CallPhase} (h : phase.early = true) :
    phase.inside = false := by
  cases phase with
  | entered | sigintReset => rfl
  | sigtermReset | locked | exitDone => cases h

namespace ThreadedProcess

section Steps

variable {τ : Type*} [DecidableEq τ]

/-- The process once the configuration is read, with no signal delivered. -/
def initial : ThreadedProcess τ := ⟨.initial, false, .outside, fun _ => true, fun _ => [], 0⟩

/-- The next step of the running call of a thread. -/
def stepCall (endsWait : Bool) (state : ThreadedProcess τ) (thread : τ) :
    Option (ThreadedProcess τ) :=
  match state.calls thread with
  | [] => none
  | ⟨signal, .entered⟩ :: rest =>
    some { state with
      installed := Function.update state.installed .sigint false
      calls := Function.update state.calls thread (⟨signal, .sigintReset⟩ :: rest) }
  | ⟨signal, .sigintReset⟩ :: rest =>
    some { state with
      installed := Function.update state.installed .sigterm false
      calls := Function.update state.calls thread (⟨signal, .sigtermReset⟩ :: rest) }
  | ⟨signal, .sigtermReset⟩ :: rest =>
    if state.mutex then none
    else some { state with
      mutex := true
      calls := Function.update state.calls thread (⟨signal, .locked⟩ :: rest) }
  | ⟨signal, .locked⟩ :: rest =>
    -- The flag is only read under the mutex, so setting it and the call of `stop` are one step.
    -- That `disconnect`, which `stop` calls, returns is an assumption on the MQTT library.
    some { state with
      process := state.process.doExitProgram endsWait
      calls := Function.update state.calls thread (⟨signal, .exitDone⟩ :: rest)
      stopCalls := if state.process.bridgeState.client then state.stopCalls + 1
        else state.stopCalls }
  | ⟨_, .exitDone⟩ :: rest =>
    some { state with mutex := false, calls := Function.update state.calls thread rest }

/-- A signal is delivered to a thread that is not handling it: its handler is called, or the process
is killed. -/
def deliver (state : ThreadedProcess τ) (signal : BridgeSignal) (thread : τ) :
    Option (ThreadedProcess τ) :=
  if ∃ call ∈ state.calls thread, call.signal = signal then none
  else if state.installed signal then
    some { state with
      calls := Function.update state.calls thread (⟨signal, .entered⟩ :: state.calls thread) }
  else some { state with process := { state.process with stage := .ended } }

/-- The next step of `main`'s visit, or of what it does before or after. -/
def stepMain (endsWait : Bool) (state : ThreadedProcess τ) (label : ThreadStep τ) :
    Option (ThreadedProcess τ) :=
  match label, state.visit with
  | .lock, .outside =>
    if state.process.stage = .configured ∧ state.mutex = false then
      some { state with mutex := true, visit := .locked }
    else none
  | .create, .locked =>
    some { state with
      process := { state.process.doCreateClient with stage := .clientCreated }
      visit := .created }
  | .unlock, .created => some { state with mutex := false, visit := .outside }
  | .main label, .outside =>
    if label = .createClient ∨ label = .signal then none
    else (state.process.step endsWait label).map fun process => { state with process := process }
  | _, _ => none

/-- One step of the process. `main` makes no step while a call on its thread has not returned, and
nobody makes one when the process has ended. -/
def step (main : τ) (endsWait : Bool) (state : ThreadedProcess τ) (label : ThreadStep τ) :
    Option (ThreadedProcess τ) :=
  if state.process.stage = .ended then none
  else match label with
    | .deliver signal thread => state.deliver signal thread
    | .call thread => state.stepCall endsWait thread
    | .lock | .create | .unlock | .main _ =>
      if state.calls main = [] then state.stepMain endsWait label else none

end Steps

section Owner

variable {τ : Type*}

/-- Who is inside a visit of the bridge state: `main`, or a call on a thread. -/
def Inside (state : ThreadedProcess τ) : Option τ → Prop
  | none => state.visit ≠ .outside
  | some thread => ∃ call ∈ state.calls thread, call.phase.inside = true

/-- What holds of the threads in every state: a call that is interrupted by another one has not
reset both signals, resets stay, and the mutex is locked exactly if someone is inside a visit, who
is then the only one. -/
structure Exclusive (state : ThreadedProcess τ) : Prop where
  below : ∀ thread call rest, state.calls thread = call :: rest →
    ∀ earlier ∈ rest, earlier.phase.early = true
  reset : ∀ thread, ∀ call ∈ state.calls thread,
    (call.phase ≠ .entered → state.installed .sigint = false) ∧
      (call.phase.early = false → state.installed .sigterm = false)
  owned : ∃ owner : Option (Option τ), state.mutex = owner.isSome ∧
    ∀ party, state.Inside party ↔ owner = some party

variable {state state' : ThreadedProcess τ}

/-- At an unlocked mutex nobody is inside. -/
theorem Exclusive.not_inside (h : state.Exclusive) (hmutex : state.mutex = false)
    (party : Option τ) : ¬state.Inside party := by
  obtain ⟨owner, howner, hinside⟩ := h.owned
  rw [hmutex] at howner
  rw [hinside, Option.not_isSome_iff_eq_none.mp (Bool.eq_false_iff.mp howner.symm)]
  simp

/-- Whoever is inside is the only one, and the mutex is locked. -/
theorem Exclusive.unique (h : state.Exclusive) {party : Option τ} (hinside : state.Inside party) :
    state.mutex = true ∧ ∀ other, state.Inside other → other = party := by
  obtain ⟨owner, howner, hiff⟩ := h.owned
  have hparty := (hiff party).mp hinside
  refine ⟨by rw [howner, hparty, Option.isSome_some], fun other hother => ?_⟩
  exact Option.some.inj (((hiff other).mp hother).symm.trans hparty)

/-- Nobody else comes inside or leaves when a step keeps `main`'s visit and who is inside on each
thread. -/
theorem Exclusive.owned_congr (h : state.Exclusive) (hmutex : state'.mutex = state.mutex)
    (hinside : ∀ party, state'.Inside party ↔ state.Inside party) :
    ∃ owner : Option (Option τ), state'.mutex = owner.isSome ∧
      ∀ party, state'.Inside party ↔ owner = some party := by
  obtain ⟨owner, howner, hiff⟩ := h.owned
  exact ⟨owner, hmutex.trans howner, fun party => (hinside party).trans (hiff party)⟩

/-- The running call of a thread is the one that is inside, if one is. -/
theorem Exclusive.inside_iff (h : state.Exclusive) {thread : τ} {call : SignalCall}
    {rest : List SignalCall} (hstack : state.calls thread = call :: rest) :
    state.Inside (some thread) ↔ call.phase.inside = true := by
  have hrest : ¬∃ earlier ∈ rest, earlier.phase.inside = true := by
    intro hinside
    obtain ⟨earlier, hmem, hinside⟩ := hinside
    have hearly := h.below thread call rest hstack earlier hmem
    exact absurd (hinside.symm.trans (CallPhase.inside_of_early hearly)) Bool.noConfusion
  simp only [Inside, hstack, List.exists_mem_cons_iff, or_iff_left hrest]

/-- Only the running call of a thread that is inside returns or goes on inside. -/
theorem Exclusive.not_inside_other (h : state.Exclusive) {thread : τ} {call : SignalCall}
    {rest : List SignalCall} (hstack : state.calls thread = call :: rest)
    (hphase : call.phase.inside = true) {party : Option τ} (hparty : party ≠ some thread) :
    ¬state.Inside party := fun hinside =>
  hparty ((h.unique ((h.inside_iff hstack).mpr hphase)).2 party hinside)

/-- While a signal is handled, no call has reset both. -/
theorem Exclusive.early_of_installed (h : state.Exclusive) {signal : BridgeSignal}
    (hinstalled : state.installed signal = true) (thread : τ) :
    ∀ call ∈ state.calls thread, call.phase.early = true := by
  intro call hcall
  by_contra hlate
  have hlate : call.phase.early = false := by simpa using hlate
  obtain ⟨hsigint, hsigterm⟩ := h.reset thread call hcall
  cases signal with
  | sigint =>
    have hentered : call.phase ≠ .entered := fun hphase => by
      rw [hphase] at hlate
      cases hlate
    exact absurd (hinstalled.symm.trans (hsigint hentered)) Bool.noConfusion
  | sigterm => exact absurd (hinstalled.symm.trans (hsigterm hlate)) Bool.noConfusion

/-- At the start nobody is inside. -/
theorem exclusive_initial : (initial : ThreadedProcess τ).Exclusive where
  below := fun _ _ _ hcalls => by cases hcalls
  reset := fun _ _ hcall => absurd hcall List.not_mem_nil
  owned := ⟨none, rfl, fun party => by cases party <;> simp [Inside, initial]⟩

end Owner

variable {τ : Type*} [DecidableEq τ]

/-- What a step can do, with the condition it is taken under. -/
inductive Moves (main : τ) (endsWait : Bool) (state : ThreadedProcess τ) :
    ThreadStep τ → ThreadedProcess τ → Prop
  | lock (hfree : state.calls main = []) (hvisit : state.visit = .outside)
      (hstage : state.process.stage = .configured) (hmutex : state.mutex = false) :
    Moves main endsWait state .lock { state with mutex := true, visit := .locked }
  | create (hfree : state.calls main = []) (hvisit : state.visit = .locked) :
    Moves main endsWait state .create
      { state with
        process := { state.process.doCreateClient with stage := .clientCreated }
        visit := .created }
  | unlock (hfree : state.calls main = []) (hvisit : state.visit = .created) :
    Moves main endsWait state .unlock { state with mutex := false, visit := .outside }
  | main (label : ProcessStep) (process : Process) (hfree : state.calls main = [])
      (hvisit : state.visit = .outside) (hlabel : label ≠ .createClient ∧ label ≠ .signal)
      (hprocess : state.process.step endsWait label = some process) :
    Moves main endsWait state (.main label) { state with process := process }
  | deliver (signal : BridgeSignal) (thread : τ) (hinstalled : state.installed signal = true) :
    Moves main endsWait state (.deliver signal thread)
      { state with
        calls := Function.update state.calls thread (⟨signal, .entered⟩ :: state.calls thread) }
  | kill (signal : BridgeSignal) (thread : τ) (hinstalled : state.installed signal = false) :
    Moves main endsWait state (.deliver signal thread)
      { state with process := { state.process with stage := .ended } }
  | resetSigint (thread : τ) (signal : BridgeSignal) (rest : List SignalCall)
      (hcalls : state.calls thread = ⟨signal, .entered⟩ :: rest) :
    Moves main endsWait state (.call thread)
      { state with
        installed := Function.update state.installed .sigint false
        calls := Function.update state.calls thread (⟨signal, .sigintReset⟩ :: rest) }
  | resetSigterm (thread : τ) (signal : BridgeSignal) (rest : List SignalCall)
      (hcalls : state.calls thread = ⟨signal, .sigintReset⟩ :: rest) :
    Moves main endsWait state (.call thread)
      { state with
        installed := Function.update state.installed .sigterm false
        calls := Function.update state.calls thread (⟨signal, .sigtermReset⟩ :: rest) }
  | lockCall (thread : τ) (signal : BridgeSignal) (rest : List SignalCall)
      (hcalls : state.calls thread = ⟨signal, .sigtermReset⟩ :: rest)
      (hmutex : state.mutex = false) :
    Moves main endsWait state (.call thread)
      { state with
        mutex := true
        calls := Function.update state.calls thread (⟨signal, .locked⟩ :: rest) }
  | exitProgram (thread : τ) (signal : BridgeSignal) (rest : List SignalCall)
      (hcalls : state.calls thread = ⟨signal, .locked⟩ :: rest) :
    Moves main endsWait state (.call thread)
      { state with
        process := state.process.doExitProgram endsWait
        calls := Function.update state.calls thread (⟨signal, .exitDone⟩ :: rest)
        stopCalls := if state.process.bridgeState.client then state.stopCalls + 1
          else state.stopCalls }
  | returnCall (thread : τ) (signal : BridgeSignal) (rest : List SignalCall)
      (hcalls : state.calls thread = ⟨signal, .exitDone⟩ :: rest) :
    Moves main endsWait state (.call thread)
      { state with mutex := false, calls := Function.update state.calls thread rest }

variable {main : τ} {endsWait : Bool} {state state' : ThreadedProcess τ} {label : ThreadStep τ}

/-- Each step of a call is one of the moves. -/
theorem moves_of_stepCall {thread : τ} (hstep : state.stepCall endsWait thread = some state') :
    state.Moves main endsWait (.call thread) state' := by
  unfold stepCall at hstep
  split at hstep
  · cases hstep
  · rename_i hcalls
    cases hstep
    exact .resetSigint thread _ _ hcalls
  · rename_i hcalls
    cases hstep
    exact .resetSigterm thread _ _ hcalls
  · rename_i hcalls
    split at hstep
    · cases hstep
    · rename_i hmutex
      cases hstep
      exact .lockCall thread _ _ hcalls (by simpa using hmutex)
  · rename_i hcalls
    cases hstep
    exact .exitProgram thread _ _ hcalls
  · rename_i hcalls
    cases hstep
    exact .returnCall thread _ _ hcalls

/-- So is each delivery. -/
theorem moves_of_deliver {signal : BridgeSignal} {thread : τ}
    (hstep : state.deliver signal thread = some state') :
    state.Moves main endsWait (.deliver signal thread) state' := by
  unfold deliver at hstep
  split at hstep
  · cases hstep
  · split at hstep
    · rename_i hinstalled
      cases hstep
      exact .deliver signal thread hinstalled
    · rename_i hinstalled
      cases hstep
      exact .kill signal thread (by simpa using hinstalled)

/-- And each step of `main`. -/
theorem moves_of_stepMain (hfree : state.calls main = [])
    (hstep : state.stepMain endsWait label = some state') :
    state.Moves main endsWait label state' := by
  unfold stepMain at hstep
  split at hstep
  · rename_i hvisit
    split at hstep
    · rename_i hfirst
      cases hstep
      exact .lock hfree hvisit hfirst.1 hfirst.2
    · cases hstep
  · rename_i hvisit
    cases hstep
    exact .create hfree hvisit
  · rename_i hvisit
    cases hstep
    exact .unlock hfree hvisit
  · rename_i hvisit
    split at hstep
    · cases hstep
    · rename_i hlabel
      obtain ⟨process, hprocess, rfl⟩ := Option.map_eq_some_iff.mp hstep
      exact .main _ process hfree hvisit (not_or.mp hlabel) hprocess
  · cases hstep

/-- Each step is one of the moves, and is made before the process has ended. -/
theorem moves_of_step (hstep : state.step main endsWait label = some state') :
    state.process.stage ≠ .ended ∧ state.Moves main endsWait label state' := by
  unfold step at hstep
  split at hstep
  · cases hstep
  · rename_i hended
    refine ⟨hended, ?_⟩
    split at hstep
    · exact moves_of_deliver hstep
    · exact moves_of_stepCall hstep
    all_goals
      split at hstep
      · rename_i hfree
        exact moves_of_stepMain hfree hstep
      · cases hstep

/-- A step that gives one thread other calls keeps the threads in order if these calls are in order
and the mutex is. -/
theorem Exclusive.replace (h : state.Exclusive) {thread : τ} {calls : List SignalCall}
    (hcalls : state'.calls = Function.update state.calls thread calls)
    (hinstalled : ∀ signal, state.installed signal = false → state'.installed signal = false)
    (hbelow : ∀ call rest, calls = call :: rest → ∀ earlier ∈ rest, earlier.phase.early = true)
    (hreset : ∀ call ∈ calls, (call.phase ≠ .entered → state'.installed .sigint = false) ∧
      (call.phase.early = false → state'.installed .sigterm = false))
    (howned : ∃ owner : Option (Option τ), state'.mutex = owner.isSome ∧
      ∀ party, state'.Inside party ↔ owner = some party) : state'.Exclusive where
  below := by
    intro other call rest hstack
    rw [hcalls] at hstack
    by_cases hother : other = thread
    · subst hother
      rw [Function.update_self] at hstack
      exact hbelow call rest hstack
    · rw [Function.update_of_ne hother] at hstack
      exact h.below other call rest hstack
  reset := by
    intro other call hcall
    rw [hcalls] at hcall
    by_cases hother : other = thread
    · subst hother
      rw [Function.update_self] at hcall
      exact hreset call hcall
    · rw [Function.update_of_ne hother] at hcall
      obtain ⟨hsigint, hsigterm⟩ := h.reset other call hcall
      exact ⟨fun hphase => hinstalled _ (hsigint hphase),
        fun hphase => hinstalled _ (hsigterm hphase)⟩
  owned := howned

/-- A step of the running call of a thread keeps the threads in order. -/
theorem Exclusive.advance (h : state.Exclusive) {thread : τ} {signal : BridgeSignal}
    {phase phase' : CallPhase} {rest : List SignalCall}
    (hstack : state.calls thread = ⟨signal, phase⟩ :: rest)
    (hcalls : state'.calls = Function.update state.calls thread (⟨signal, phase'⟩ :: rest))
    (hinstalled : ∀ signal, state.installed signal = false → state'.installed signal = false)
    (hsigint : phase' ≠ .entered → state'.installed .sigint = false)
    (hsigterm : phase'.early = false → state'.installed .sigterm = false)
    (howned : ∃ owner : Option (Option τ), state'.mutex = owner.isSome ∧
      ∀ party, state'.Inside party ↔ owner = some party) : state'.Exclusive := by
  refine h.replace hcalls hinstalled (fun call others hsame => ?_) (fun call hcall => ?_) howned
  · rw [← (List.cons.inj hsame).2]
    exact h.below thread _ rest hstack
  · rcases List.mem_cons.mp hcall with rfl | hcall
    · exact ⟨hsigint, hsigterm⟩
    · obtain ⟨hsigint', hsigterm'⟩ := h.reset thread call (by rw [hstack]; simp [hcall])
      exact ⟨fun hphase => hinstalled _ (hsigint' hphase),
        fun hphase => hinstalled _ (hsigterm' hphase)⟩

variable (state) in
/-- Who is inside after one thread was given other calls. -/
theorem inside_update {thread : τ} {calls : List SignalCall}
    (hcalls : state'.calls = Function.update state.calls thread calls)
    (hvisit : state'.visit = state.visit) (party : Option τ) :
    state'.Inside party ↔
      if party = some thread then ∃ call ∈ calls, call.phase.inside = true
      else state.Inside party := by
  cases party with
  | none => simp [Inside, hvisit]
  | some other =>
    by_cases hother : other = thread
    · subst hother
      simp [Inside, hcalls]
    · simp [Inside, hcalls, hother]

/-- A running call that stays inside or outside leaves everyone where they are. -/
theorem inside_advance {thread : τ} {signal : BridgeSignal} {phase phase' : CallPhase}
    {rest : List SignalCall} (hstack : state.calls thread = ⟨signal, phase⟩ :: rest)
    (hcalls : state'.calls = Function.update state.calls thread (⟨signal, phase'⟩ :: rest))
    (hvisit : state'.visit = state.visit) (hphase : phase'.inside = phase.inside)
    (party : Option τ) : state'.Inside party ↔ state.Inside party := by
  rw [inside_update state hcalls hvisit]
  split
  · rename_i hparty
    subst hparty
    simp [Inside, hstack, hphase]
  · rfl

/-- Each step keeps the threads in order. -/
theorem Exclusive.step (h : state.Exclusive)
    (hstep : state.step main endsWait label = some state') : state'.Exclusive := by
  have hsame : ∀ signal, state.installed signal = false → state.installed signal = false :=
    fun _ hreset => hreset
  cases (moves_of_step hstep).2 with
  | lock _ hvisit _ hmutex =>
    refine ⟨h.below, h.reset, some none, rfl, fun party => ?_⟩
    cases party with
    | none => simp [Inside]
    | some thread => simpa [Inside] using h.not_inside hmutex (some thread)
  | create _ hvisit =>
    refine ⟨h.below, h.reset, h.owned_congr rfl fun party => ?_⟩
    cases party <;> simp [Inside, hvisit]
  | unlock _ hvisit =>
    have hmain : state.Inside none := by simp [Inside, hvisit]
    refine ⟨h.below, h.reset, none, rfl, fun party => ?_⟩
    cases party with
    | none => simp [Inside]
    | some thread =>
      have hout : ¬state.Inside (some thread) := fun hinside =>
        absurd ((h.unique hmain).2 (some thread) hinside) (by simp)
      simpa [Inside] using hout
  | main | kill => exact ⟨h.below, h.reset, h.owned⟩
  | deliver signal thread hinstalled =>
    have hearly := h.early_of_installed hinstalled thread
    refine h.replace rfl hsame (fun call rest hcons => ?_) (fun call hcall => ?_)
      (h.owned_congr rfl fun party => ?_)
    · rw [← (List.cons.inj hcons).2]
      exact hearly
    · rcases List.mem_cons.mp hcall with rfl | hcall
      · exact ⟨fun hphase => absurd rfl hphase, fun hphase => by cases hphase⟩
      · exact h.reset thread call hcall
    · refine Iff.trans (inside_update state (by rfl) (by rfl) party) ?_
      split
      · rename_i hparty
        subst hparty
        simp [Inside, CallPhase.inside]
      · rfl
  | resetSigint thread signal rest hcalls =>
    refine h.advance hcalls rfl (fun other hreset => ?_) (fun _ => by simp) (fun hphase => ?_)
      (h.owned_congr rfl (inside_advance hcalls rfl rfl rfl))
    · by_cases hother : other = .sigint <;> simp [hother, hreset]
    · cases hphase
  | resetSigterm thread signal rest hcalls =>
    have hsigint := (h.reset thread _ (by rw [hcalls]; exact List.mem_cons_self)).1 (by simp)
    refine h.advance hcalls rfl (fun other hreset => ?_) (fun _ => ?_) (fun _ => by simp)
      (h.owned_congr rfl (inside_advance hcalls rfl rfl rfl))
    · by_cases hother : other = .sigterm <;> simp [hother, hreset]
    · simpa using hsigint
  | lockCall thread signal rest hcalls hmutex =>
    have hreset := h.reset thread _ (by rw [hcalls]; exact List.mem_cons_self)
    refine h.advance hcalls rfl hsame (fun _ => hreset.1 (by simp)) (fun _ => hreset.2 rfl)
      ⟨some (some thread), rfl,
        fun party => Iff.trans (inside_update state (by rfl) (by rfl) party) ?_⟩
    split
    · rename_i hparty
      simp [hparty, CallPhase.inside]
    · rename_i hparty
      simp [h.not_inside hmutex party, Ne.symm hparty]
  | exitProgram thread signal rest hcalls =>
    have hreset := h.reset thread _ (by rw [hcalls]; exact List.mem_cons_self)
    exact h.advance hcalls rfl hsame (fun _ => hreset.1 (by simp)) (fun _ => hreset.2 rfl)
      (h.owned_congr rfl (inside_advance hcalls rfl rfl rfl))
  | returnCall thread signal rest hcalls =>
    have hrest := h.below thread _ rest hcalls
    refine h.replace rfl hsame (fun call others hcons earlier hearlier => ?_)
      (fun call hcall => h.reset thread call (by rw [hcalls]; exact List.mem_cons_of_mem _ hcall))
      ⟨none, rfl, fun party => Iff.trans (inside_update state (by rfl) (by rfl) party) ?_⟩
    · exact hrest earlier (by rw [hcons]; exact List.mem_cons_of_mem _ hearlier)
    · split
      · simpa using fun call hcall => CallPhase.inside_of_early (hrest call hcall)
      · rename_i hparty
        simp [h.not_inside_other hcalls rfl hparty]

end ThreadedProcess

/-- A disconnect neither begins nor ends anything but the loop. -/
theorem MainStage.disconnect_eq_iff (endsWait : Bool) {stage other : MainStage}
    (h : other = .configured ∨ other = .ended) :
    stage.disconnect endsWait = other ↔ stage = other := by
  cases stage with
  | reconnecting => cases endsWait <;> rcases h with rfl | rfl <;> simp [disconnect]
  | configured | clientCreated | runEntered | connected | loopEnded | ended =>
    rcases h with rfl | rfl <;> simp [disconnect]

namespace Process

variable {endsWait : Bool} {process process' : Process} {label : ProcessStep}

/-- What a step of `main` after its visit leaves alone. A run through a null client is the only step
that depends on the client. -/
structure Frame (process process' : Process) : Prop where
  client : process'.client = process.client
  bridgeState : process'.bridgeState = process.bridgeState
  handlerInstalled : process'.handlerInstalled = process.handlerInstalled
  configured : process.stage ≠ .configured ∧ process'.stage ≠ .configured
  nullRun : .nullRun ∈ process'.events → .nullRun ∈ process.events ∨ process.client = false

/-- Every step but the visits stays in the frame. -/
theorem frame_of_step (hlabel : label ≠ .createClient ∧ label ≠ .signal)
    (hstep : process.step endsWait label = some process') : process.Frame process' := by
  have hopen : ∀ accepted, process.stage ≠ .configured →
      process.Frame (process.openConnection accepted) := fun accepted hstage =>
    ⟨rfl, rfl, rfl, ⟨hstage, by cases accepted <;> simp [openConnection]⟩,
      fun hmem => Or.inl (by simpa [openConnection] using hmem)⟩
  cases moves_of_step hstep with
  | createClient => exact absurd rfl hlabel.1
  | handleSignal | killed => exact absurd rfl hlabel.2
  | connect accepted hstage | reconnect accepted hstage =>
    exact hopen accepted (by simp [hstage])
  | nullRun hstage hclient =>
    exact ⟨rfl, rfl, rfl, ⟨by simp [hstage], by simp⟩, fun _ => Or.inr hclient⟩
  | endLoop hstage =>
    refine ⟨rfl, rfl, rfl, ⟨?_, by simp⟩, Or.inl⟩
    rcases hstage with hstage | hstage <;> simp [hstage]
  | callRun hstage | loseConnection hstage | endRun hstage =>
    exact ⟨rfl, rfl, rfl, ⟨by simp [hstage], by simp⟩, Or.inl⟩

variable (endsWait process) in
/-- `do_exit_program` sets the flag and changes the client in no way. -/
theorem doExitProgram_state :
    (process.doExitProgram endsWait).bridgeState =
        { process.bridgeState with exitProgram := true } ∧
      (process.doExitProgram endsWait).client = process.client ∧
      (process.doExitProgram endsWait).events = process.events ++ [.exitRequested] ∧
      ((process.doExitProgram endsWait).stage = process.stage ∨
        (process.doExitProgram endsWait).stage = process.stage.disconnect endsWait) := by
  unfold doExitProgram
  dsimp only
  split <;> simp

variable (endsWait process) in
/-- Whether `main` has not begun its visit, or has ended, does not change by it either. -/
theorem stage_doExitProgram {stage : MainStage} (h : stage = .configured ∨ stage = .ended) :
    (process.doExitProgram endsWait).stage = stage ↔ process.stage = stage := by
  obtain ⟨_, _, _, hstage | hstage⟩ := doExitProgram_state endsWait process
  · rw [hstage]
  · rw [hstage, MainStage.disconnect_eq_iff endsWait h]

variable (process) in
/-- `do_create_client` makes the client unless the flag is set. -/
theorem doCreateClient_state :
    process.doCreateClient.bridgeState.exitProgram = process.bridgeState.exitProgram ∧
      process.doCreateClient.events = process.events ∧
      process.doCreateClient.handlerInstalled = process.handlerInstalled ∧
      (process.bridgeState.exitProgram = true → process.doCreateClient = process) ∧
      (process.bridgeState.exitProgram = false →
        process.doCreateClient.client = true ∧
          process.doCreateClient.bridgeState.client = true) := by
  unfold doCreateClient
  cases hexit : process.bridgeState.exitProgram <;> simp [hexit]

end Process

namespace ThreadedProcess

variable {τ : Type*} {state state' : ThreadedProcess τ}

/-- What the two visits have left behind in every state: `main` has the shared client or none; once
its visit is over it has one or the flag was set before; and if both are there the client was told
to stop. -/
structure Settled (state : ThreadedProcess τ) : Prop where
  shared : state.process.client = state.process.bridgeState.client
  fresh : state.process.stage = .configured → state.process.client = false
  created : state.process.stage ≠ .configured → state.process.stage ≠ .ended →
    state.process.client = true ∨ state.process.bridgeState.exitProgram = true
  stopped : state.process.bridgeState.exitProgram = true →
    state.process.bridgeState.client = true → 0 < state.stopCalls
  nullRun : .nullRun ∈ state.process.events → state.process.bridgeState.exitProgram = true
  visiting : state.visit = .locked → state.process.stage ≠ .ended →
    state.process.stage = .configured
  done : ∀ thread, ∀ call ∈ state.calls thread, call.phase = .exitDone →
    state.process.bridgeState.exitProgram = true

/-- At the start the threads are in order and nothing is left behind. -/
theorem exclusive_settled_initial :
    (initial : ThreadedProcess τ).Exclusive ∧ (initial : ThreadedProcess τ).Settled := by
  refine ⟨exclusive_initial, ?_⟩
  exact {
    shared := rfl
    fresh := fun _ => rfl
    created := fun hstage => absurd rfl hstage
    stopped := fun hset => by cases hset
    nullRun := fun hmem => absurd hmem List.not_mem_nil
    visiting := fun _ _ => rfl
    done := fun _ _ hcall => absurd hcall List.not_mem_nil }

/-- A step that leaves the process as it is and lets no call get through its visit. -/
theorem Settled.keep (h : state.Settled) (hprocess : state'.process = state.process)
    (hstop : state'.stopCalls = state.stopCalls)
    (hvisit : state'.visit = .locked → state.process.stage ≠ .ended →
      state.process.stage = .configured)
    (hdone : ∀ thread, ∀ call ∈ state'.calls thread, call.phase = .exitDone →
      ∃ call ∈ state.calls thread, call.phase = .exitDone) : state'.Settled where
  shared := by rw [hprocess]; exact h.shared
  fresh := by rw [hprocess]; exact h.fresh
  created := by rw [hprocess]; exact h.created
  stopped := by rw [hprocess, hstop]; exact h.stopped
  nullRun := by rw [hprocess]; exact h.nullRun
  visiting := by rw [hprocess]; exact hvisit
  done := by
    intro thread call hcall hphase
    obtain ⟨other, hother, hdone⟩ := hdone thread call hcall hphase
    rw [hprocess]
    exact h.done thread other hother hdone

/-- `main`'s visit makes the client or finds the flag set. -/
theorem Settled.createClient (h : state.Settled) :
    ({ state with
      process := { state.process.doCreateClient with stage := .clientCreated }
      visit := .created } : ThreadedProcess τ).Settled := by
  obtain ⟨hflag, hevents, _, hset, hunset⟩ := state.process.doCreateClient_state
  cases hexit : state.process.bridgeState.exitProgram with
  | true =>
    rw [hset hexit]
    exact {
      shared := h.shared
      fresh := fun hstage => by cases hstage
      created := fun _ _ => Or.inr hexit
      stopped := h.stopped
      nullRun := h.nullRun
      visiting := fun hlocked => by cases hlocked
      done := h.done }
  | false =>
    obtain ⟨hclient, hclient'⟩ := hunset hexit
    have hflag := hflag.trans hexit
    exact {
      shared := hclient.trans hclient'.symm
      fresh := fun hstage => by cases hstage
      created := fun _ _ => Or.inl hclient
      stopped := fun hset' => absurd (hflag.symm.trans hset') Bool.noConfusion
      nullRun := fun hmem => by
        change _ ∈ state.process.doCreateClient.events at hmem
        rw [hevents] at hmem
        exact absurd (hexit.symm.trans (h.nullRun hmem)) Bool.noConfusion
      visiting := fun hlocked => by cases hlocked
      done := fun thread call hcall hphase =>
        absurd (hexit.symm.trans (h.done thread call hcall hphase)) Bool.noConfusion }

/-- After its visit `main` leaves the client and the flag as they are. -/
theorem Settled.frame (h : state.Settled) (hvisit : state.visit = .outside)
    (hended : state.process.stage ≠ .ended) {process : Process}
    (hframe : state.process.Frame process) :
    ({ state with process := process } : ThreadedProcess τ).Settled := by
  have hcreated := h.created hframe.configured.1 hended
  have hflag : process.bridgeState.exitProgram = state.process.bridgeState.exitProgram := by
    rw [hframe.bridgeState]
  exact {
    shared := by
      change process.client = process.bridgeState.client
      rw [hframe.client, hframe.bridgeState, h.shared]
    fresh := fun hstage => absurd hstage hframe.configured.2
    created := fun _ _ => by
      change process.client = true ∨ process.bridgeState.exitProgram = true
      rw [hframe.client, hflag]
      exact hcreated
    stopped := by
      change process.bridgeState.exitProgram = true → process.bridgeState.client = true → _
      rw [hframe.bridgeState]
      exact h.stopped
    nullRun := fun hmem => by
      change process.bridgeState.exitProgram = true
      rw [hflag]
      rcases hframe.nullRun hmem with hold | hclient
      · exact h.nullRun hold
      · exact hcreated.resolve_left (by simp [hclient])
    visiting := fun hlocked => by
      change state.visit = .locked at hlocked
      rw [hvisit] at hlocked
      cases hlocked
    done := fun thread call hcall hphase => hflag.trans (h.done thread call hcall hphase) }

/-- A call's visit sets the flag and tells the client, if there is one, to stop. -/
theorem Settled.exitProgram (h : state.Settled) (endsWait : Bool)
    (hended : state.process.stage ≠ .ended) (calls : τ → List SignalCall) :
    ({ state with
      process := state.process.doExitProgram endsWait
      calls := calls
      stopCalls := if state.process.bridgeState.client then state.stopCalls + 1
        else state.stopCalls } : ThreadedProcess τ).Settled := by
  obtain ⟨hstate, hclient, _⟩ := state.process.doExitProgram_state endsWait
  have hconfigured := state.process.stage_doExitProgram endsWait
    (Or.inl (Eq.refl MainStage.configured))
  have hflag : (state.process.doExitProgram endsWait).bridgeState.exitProgram = true := by
    rw [hstate]
  exact {
    shared := by
      change (state.process.doExitProgram endsWait).client = _
      rw [hclient, h.shared, hstate]
    fresh := fun hstage => hclient.trans (h.fresh (hconfigured.mp hstage))
    created := fun _ _ => Or.inr hflag
    stopped := fun _ hset => by
      change (state.process.doExitProgram endsWait).bridgeState.client = true at hset
      rw [hstate] at hset
      have hshared : state.process.bridgeState.client = true := hset
      simp [hshared]
    nullRun := fun _ => hflag
    visiting := fun hlocked _ => hconfigured.mpr (h.visiting hlocked hended)
    done := fun _ _ _ _ => hflag }

variable [DecidableEq τ] {main : τ} {endsWait : Bool} {label : ThreadStep τ}

/-- The calls of a thread that were there before. -/
theorem exists_done_update {thread other : τ} {call : SignalCall} {calls : List SignalCall}
    (hcall : call ∈ Function.update state.calls thread calls other)
    (hcalls : ∀ earlier ∈ calls, earlier.phase = .exitDone → earlier ∈ state.calls thread)
    (hphase : call.phase = .exitDone) :
    ∃ call ∈ state.calls other, call.phase = .exitDone := by
  by_cases hother : other = thread
  · subst hother
    rw [Function.update_self] at hcall
    exact ⟨call, hcalls call hcall hphase, hphase⟩
  · rw [Function.update_of_ne hother] at hcall
    exact ⟨call, hcall, hphase⟩

/-- Each step keeps what the visits have left behind. -/
theorem Settled.step (h : state.Settled)
    (hstep : state.step main endsWait label = some state') : state'.Settled := by
  obtain ⟨hended, hmoves⟩ := moves_of_step hstep
  cases hmoves with
  | lock _ _ hstage =>
    exact h.keep rfl rfl (fun _ _ => hstage) fun _ call hcall hphase => ⟨call, hcall, hphase⟩
  | unlock _ hvisit =>
    exact h.keep rfl rfl (fun hlocked => by cases hlocked) fun _ call hcall hphase =>
      ⟨call, hcall, hphase⟩
  | create => exact h.createClient
  | main step process _ hvisit hlabel hprocess =>
    exact h.frame hvisit hended (Process.frame_of_step hlabel hprocess)
  | kill =>
    exact {
      shared := h.shared
      fresh := fun hstage => by cases hstage
      created := fun _ hstage => absurd rfl hstage
      stopped := h.stopped
      nullRun := h.nullRun
      visiting := fun _ hstage => absurd rfl hstage
      done := h.done }
  | deliver signal thread =>
    refine h.keep rfl rfl h.visiting fun other call hcall hphase =>
      exists_done_update hcall (fun earlier hearlier hdone => ?_) hphase
    rcases List.mem_cons.mp hearlier with rfl | hearlier
    · cases hdone
    · exact hearlier
  | resetSigint _ _ _ hcalls | resetSigterm _ _ _ hcalls | lockCall _ _ _ hcalls =>
    refine h.keep rfl rfl h.visiting fun other call hcall hphase =>
      exists_done_update hcall (fun earlier hearlier hdone => ?_) hphase
    rcases List.mem_cons.mp hearlier with rfl | hearlier
    · cases hdone
    · rw [hcalls]
      exact List.mem_cons_of_mem _ hearlier
  | returnCall _ _ _ hcalls =>
    refine h.keep rfl rfl h.visiting fun other call hcall hphase =>
      exists_done_update hcall (fun earlier hearlier _ => ?_) hphase
    rw [hcalls]
    exact List.mem_cons_of_mem _ hearlier
  | exitProgram thread signal rest => exact h.exitProgram endsWait hended _

/-- The order of the threads and what is left behind are kept by all steps that follow. -/
theorem exclusive_settled_of_run (h : state.Exclusive ∧ state.Settled)
    {labels : List (ThreadStep τ)}
    (hrun : runSteps (ThreadedProcess.step main endsWait) state labels = some state') :
    state'.Exclusive ∧ state'.Settled := by
  have hguard : Guarded (ThreadedProcess.step main endsWait) (fun _ _ => True) state labels :=
    .of_forall (fun _ _ _ => trivial) state
  exact Guarded.invariant (motive := fun state => state.Exclusive ∧ state.Settled)
    (fun _ _ _ h _ hstep => ⟨h.1.step hstep, h.2.step hstep⟩) h hguard hrun

/-- The two visits exclude each other, and neither misses the other. In every state of every run,
with any number of threads and signals, at most one party is inside a visit of the bridge state, and
the mutex is locked exactly if one is. If the flag is set and there is a client, the client was told
to stop; once `main` has created its client it has one, unless the flag was set before; and `run` is
called through a null client only if it was. -/
theorem visits_exclude (main : τ) (endsWait : Bool) (labels : List (ThreadStep τ))
    (state : ThreadedProcess τ)
    (hrun : runSteps (ThreadedProcess.step main endsWait) initial labels = some state) :
    (∀ party other, state.Inside party → state.Inside other → party = other) ∧
      (state.mutex = true ↔ ∃ party, state.Inside party) ∧
      (state.process.bridgeState.exitProgram = true → state.process.bridgeState.client = true →
        0 < state.stopCalls) ∧
      (state.process.stage ≠ .configured → state.process.stage ≠ .ended →
        state.process.client = true ∨ state.process.bridgeState.exitProgram = true) ∧
      (.nullRun ∈ state.process.events → state.process.bridgeState.exitProgram = true) := by
  obtain ⟨hexclusive, hsettled⟩ := exclusive_settled_of_run exclusive_settled_initial hrun
  refine ⟨fun party other hparty hother => (hexclusive.unique hother).2 party hparty, ?_,
    hsettled.stopped, hsettled.created, hsettled.nullRun⟩
  constructor
  · intro hmutex
    by_contra hnone
    obtain ⟨owner, howner, hinside⟩ := hexclusive.owned
    cases owner with
    | none => exact absurd (hmutex.symm.trans howner) Bool.noConfusion
    | some party => exact hnone ⟨party, (hinside party).mpr rfl⟩
  · intro hinside
    obtain ⟨party, hparty⟩ := hinside
    exact (hexclusive.unique hparty).1

/-- A signal on another thread during `main`'s visit; the call gets the mutex after it. -/
def stepsStopped : List (ThreadStep Bool) :=
  [.lock, .deliver .sigint true, .create, .call true, .call true, .unlock, .call true, .call true]

/-- The client made in the visit is told to stop by the call that waited for it. -/
theorem visits_exclude_stopped :
    ∃ state, runSteps (ThreadedProcess.step false true) initial stepsStopped = some state ∧
      0 < state.stopCalls := by
  obtain ⟨state, hrun, hset, hclient⟩ : ∃ state,
      runSteps (ThreadedProcess.step false true) initial stepsStopped = some state ∧
        state.process.bridgeState.exitProgram = true ∧
        state.process.bridgeState.client = true := ⟨_, rfl, rfl, rfl⟩
  exact ⟨state, hrun, (visits_exclude false true stepsStopped state hrun).2.2.1 hset hclient⟩

end ThreadedProcess

end MqttBridge
