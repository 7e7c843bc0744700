import Mathlib.Data.Fintype.Basic
import MqttBridge.Library.Simulation
import MqttBridge.Locking

/-!
# The handler as one step

Seen from the shutdown, a signal is one step of the process, and so is the creation of the client.
The threads get there in many steps, with `main` going on between them. As long as no signal is
delivered during a call of the handler, each run of the threads is one of the process: the client is
created in `main`'s visit, and a signal takes effect as `do_exit_program` is executed. Only on
`main`'s own thread is that the moment it was delivered at.
-/

namespace MqttBridge

namespace Process

variable {endsWait : Bool} {process process' : Process} {label : ProcessStep}

/-- The process with another record of whether the handler is installed. -/
def withHandler (process : Process) (installed : Bool) : Process :=
  { process with handlerInstalled := installed }

/-- `do_create_client` does not look at it. -/
theorem doCreateClient_withHandler (process : Process) (installed : Bool) :
    (process.withHandler installed).doCreateClient =
      process.doCreateClient.withHandler installed := by
  unfold doCreateClient
  cases hexit : process.bridgeState.exitProgram <;> simp [withHandler, hexit]

/-- Nor does `do_exit_program`. -/
theorem doExitProgram_withHandler (process : Process) (installed : Bool) :
    (process.withHandler installed).doExitProgram endsWait =
      (process.doExitProgram endsWait).withHandler installed := by
  unfold doExitProgram
  cases hclient : process.bridgeState.client <;> simp [withHandler, hclient]

/-- It leaves it as it is. -/
theorem handlerInstalled_doExitProgram (endsWait : Bool) (process : Process) :
    (process.doExitProgram endsWait).handlerInstalled = process.handlerInstalled := by
  unfold doExitProgram
  dsimp only
  split <;> rfl

/-- Nor does `main` outside its visit look at it. -/
theorem step_withHandler (hlabel : label ≠ .createClient ∧ label ≠ .signal)
    (hstep : process.step endsWait label = some process') (installed : Bool) :
    (process.withHandler installed).step endsWait label =
      some (process'.withHandler installed) := by
  cases moves_of_step hstep with
  | createClient => exact absurd rfl hlabel.1
  | handleSignal | killed => exact absurd rfl hlabel.2
  | callRun hstage hclient => simp [Process.step, withHandler, hstage, hclient]
  | nullRun hstage hclient => simp [Process.step, withHandler, hstage, hclient]
  | connect accepted hstage | reconnect accepted hstage =>
    simp [Process.step, withHandler, openConnection, hstage]
  | loseConnection hstage | endRun hstage => simp [Process.step, withHandler, hstage]
  | endLoop hstage =>
    rcases hstage with hstage | hstage <;> simp [Process.step, withHandler, hstage]

/-- The process starts in order. -/
theorem orderly_initial : initial.Orderly where
  honoured := List.Pairwise.nil
  requested := fun hmem => absurd hmem List.not_mem_nil
  stopped := fun hset => absurd hset Bool.false_ne_true
  created := fun hconfigured => absurd rfl hconfigured
  installed := fun _ => rfl

end Process

namespace ThreadedProcess

variable {τ : Type*}

/-- When a step of the threads takes effect on the process. -/
def effect (state : ThreadedProcess τ) : ThreadStep τ → List ProcessStep
  | .lock | .unlock => []
  | .create => [.createClient]
  | .main label => [label]
  | .deliver signal _ => if state.installed signal then [] else [.signal]
  | .call thread =>
    match state.calls thread with
    | ⟨_, .locked⟩ :: _ => [.signal]
    | _ => []

/-- No signal is delivered while a call of the handler has not returned. -/
def OneAtATime (state : ThreadedProcess τ) (label : ThreadStep τ) : Prop :=
  match label with
  | .deliver _ _ => ∀ thread, state.calls thread = []
  | .lock | .create | .unlock | .main _ | .call _ => True

instance [Fintype τ] (state : ThreadedProcess τ) (label : ThreadStep τ) :
    Decidable (state.OneAtATime label) :=
  match label with
  | .deliver _ _ => inferInstanceAs (Decidable (∀ _, _ = _))
  | .lock | .create | .unlock | .main _ | .call _ => isTrue trivial

/-- No signal is delivered during a call of the handler, and one that finds the handler is delivered
to `main`'s thread while a disconnect ends the loop. -/
def OnMain (main : τ) (endsWait : Bool) (state : ThreadedProcess τ) (label : ThreadStep τ) : Prop :=
  match label with
  | .deliver signal thread => (∀ other, state.calls other = []) ∧
    (state.installed signal = true →
      thread = main ∧ state.process.stage.interruptible endsWait = true)
  | .lock | .create | .unlock | .main _ | .call _ => True

instance [DecidableEq τ] [Fintype τ] (main : τ) (endsWait : Bool) (state : ThreadedProcess τ)
    (label : ThreadStep τ) : Decidable (state.OnMain main endsWait label) :=
  match label with
  | .deliver _ _ => inferInstanceAs (Decidable ((∀ _, _ = _) ∧ (_ → _)))
  | .lock | .create | .unlock | .main _ | .call _ => isTrue trivial

/-- Then signals are handled one at a time. -/
theorem OnMain.oneAtATime {main : τ} {endsWait : Bool} {state : ThreadedProcess τ}
    {label : ThreadStep τ} (h : state.OnMain main endsWait label) : state.OneAtATime label := by
  cases label with
  | deliver => exact h.1
  | lock | create | unlock | main | call => trivial

/-- What the threads are like while signals are handled one at a time, if the handler counts as
installed until a call of it has executed `do_exit_program`. -/
structure Counts (state : ThreadedProcess τ) (installed : Bool) : Prop where
  exclusive : state.Exclusive
  settled : state.Settled
  untouched : state.process.handlerInstalled = true
  idle : (∀ thread, state.calls thread = []) → ∀ signal, state.installed signal = installed
  single : ∀ thread call rest, state.calls thread = call :: rest →
    rest = [] ∧ (∀ other, other ≠ thread → state.calls other = []) ∧
      installed = (call.phase != .exitDone)

/-- The threads stand for a process. -/
def Represents (state : ThreadedProcess τ) (process : Process) : Prop :=
  ∃ installed, process = state.process.withHandler installed ∧ state.Counts installed

variable [DecidableEq τ] {main : τ} {endsWait : Bool} {state state' : ThreadedProcess τ}
  {label : ThreadStep τ} {installed : Bool}

/-- A step that keeps the calls and the dispositions. -/
theorem Counts.keep (h : state.Counts installed)
    (hstep : state.step main endsWait label = some state')
    (huntouched : state'.process.handlerInstalled = state.process.handlerInstalled)
    (hcalls : state'.calls = state.calls) (hinstalled : state'.installed = state.installed) :
    state'.Counts installed where
  exclusive := h.exclusive.step hstep
  settled := h.settled.step hstep
  untouched := huntouched.trans h.untouched
  idle := by rw [hcalls, hinstalled]; exact h.idle
  single := by rw [hcalls]; exact h.single

/-- A step after which one call has not returned. -/
theorem Counts.alone (h : state.Counts installed)
    (hstep : state.step main endsWait label = some state')
    (huntouched : state'.process.handlerInstalled = state.process.handlerInstalled)
    {thread : τ} {call : SignalCall} (hothers : ∀ other, other ≠ thread → state.calls other = [])
    (hcalls : state'.calls = Function.update state.calls thread [call]) :
    state'.Counts (call.phase != .exitDone) where
  exclusive := h.exclusive.step hstep
  settled := h.settled.step hstep
  untouched := huntouched.trans h.untouched
  idle := fun hidle => by
    have hnone := hidle thread
    rw [hcalls, Function.update_self] at hnone
    cases hnone
  single := by
    intro other first rest hother
    rw [hcalls] at hother ⊢
    by_cases hsame : other = thread
    · subst hsame
      rw [Function.update_self] at hother
      obtain ⟨rfl, rfl⟩ := List.cons.inj hother
      refine ⟨rfl, fun another hanother => ?_, rfl⟩
      rw [Function.update_of_ne hanother, hothers another hanother]
    · rw [Function.update_of_ne hsame, hothers other hsame] at hother
      cases hother

/-- A step after which no call is left. -/
theorem Counts.returned (h : state.Counts installed)
    (hstep : state.step main endsWait label = some state')
    (huntouched : state'.process.handlerInstalled = state.process.handlerInstalled)
    (hcalls : ∀ thread, state'.calls thread = [])
    (hinstalled : ∀ signal, state'.installed signal = installed) : state'.Counts installed where
  exclusive := h.exclusive.step hstep
  settled := h.settled.step hstep
  untouched := huntouched.trans h.untouched
  idle := fun _ => hinstalled
  single := fun thread call rest hcall => by
    rw [hcalls thread] at hcall
    cases hcall

end ThreadedProcess

/-- Every step of the threads is matched by its effect on the process. -/
theorem ThreadedProcess.simulates {τ : Type*} [DecidableEq τ] (main : τ) (endsWait : Bool) :
    Simulates (step main endsWait) OneAtATime (Process.step endsWait) effect
      fun state process => state.Represents process := by
  intro state process label state' hrepresents hguard hstep
  obtain ⟨installed, rfl, h⟩ := hrepresents
  obtain ⟨hended, hmoves⟩ := moves_of_step hstep
  cases hmoves with
  | lock | unlock => exact ⟨_, rfl, installed, rfl, h.keep hstep rfl rfl rfl⟩
  | create _ hvisit =>
    have hstage : (state.process.withHandler installed).stage = .configured :=
      h.settled.visiting hvisit hended
    refine ⟨_, ?_, installed, rfl, h.keep hstep ?_ rfl rfl⟩
    · simp [effect, runSteps, Process.step, hstage, Process.doCreateClient_withHandler]
      rfl
    · exact state.process.doCreateClient_state.2.2.1
  | main step process _ _ hlabel hprocess =>
    have hframe := Process.frame_of_step hlabel hprocess
    refine ⟨_, ?_, installed, rfl, h.keep hstep hframe.handlerInstalled rfl rfl⟩
    simp [effect, runSteps, Process.step_withHandler hlabel hprocess]
  | deliver signal thread hinstalled =>
    have hidle : ∀ other, state.calls other = [] := hguard
    have hstill : installed = true := (h.idle hidle signal).symm.trans hinstalled
    subst hstill
    have hone : Function.update state.calls thread (⟨signal, .entered⟩ :: state.calls thread) =
        Function.update state.calls thread [⟨signal, .entered⟩] := by rw [hidle thread]
    refine ⟨_, ?_, true, rfl, h.alone hstep rfl (fun other _ => hidle other) hone⟩
    simp [effect, runSteps, hinstalled]
  | kill signal thread hreset =>
    have hgone : installed = false :=
      (h.idle hguard signal).symm.trans hreset
    subst hgone
    refine ⟨_, ?_, false, rfl, h.keep hstep rfl rfl rfl⟩
    simp [effect, runSteps, hreset, Process.step, Process.withHandler]
  | resetSigint thread signal rest hcalls | resetSigterm thread signal rest hcalls
    | lockCall thread signal rest hcalls =>
    obtain ⟨rfl, hothers, hbefore⟩ := h.single thread _ rest hcalls
    have hstill : installed = true := hbefore
    subst hstill
    refine ⟨_, ?_, true, rfl, h.alone hstep rfl hothers rfl⟩
    simp [effect, runSteps, hcalls]
  | exitProgram thread signal rest hcalls =>
    obtain ⟨rfl, hothers, hbefore⟩ := h.single thread _ rest hcalls
    have hstill : installed = true := hbefore
    subst hstill
    have hsignal : (state.process.withHandler true).step endsWait .signal =
        some ((state.process.doExitProgram endsWait).withHandler false) := by
      rw [← Process.doExitProgram_withHandler]
      simp [Process.step, Process.signalHandler, Process.withHandler]
    refine ⟨_, ?_, false, rfl, h.alone hstep ?_ hothers rfl⟩
    · simp [effect, runSteps, hcalls, hsignal]
    · exact state.process.handlerInstalled_doExitProgram endsWait
  | returnCall thread signal rest hcalls =>
    obtain ⟨rfl, hothers, hbefore⟩ := h.single thread _ rest hcalls
    have hgone : installed = false := hbefore
    subst hgone
    have hreset := h.exclusive.reset thread _ (by rw [hcalls]; exact List.mem_cons_self)
    refine ⟨_, ?_, false, rfl, h.returned hstep rfl (fun other => ?_) fun other => ?_⟩
    · simp [effect, runSteps, hcalls]
    · by_cases hother : other = thread
      · simp [hother]
      · simp [hother, hothers other hother]
    · cases other with
      | sigint => exact hreset.1 (by simp)
      | sigterm => exact hreset.2 rfl

namespace ThreadedProcess

variable {τ : Type*}

/-- The threads start as the process does. -/
theorem represents_initial : (initial : ThreadedProcess τ).Represents Process.initial := by
  refine ⟨true, rfl, exclusive_settled_initial.1, exclusive_settled_initial.2, rfl, fun _ _ => rfl,
    fun thread call rest hcalls => ?_⟩
  cases hcalls

variable [DecidableEq τ]

/-- The threads refine the process. In any run in which no signal is delivered during a call of the
handler, on whatever thread and however slow, what `main`, the network loop and the handler have
done is a run of the process: the client is created inside `main`'s visit, and a signal takes effect
as its call executes `do_exit_program`. -/
theorem refines_process (main : τ) (endsWait : Bool) (labels : List (ThreadStep τ))
    (state : ThreadedProcess τ)
    (hguard : Guarded (ThreadedProcess.step main endsWait) OneAtATime initial labels)
    (hrun : runSteps (ThreadedProcess.step main endsWait) initial labels = some state) :
    ∃ process, runSteps (Process.step endsWait) Process.initial
        (matchedRun (ThreadedProcess.step main endsWait) effect initial labels) = some process ∧
      state.process = process.withHandler true := by
  obtain ⟨process, hprocess, installed, rfl, hcounts⟩ :=
    (simulates main endsWait).run represents_initial hguard hrun
  have hback : (state.process.withHandler installed).withHandler state.process.handlerInstalled =
      state.process := rfl
  rw [hcounts.untouched] at hback
  exact ⟨_, hprocess, hback.symm⟩

/-- A run from the creation of the client to the network loop. -/
def stepsConnected : List (ThreadStep Bool) :=
  [.lock, .create, .unlock, .main .callRun, .main (.connect true)]

/-- A run in which the connection is lost while the handler runs on another thread. -/
def stepsElsewhere : List (ThreadStep Bool) :=
  stepsConnected ++ [.deliver .sigterm true, .call true, .call true, .main .loseConnection,
    .call true, .call true, .main (.reconnect true), .call true]

/-- It is a run of the process in which the signal comes after the connection is lost. -/
theorem refines_process_elsewhere :
    ∃ state process,
      runSteps (ThreadedProcess.step false false) initial stepsElsewhere = some state ∧
        runSteps (Process.step false) Process.initial [.createClient, .callRun, .connect true,
          .loseConnection, .signal, .reconnect true] = some process ∧
        state.process = process.withHandler true := by
  obtain ⟨state, hrun⟩ : ∃ state, runSteps (ThreadedProcess.step false false) initial
      stepsElsewhere = some state := ⟨_, rfl⟩
  obtain ⟨process, hprocess, hsame⟩ :=
    refines_process false false stepsElsewhere state (by decide) hrun
  exact ⟨state, process, hrun, hprocess, hsame⟩

/-- Calls run on `main`'s thread, and until `do_exit_program` a disconnect ends the loop. -/
def Waits (main : τ) (endsWait : Bool) (state : ThreadedProcess τ) : Prop :=
  ∀ thread call rest, state.calls thread = call :: rest →
    thread = main ∧ (call.phase ≠ .exitDone → state.process.stage.interruptible endsWait = true)

section OnMain

variable {main : τ} {endsWait : Bool} {state state' : ThreadedProcess τ} {label : ThreadStep τ}

/-- A step of the running call of `main`'s thread. -/
theorem Waits.advance (h : state.Waits main endsWait) {thread : τ} {call call' : SignalCall}
    {rest : List SignalCall} (hcalls : state.calls thread = call :: rest)
    (hcalls' : state'.calls = Function.update state.calls thread (call' :: rest))
    (hphase : call'.phase ≠ .exitDone →
      call.phase ≠ .exitDone ∧ state'.process.stage = state.process.stage) :
    state'.Waits main endsWait := by
  obtain ⟨hmain, hinterruptible⟩ := h thread call rest hcalls
  intro other first others hother
  by_cases hsame : other = thread
  · subst hsame
    rw [hcalls', Function.update_self] at hother
    obtain ⟨rfl, rfl⟩ := List.cons.inj hother
    refine ⟨hmain, fun hfirst => ?_⟩
    rw [(hphase hfirst).2]
    exact hinterruptible (hphase hfirst).1
  · rw [hcalls', Function.update_of_ne hsame] at hother
    exact absurd ((h other first others hother).1.trans hmain.symm) hsame

/-- Each step of such a run keeps this. -/
theorem Waits.step (h : state.Waits main endsWait) {installed : Bool}
    (hcounts : state.Counts installed) (hguard : state.OnMain main endsWait label)
    (hstep : state.step main endsWait label = some state') : state'.Waits main endsWait := by
  have hidle : (∀ thread, state'.calls thread = []) → state'.Waits main endsWait :=
    fun hnone thread call rest hcalls => by
      rw [hnone thread] at hcalls
      cases hcalls
  have hnone : state.calls main = [] → ∀ thread, state.calls thread = [] := by
    intro hfree thread
    cases hcalls : state.calls thread with
    | nil => rfl
    | cons call rest =>
      obtain ⟨rfl, _⟩ := h thread call rest hcalls
      rw [hfree] at hcalls
      cases hcalls
  cases (moves_of_step hstep).2 with
  | lock hfree | create hfree | unlock hfree | main _ _ hfree => exact hidle (hnone hfree)
  | deliver signal thread hinstalled =>
    obtain ⟨hothers, htimely⟩ := hguard
    obtain ⟨rfl, hinterruptible⟩ := htimely hinstalled
    intro other call rest hcalls
    by_cases hother : other = thread
    · exact ⟨hother, fun _ => hinterruptible⟩
    · change Function.update state.calls thread _ other = _ at hcalls
      rw [Function.update_of_ne hother, hothers other] at hcalls
      cases hcalls
  | kill signal thread => exact hidle hguard.1
  | resetSigint thread signal rest hcalls | resetSigterm thread signal rest hcalls
    | lockCall thread signal rest hcalls =>
    exact h.advance hcalls rfl fun _ => ⟨by simp, rfl⟩
  | exitProgram thread signal rest hcalls =>
    exact h.advance hcalls rfl fun hphase => absurd rfl hphase
  | returnCall thread signal rest hcalls =>
    obtain ⟨rfl, hothers, _⟩ := hcounts.single thread _ rest hcalls
    refine hidle fun other => ?_
    by_cases hother : other = thread
    · simp [hother]
    · simp [hother, hothers other hother]

/-- When a signal takes effect, a disconnect ends the loop. -/
theorem Waits.guarded_effect (h : state.Waits main endsWait) {process : Process}
    (hrepresents : state.Represents process) (hguard : state.OnMain main endsWait label)
    (hstep : state.step main endsWait label = some state') :
    Guarded (Process.step endsWait) (Process.Interruptible endsWait) process
      (state.effect label) := by
  obtain ⟨installed, rfl, hcounts⟩ := hrepresents
  have hquiet : ∀ step : ProcessStep, step ≠ .signal →
      Guarded (Process.step endsWait) (Process.Interruptible endsWait)
        (state.process.withHandler installed) [step] := fun step hsignal =>
    ⟨fun heq => absurd heq hsignal, fun _ _ => trivial⟩
  cases (moves_of_step hstep).2 with
  | lock | unlock => trivial
  | create => exact hquiet .createClient (by simp)
  | main step _ _ _ hlabel => exact hquiet step hlabel.2
  | deliver signal thread hinstalled =>
    simp only [effect, hinstalled, if_true]
    trivial
  | kill signal thread hreset =>
    have hgone := (hcounts.idle hguard.1 signal).symm.trans hreset
    subst hgone
    simp only [effect, hreset]
    exact ⟨fun _ hinstalled => Bool.noConfusion hinstalled, fun _ _ => trivial⟩
  | exitProgram thread signal rest hcalls =>
    simp only [effect, hcalls]
    exact ⟨fun _ _ => (h thread _ _ hcalls).2 (by simp), fun _ _ => trivial⟩
  | resetSigint _ _ _ hcalls | resetSigterm _ _ _ hcalls | lockCall _ _ _ hcalls
    | returnCall _ _ _ hcalls =>
    simp only [effect, hcalls]
    trivial

end OnMain

/-- On `main`'s thread a request is honoured if it is delivered while a disconnect ends the loop.
The call may take its time: `main` waits for it, so nothing but the flag and the disconnect comes
between the delivery and their effect, and neither a run through a null client nor a further
connection comes after it. -/
theorem honoured_on_main (main : τ) (endsWait : Bool) (labels : List (ThreadStep τ))
    (state : ThreadedProcess τ)
    (hguard : Guarded (ThreadedProcess.step main endsWait) (OnMain main endsWait) initial labels)
    (hrun : runSteps (ThreadedProcess.step main endsWait) initial labels = some state) :
    state.process.Honoured := by
  -- The calls wait on `main`'s thread while the threads stand for a process.
  have hsimulates : Simulates (ThreadedProcess.step main endsWait) (OnMain main endsWait)
      (Process.step endsWait) effect
      fun state process => state.Represents process ∧ state.Waits main endsWait := by
    intro state process label state' hrelated hguard hstep
    obtain ⟨hrepresents, hwaits⟩ := hrelated
    obtain ⟨process', hprocess, hrepresents'⟩ := simulates main endsWait state process label state'
      hrepresents hguard.oneAtATime hstep
    obtain ⟨installed, _, hcounts⟩ := hrepresents
    exact ⟨process', hprocess, hrepresents', hwaits.step hcounts hguard hstep⟩
  have hstart : (initial : ThreadedProcess τ).Represents Process.initial ∧
      (initial : ThreadedProcess τ).Waits main endsWait :=
    ⟨represents_initial, fun _ _ _ hcalls => by cases hcalls⟩
  obtain ⟨process, hprocess, ⟨installed, rfl, _⟩, _⟩ := hsimulates.run hstart hguard hrun
  have hinterruptible := hsimulates.guarded_matchedRun
    (fun _ _ _ _ hrelated hlabel hstep => hrelated.2.guarded_effect hrelated.1 hlabel hstep)
    hstart hguard hrun
  have horderly : (state.process.withHandler installed).Orderly :=
    Guarded.invariant (motive := Process.Orderly) (fun _ _ _ h hguard hstep => h.step hguard hstep)
      Process.orderly_initial hinterruptible hprocess
  exact horderly.honoured

/-- A run in which the handler runs on `main`'s thread, and `main` goes on after it. -/
def stepsOnMain : List (ThreadStep Bool) :=
  stepsConnected ++ [.deliver .sigterm false, .call false, .call false, .call false, .call false,
    .call false, .main .endRun]

/-- The request is honoured in it. -/
theorem honoured_on_main_connected :
    ∃ state, runSteps (ThreadedProcess.step false false) initial stepsOnMain = some state ∧
      state.process.Honoured := by
  obtain ⟨state, hrun⟩ : ∃ state, runSteps (ThreadedProcess.step false false) initial
      stepsOnMain = some state := ⟨_, rfl⟩
  exact ⟨state, hrun, honoured_on_main false false stepsOnMain state (by decide) hrun⟩

/-- On another thread it need not be, even if it is delivered at the same point. -/
example : ∃ state, runSteps (ThreadedProcess.step false false) initial stepsElsewhere = some state ∧
    ¬state.process.Honoured := ⟨_, rfl, by decide⟩

end ThreadedProcess

end MqttBridge
