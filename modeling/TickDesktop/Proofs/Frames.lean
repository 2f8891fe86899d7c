import Mathlib.Logic.Relation
import TickDesktop.Scheduler

/-!
# Frames of the scheduler

For each operation of a scheduler: what it makes of the two tables, and which clients it calls. A
frame calls the modules that want it and then the running processes, each in the order of their
slots. A shutdown tells the modules of the end, then sends them the event.
-/
namespace TickDesktop

/-- The state after a run is the one that the last call of the run asked for. -/
theorem ProcessState.afterCalls_eq (s : ProcessState) (calls : List ControlCall) :
    s.afterCalls calls = (calls.getLast?.map ControlCall.state).getD s := by
  rcases List.eq_nil_or_concat calls with rfl | ⟨before, c, rfl⟩
  · simp
  · simp [afterCalls]

/-- Calling for the elements with a property is calling for each element of the list with that
property. -/
theorem flatMap_ite_singleton {β γ : Type} (p : β → Bool) (f : β → γ) (bs : List β) :
    (bs.flatMap fun b => if p b then [f b] else []) = (bs.filter p).map f := by
  induction bs with
  | nil => rfl
  | cons b bs ih => by_cases h : p b <;> simp [h, ih]

/-- What a call into a module makes of its client. -/
inductive ModuleClient.Takes {α : Type} [ModuleClient α] : α → α → Prop
  | update (a : α) (ctx : FrameContext) : Takes a (ModuleClient.update a ctx)
  | shutdown (a : α) : Takes a (ModuleClient.shutdown a)
  | handle (a : α) (e : Event) : Takes a (ModuleClient.handle a e)

/-- What a run of a process makes of its client. -/
inductive ProcessClient.Takes {α : Type} [ProcessClient α] : α → α → Prop
  | run (a : α) (pid : Nat) (ctx : FrameContext) : Takes a (ProcessClient.run a pid ctx).1

namespace Module

variable {α : Type} [ModuleClient α]

/-- A module at a later time: its name is the same, and only calls have changed its client. -/
structure Becomes (m m' : Module α) : Prop where
  name : m'.name = m.name
  client : Relation.ReflTransGen ModuleClient.Takes m.client m'.client

namespace Becomes

theorem refl (m : Module α) : m.Becomes m := ⟨rfl, .refl⟩

theorem trans {m₁ m₂ m₃ : Module α} (h : m₁.Becomes m₂) (h' : m₂.Becomes m₃) : m₁.Becomes m₃ :=
  ⟨h'.name.trans h.name, h.client.trans h'.client⟩

end Becomes

theorem becomes_update (m : Module α) (ctx : FrameContext) : m.Becomes (m.update ctx).value := by
  unfold update
  split
  · exact ⟨rfl, .single (.update m.client ctx)⟩
  · exact .refl m

theorem becomes_shutdown (m : Module α) : m.Becomes m.shutdown.value := by
  unfold shutdown
  split
  · exact ⟨rfl, .single (.shutdown m.client)⟩
  · exact .refl m

theorem becomes_handle (m : Module α) (e : Event) : m.Becomes (m.handle e).value := by
  unfold handle
  split
  · exact ⟨rfl, .single (.handle m.client e)⟩
  · exact .refl m

theorem calls_update (m : Module α) (ctx : FrameContext) : (m.update ctx).calls =
    if (ModuleClient.caps m.client).update then [.module m.name m.client (.update ctx)]
    else [] := by
  unfold update
  split <;> simp [callEntry]

theorem calls_shutdown (m : Module α) : m.shutdown.calls =
    if (ModuleClient.caps m.client).shutdown then [.module m.name m.client .shutdown] else [] := by
  unfold shutdown
  split <;> simp [callEntry]

theorem calls_handle (m : Module α) (e : Event) : (m.handle e).calls =
    if m.receives e then [.module m.name m.client (.handle e)] else [] := by
  unfold handle
  split <;> simp [callEntry]

end Module

namespace Process

variable {α : Type} [ProcessClient α]

/-- A process at a later time: its number and priority are the same, and only runs have changed its
client. -/
structure Becomes (p p' : Process α) : Prop where
  pid : p'.pid = p.pid
  priority : p'.priority = p.priority
  client : Relation.ReflTransGen ProcessClient.Takes p.client p'.client

namespace Becomes

theorem refl (p : Process α) : p.Becomes p := ⟨rfl, rfl, .refl⟩

theorem trans {p₁ p₂ p₃ : Process α} (h : p₁.Becomes p₂) (h' : p₂.Becomes p₃) : p₁.Becomes p₃ :=
  ⟨h'.pid.trans h.pid, h'.priority.trans h.priority, h.client.trans h'.client⟩

end Becomes

/-- The state in which a frame leaves a process: one that is run is in the state that it asked for
last, and stays running if it did not ask; any other is left as it is. -/
def stateAfter (p : Process α) (ctx : FrameContext) : ProcessState :=
  if p.state = .running then
    ((ProcessClient.run p.client p.pid ctx).2.getLast?.map ControlCall.state).getD .running
  else p.state

end Process

namespace Scheduler

variable {α : Type}

section Processes

variable [ProcessClient α]

theorem state_runProcess (p : Process α) (ctx : FrameContext) :
    (runProcess p ctx).value.state = p.stateAfter ctx := by
  by_cases h : p.state = .running
  · rw [runProcess, if_pos h, Process.stateAfter, if_pos h, ← ProcessState.afterCalls_eq, ← h]
    dsimp only [Traced.value_bind]
    split
    · next hsame => exact hsame.symm
    · rfl
  · simp [runProcess, Process.stateAfter, h]

theorem becomes_runProcess (p : Process α) (ctx : FrameContext) :
    p.Becomes (runProcess p ctx).value := by
  by_cases h : p.state = .running
  · rw [runProcess, if_pos h]
    dsimp only [Traced.value_bind]
    have hrun := ProcessClient.Takes.run p.client p.pid ctx
    split <;> exact ⟨rfl, rfl, .single hrun⟩
  · rw [runProcess, if_neg h]
    exact .refl p

theorem calls_runProcess (p : Process α) (ctx : FrameContext) : (runProcess p ctx).calls =
    if p.state = .running then [.process p.pid p.client .running ctx] else [] := by
  by_cases h : p.state = .running
  · rw [runProcess, if_pos h, if_pos h]
    simp only [Traced.calls_bind, Traced.calls_tell_call]
    split <;> simp [h]
  · simp [runProcess, h]

end Processes

/-! ## The tables after an operation -/

section Tables

theorem value_addModule (s : Scheduler α) (name : String) (client : α) :
    (s.addModule name client).value.2 =
      if s.maxModules ≤ s.modules.length then s
      else { s with modules := s.modules ++ [⟨name, client⟩] } := by
  unfold addModule
  split <;> rfl

theorem value_addProcess (s : Scheduler α) (priority : Priority) (client : α) :
    (s.addProcess priority client).value.2 =
      if s.maxProcesses ≤ s.processes.length then s
      else { s with processes :=
        s.processes ++ [⟨s.processes.length, .running, priority, client⟩] } := by
  unfold addProcess
  split <;> rfl

theorem value_setState_of_some {s : Scheduler α} {pid : Nat} {p : Process α}
    (h : s.processes[pid]? = some p) (state : ProcessState) : (s.setState pid state).value =
      (.ok (), { s with processes := s.processes.set pid { p with state := state } }) := by
  simp [setState, h]

theorem value_setState_of_none {s : Scheduler α} {pid : Nat} (h : s.processes[pid]? = none)
    (state : ProcessState) :
    (s.setState pid state).value = (.error (.processNotFound pid), s) := by
  simp [setState, h]

theorem calls_addModule (s : Scheduler α) (name : String) (client : α) :
    (s.addModule name client).calls = [] := by
  unfold addModule
  split <;> simp

theorem calls_addProcess (s : Scheduler α) (priority : Priority) (client : α) :
    (s.addProcess priority client).calls = [] := by
  unfold addProcess
  split <;> simp

theorem calls_setState (s : Scheduler α) (pid : Nat) (state : ProcessState) :
    (s.setState pid state).calls = [] := by
  unfold setState
  split <;> simp

/-- Putting a process into a state is all that `setState` does to the states. -/
theorem state?_setState {s : Scheduler α} {pid : Nat} {state : ProcessState}
    (h : s.state? pid = some state) (i : Nat) (state' : ProcessState) :
    (s.setState i state').value.2.state? pid = some (if i = pid then state' else state) := by
  obtain ⟨p, hp, rfl⟩ := Option.map_eq_some_iff.1 h
  obtain ⟨hlt, -⟩ := List.getElem?_eq_some_iff.1 hp
  by_cases hi : i = pid
  · subst i
    rw [value_setState_of_some hp]
    simp [state?, hlt]
  · cases hq : s.processes[i]? with
    | none => simp [value_setState_of_none hq, hi, h]
    | some q => simp [value_setState_of_some hq, hi, state?, List.getElem?_set_ne hi, hp]

theorem state?_addProcess {s : Scheduler α} {pid : Nat} {state : ProcessState}
    (h : s.state? pid = some state) (priority : Priority) (client : α) :
    (s.addProcess priority client).value.2.state? pid = some state := by
  obtain ⟨p, hp, rfl⟩ := Option.map_eq_some_iff.1 h
  obtain ⟨hlt, -⟩ := List.getElem?_eq_some_iff.1 hp
  rw [value_addProcess]
  split
  · exact h
  · simp [state?, List.getElem?_append_left hlt, hp]

variable [ModuleClient α]

theorem value_dispatch (s : Scheduler α) (e : Event) : (s.dispatch e).value =
    (s.modules.countP (·.receives e),
      { s with modules := s.modules.map fun m => (m.handle e).value }) := by
  simp only [dispatch, Traced.value_bind, Traced.value_each]
  split <;> rfl

theorem calls_dispatch (s : Scheduler α) (e : Event) : (s.dispatch e).calls =
    (s.modules.filter (·.receives e)).map fun m => .module m.name m.client (.handle e) := by
  rw [← flatMap_ite_singleton]
  simp only [dispatch, Traced.calls_bind, Traced.calls_each, Traced.value_each,
    Module.calls_handle]
  split <;> simp

/-- A shutdown of a running scheduler tells the modules to shut down, then sends them the event. -/
theorem value_shutdown_of_running {s : Scheduler α} (h : s.running = true) : s.shutdown.value =
    { s with
      running := false
      modules := (s.modules.map fun m => m.shutdown.value).map fun m =>
        (m.handle .shutdown).value } := by
  simp [shutdown, h, value_dispatch]

theorem calls_shutdown_of_running {s : Scheduler α} (h : s.running = true) : s.shutdown.calls =
    (s.modules.filter fun m => (ModuleClient.caps m.client).shutdown).map
        (fun m => .module m.name m.client .shutdown) ++
      ((s.modules.map fun m => m.shutdown.value).filter (·.receives .shutdown)).map
        (fun m => .module m.name m.client (.handle .shutdown)) := by
  rw [← flatMap_ite_singleton]
  simp [shutdown, h, calls_dispatch, Module.calls_shutdown]

theorem shutdown_of_stopped {s : Scheduler α} (h : s.running = false) : s.shutdown = pure s := by
  simp [shutdown, h]

theorem processes_shutdown (s : Scheduler α) : s.shutdown.value.processes = s.processes := by
  cases h : s.running with
  | false => simp [shutdown_of_stopped h]
  | true => simp [value_shutdown_of_running h]

variable [ProcessClient α]

/-- A frame of a running scheduler takes every module and every process through it. -/
theorem value_tick_of_running {s : Scheduler α} (h : s.running = true) (now : Nat) :
    (s.tick now).value = (some (s.clock.sample now).1, { s with
      clock := (s.clock.sample now).2
      modules := s.modules.map fun m => (m.update (s.clock.sample now).1).value
      processes := s.processes.map fun p => (runProcess p (s.clock.sample now).1).value }) := by
  simp [tick, h]

theorem calls_tick_of_running {s : Scheduler α} (h : s.running = true) (now : Nat) :
    (s.tick now).calls =
      (s.modules.filter fun m => (ModuleClient.caps m.client).update).map
          (fun m => .module m.name m.client (.update (s.clock.sample now).1)) ++
        (s.processes.filter (·.state = .running)).map
          (fun p => .process p.pid p.client .running (s.clock.sample now).1) := by
  rw [← flatMap_ite_singleton, ← flatMap_ite_singleton]
  simp [tick, h, Module.calls_update, calls_runProcess]

/-- A frame leaves each process in the state that it asked for, if it was run. -/
theorem state?_tick {s : Scheduler α} (h : s.running = true) (now pid : Nat) :
    (s.tick now).value.2.state? pid =
      s.processes[pid]?.map (·.stateAfter (s.clock.sample now).1) := by
  simp [value_tick_of_running h, state?, Function.comp_def, state_runProcess]

theorem tick_of_stopped {s : Scheduler α} (h : s.running = false) (now : Nat) :
    s.tick now = pure (none, s) := by
  simp [tick, h]

end Tables

end Scheduler

end TickDesktop
