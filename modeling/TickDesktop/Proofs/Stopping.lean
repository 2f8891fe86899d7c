import TickDesktop.Proofs.SchedulerRun

/-!
# Stopped processes

A process is stopped by its owner, or by itself when stopping is the last thing it asks for in a
run. It stays stopped, and is not run again, just as long as nobody puts it into another state:
being stopped does not bind the owner, and during a run it does not bind the process itself.
-/
namespace TickDesktop

variable {α : Type}

/-- Stopping a process that there is succeeds and leaves it stopped. -/
theorem Scheduler.stop_of_state? {s : Scheduler α} {pid : Nat} {state : ProcessState}
    (h : s.state? pid = some state) :
    (s.stop pid).value.1 = .ok () ∧ (s.stop pid).value.2.state? pid = some .stopped := by
  refine ⟨?_, by simpa [stop] using state?_setState h pid .stopped⟩
  obtain ⟨p, hp, -⟩ := Option.map_eq_some_iff.1 h
  rw [stop, value_setState_of_some hp]

variable [ProcessClient α]

/-- A run leaves a process stopped just if its last call was to stop. -/
theorem Process.stateAfter_eq_stopped_iff {p : Process α} (h : p.state = .running)
    (ctx : FrameContext) : p.stateAfter ctx = .stopped ↔
      (ProcessClient.run p.client p.pid ctx).2.getLast? = some .stop := by
  rw [stateAfter, if_pos h]
  cases hlast : (ProcessClient.run p.client p.pid ctx).2.getLast? with
  | none => simp
  | some c => cases c <;> simp [ControlCall.state]

namespace Scheduler

variable [ModuleClient α]

/-- If a process is in one state all through a run, then nobody puts it into another one. -/
theorem eq_of_setState_mem {s : Scheduler α} {pid : Nat} {state state' : ProcessState}
    {more : List (Request α)}
    (hstays : ∀ part, part <+: more → (s.serveAll part).value.state? pid = some state)
    (hmem : .setState pid state' ∈ more) : state' = state := by
  obtain ⟨before, after, rfl⟩ := List.append_of_mem hmem
  have hbefore := hstays before (List.prefix_append before _)
  have hput := hstays (before ++ [.setState pid state']) ⟨after, by simp⟩
  have hafter := state?_setState hbefore pid state'
  rw [if_pos rfl] at hafter
  have hserve : (s.serveAll (before ++ [.setState pid state'])).value =
      ((s.serveAll before).value.setState pid state').value.2 := by
    rw [serveAll_append, Traced.value_bind, serveAll_singleton, serve, Traced.value_map]
  rw [hserve, hafter] at hput
  exact Option.some.inj hput

/-- In every run of a new scheduler, stopping a process leaves it stopped, and so does a run whose
last call is to stop, but no other run. A stopped process stays stopped all through a continuation
just if the continuation puts it into no other state, and then it is never run. -/
theorem stopped_until_put_back (c : Config.Scheduler) (now : Nat) (rs : List (Request α))
    (pid : Nat) :
    let s := ((create c now).value.serveAll rs).value
    (∀ state, s.state? pid = some state →
        (s.stop pid).value.1 = .ok () ∧ (s.stop pid).value.2.state? pid = some .stopped) ∧
      (s.running = true → ∀ reading p, s.processes[pid]? = some p → p.state = .running →
        ((s.tick reading).value.2.state? pid = some .stopped ↔
          (ProcessClient.run p.client pid (s.clock.sample reading).1).2.getLast? = some .stop)) ∧
      (s.state? pid = some .stopped → ∀ more,
        ((∀ part, part <+: more → (s.serveAll part).value.state? pid = some .stopped) ↔
          ∀ state, .setState pid state ∈ more → state = .stopped) ∧
        ((∀ state, .setState pid state ∈ more → state = .stopped) →
          ∀ call ∈ (s.serveAll more).calls, call.runs? ≠ some pid)) := by
  intro s
  have htidy : s.Tidy c := ((Tidy.create c now).serveAll rs).1
  refine ⟨fun state => stop_of_state?, fun hrunning reading p hp hstate => ?_,
    fun hstopped more => ?_⟩
  · have hpid : p.pid = pid := htidy.numbered pid p hp
    rw [state?_tick hrunning, hp, ← hpid, ← Process.stateAfter_eq_stopped_iff hstate]
    simp
  · have hstays {part : List (Request α)} (hpart : ∀ r ∈ part, r ∈ more)
        (hmore : ∀ state, .setState pid state ∈ more → state = .stopped) :=
      htidy.idle_serveAll (· = .stopped) (by simp) ⟨_, hstopped, rfl⟩ part
        fun r hr state hputs => by
          cases r <;> simp_all [Request.puts?]
    constructor
    · constructor
      · exact fun hall state hmem => eq_of_setState_mem hall hmem
      · intro hmore part hpart
        obtain ⟨⟨state, hstate, rfl⟩, -⟩ := hstays (fun r hr => hpart.subset hr) hmore
        exact hstate
    · exact fun hmore => (hstays (fun r hr => hr) hmore).2

/-- A process that stops itself after it asked to wait, while another one comes and goes. -/
theorem stopped_until_put_back_self_stopped :
    let c : Config.Scheduler := { maxProcesses := 2 }
    let rs : List (Request Routine) := [.addProcess .normal ⟨.all, [.wait, .stop]⟩]
    let more : List (Request Routine) := [.addProcess .high ⟨.all, []⟩, .setState 1 .waiting,
      .setState 1 .running, .stop 0, .setState 0 .stopped, .tick 32]
    let s := ((create c 0).value.serveAll rs).value
    let stopped := ((create c 0).value.serveAll (rs ++ [.tick 16])).value
    s.running = true ∧ (s.stop 0).value.1 = .ok () ∧
      (s.tick 16).value.2.state? 0 = some .stopped ∧
      stopped.state? 0 = some .stopped ∧
      (stopped.serveAll more).value.state? 0 = some .stopped ∧
      ∀ call ∈ (stopped.serveAll more).calls, call.runs? ≠ some 0 := by
  intro c rs more s stopped
  have hrunning : s.running = true := rfl
  have hstopped : stopped.state? 0 = some .stopped := by decide +kernel
  have hmore : ∀ state, .setState 0 state ∈ more → state = .stopped := by simp [more]
  obtain ⟨hstop, hrun, -⟩ := stopped_until_put_back c 0 rs 0
  obtain ⟨-, -, hstays⟩ := stopped_until_put_back c 0 (rs ++ [.tick 16]) 0
  obtain ⟨hiff, hcalls⟩ := hstays hstopped more
  exact ⟨hrunning, (hstop .running rfl).1, (hrun hrunning 16 _ rfl rfl).2 rfl, hstopped,
    hiff.2 hmore more (List.prefix_refl more), hcalls hmore⟩

/-- Being stopped is not for good: a stopped process runs again when its owner puts it into the
running state, and one that asks to wait after it asked to stop is waiting, and runs again when it
is resumed. -/
theorem stopped_process_runs_again :
    let start : Scheduler Routine := (create {} 0).value
    let stopped := (start.serveAll [.addProcess .normal ⟨.all, []⟩, .stop 0]).value
    let parked := (start.serveAll [.addProcess .normal ⟨.all, [.stop, .wait]⟩, .tick 16]).value
    (stopped.state? 0 = some .stopped ∧
      (stopped.serveAll [.setState 0 .running]).value.state? 0 = some .running ∧
      ∃ call ∈ (stopped.serveAll [.setState 0 .running, .tick 16]).calls, call.runs? = some 0) ∧
    (parked.state? 0 = some .waiting ∧
      ∃ call ∈ (parked.serveAll [.setState 0 .running, .tick 32]).calls, call.runs? = some 0) := by
  intro start stopped parked
  refine ⟨⟨rfl, rfl, ?_⟩, by decide +kernel, ?_⟩
  · exact ⟨_, List.mem_singleton.2 rfl, rfl⟩
  · exact ⟨_, List.mem_singleton.2 rfl, rfl⟩

end Scheduler

end TickDesktop
