import TickDesktop.Proofs.SessionMoves

/-!
# Teardown

The first shutdown tells the modules of the end and then sends them the shutdown event, each in the
order of registration, as far as they want to receive it. A session goes on to destroy its windows,
the newest first. After that nobody tells a module of the end again, and there are no more frames. A
further shutdown of a session finds only the windows that were opened in the meantime.
-/
namespace TickDesktop

variable {α : Type}

/-- The call tells a module of the end. -/
def Call.isFarewell : Call α → Bool
  | module _ _ .shutdown => true
  | _ => false

/-- The calls that destroy the windows of a workspace, the newest first. -/
def Workspace.destructions (m : Workspace α) : List (Call α) :=
  m.registry.windows.reverse.map fun w =>
    .window w.id w.behavior.client? (.destroy w.pane.owner)

namespace Scheduler

variable [ModuleClient α]

/-- The calls that tell the modules of the end. -/
def farewells (s : Scheduler α) : List (Call α) :=
  (s.modules.filter fun m => (ModuleClient.caps m.client).shutdown).map
    fun m => .module m.name m.client .shutdown

/-- The calls that send the shutdown event to the modules once they were told of the end. -/
def lastEvents (s : Scheduler α) : List (Call α) :=
  ((s.modules.map fun m => m.shutdown.value).filter
      fun m => (ModuleClient.caps m.client).events).map
    fun m => .module m.name m.client (.handle .shutdown)

theorem filter_farewells (s : Scheduler α) : s.farewells.filter (·.isFarewell) = s.farewells := by
  simp [farewells, List.filter_map, Function.comp_def, Call.isFarewell]

theorem filter_lastEvents (s : Scheduler α) : s.lastEvents.filter (·.isFarewell) = [] := by
  simp [lastEvents, List.filter_map, Function.comp_def, Call.isFarewell]

/-- The shutdown event goes to every module. -/
theorem calls_first_shutdown {s : Scheduler α} (h : s.running = true) :
    s.shutdown.calls = s.farewells ++ s.lastEvents := by
  have hreceives (m : Module α) :
      m.receives .shutdown = (ModuleClient.caps m.client).events := by
    simp [Module.receives, Event.isFor, Event.shutdown]
  rw [calls_shutdown_of_running h, farewells, lastEvents]
  simp only [hreceives]

variable [ProcessClient α]

/-- Only the shutdown of a running scheduler tells modules of the end. -/
theorem no_farewell_serve {s : Scheduler α} {r : Request α}
    (h : s.running = false ∨ r ≠ .shutdown) :
    (s.serve r).calls.filter (·.isFarewell) = [] := by
  cases r with
  | addModule name client => simp [serve, calls_addModule]
  | addProcess priority client => simp [serve, calls_addProcess]
  | stop pid => simp [serve, stop, calls_setState]
  | setState pid state => simp [serve, calls_setState]
  | dispatch e =>
    simp [serve, calls_dispatch, List.filter_map, Function.comp_def, Call.isFarewell]
  | tick now =>
    cases hrunning : s.running with
    | false => simp [serve, tick_of_stopped hrunning]
    | true =>
      simp [serve, calls_tick_of_running hrunning, List.filter_map, Function.comp_def,
        Call.isFarewell]
  | shutdown =>
    have hstopped : s.running = false := h.resolve_right fun hne => hne rfl
    simp [serve, shutdown_of_stopped hstopped]

theorem no_farewell_serveAll {s : Scheduler α} {rs : List (Request α)}
    (h : s.running = false ∨ .shutdown ∉ rs) :
    (s.serveAll rs).calls.filter (·.isFarewell) = [] := by
  induction rs generalizing s with
  | nil => rfl
  | cons r rs ih =>
    have hfirst : (s.serve r).calls.filter (·.isFarewell) = [] := by
      apply no_farewell_serve
      refine h.imp_right fun hmem heq => hmem ?_
      rw [heq]
      exact List.mem_cons_self
    have hrest : ((s.serve r).value.serveAll rs).calls.filter (·.isFarewell) = [] := by
      apply ih
      refine h.imp (fun hstopped => ?_) fun hmem hrs => hmem (List.mem_cons_of_mem r hrs)
      rw [← Bool.not_eq_true, running_serve, hstopped]
      simp
    rw [serveAll_cons, Traced.calls_bind, List.filter_append, hfirst, hrest, List.append_nil]

/-- Whatever follows the first shutdown, only its calls tell modules of the end. -/
theorem farewells_serveAll {s : Scheduler α} (h : s.running = true) (more : List (Request α)) :
    (s.serveAll (.shutdown :: more)).calls.filter (·.isFarewell) = s.farewells := by
  have hstopped : s.shutdown.value.running = false := by
    rw [value_shutdown_of_running h]
  rw [serveAll_cons, Traced.calls_bind, List.filter_append, serve,
    no_farewell_serveAll (.inl hstopped), calls_first_shutdown h, List.filter_append,
    filter_farewells, filter_lastEvents, List.append_nil, List.append_nil]

end Scheduler

namespace Session

variable [ModuleClient α]

theorem calls_shutdown (s : Session α) :
    s.shutdown.calls = s.scheduler.shutdown.calls ++ s.workspace.destructions := by
  simp [shutdown, Workspace.calls_closeAll, Workspace.destructions]

variable [ProcessClient α]

theorem Schedules.filter_isFarewell {s : Session α} {done : Traced α (Session α)}
    {rs : List (Scheduler.Request α)} (h : s.Schedules done rs) :
    done.calls.filter (·.isFarewell) = (s.scheduler.serveAll rs).calls.filter (·.isFarewell) := by
  rw [← h.calls, List.filter_filter]
  refine List.filter_congr fun c _ => ?_
  -- a call that tells a module of the end is not a call of a window
  cases c with
  | window id client call => rfl
  | module name client call => cases call <;> rfl
  | process pid client state ctx => rfl

variable [WindowClient α]

end Session

end TickDesktop
