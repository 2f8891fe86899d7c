import TickDesktop.Proofs.SchedulerRun
import TickDesktop.Proofs.SessionRun

/-!
# Moves of a session

Besides its own requests a session lets others reach for its scheduler and for its workspace; all of
these are its moves. Whatever a move does to the workspace calls windows only. So in a run of a
session, its scheduler goes through a run of its own, made of the requests that the moves pass on to
it, and the calls to modules and processes are just those of that run.
-/
namespace TickDesktop

variable {α β γ : Type}

/-- A window of a routine stays as it is. -/
instance : WindowClient Routine where
  outline := Surface.sides
  update r _ p _ := (.stay, r, p)
  render r _ p := (r, p)
  typed r _ p _ := (r, p)

/-- The call goes to a window. -/
def Call.isOfWindow : Call α → Bool
  | window _ _ _ => true
  | _ => false

namespace Traced

/-- The operation calls windows only. -/
def WindowsOnly (x : Traced α β) : Prop := ∀ c ∈ x.calls, c.isOfWindow = true

theorem windowsOnly_of_calls_eq_nil {x : Traced α β} (h : x.calls = []) : x.WindowsOnly := by
  simp [WindowsOnly, h]

theorem windowsOnly_pure (b : β) : (pure b : Traced α β).WindowsOnly :=
  windowsOnly_of_calls_eq_nil (calls_pure b)

theorem windowsOnly_log (l : Log.Level) (target text : String) :
    (log l target text : Traced α Unit).WindowsOnly :=
  windowsOnly_of_calls_eq_nil (calls_log l target text)

theorem windowsOnly_callEntry (w : Window α) (c : WindowCall) :
    (tell (w.callEntry c)).WindowsOnly := by
  simp [WindowsOnly, Window.callEntry, Call.isOfWindow]

theorem filter_of_silent {x : Traced α β} (h : Silent x.journal) :
    x.calls.filter (!·.isOfWindow) = x.calls := by
  refine List.filter_eq_self.2 fun c hc => ?_
  obtain ⟨e, he, hcall⟩ := List.mem_filterMap.1 hc
  cases e with
  | call c' =>
    obtain rfl : c' = c := Option.some.inj hcall
    cases c' with
    | window id client call =>
      have hnone := h _ he id
      simp [Entry.callTo?] at hnone
    | module name client call => rfl
    | process pid client state ctx => rfl
  | _ => cases hcall

namespace WindowsOnly

theorem bind {x : Traced α β} {f : β → Traced α γ} (hx : x.WindowsOnly)
    (hf : ∀ b, (f b).WindowsOnly) : (x >>= f).WindowsOnly := by
  intro c hc
  rw [calls_bind, List.mem_append] at hc
  exact hc.elim (hx c) (hf x.value c)

theorem map {x : Traced α β} (hx : x.WindowsOnly) (f : β → γ) : (f <$> x).WindowsOnly := by
  simpa [WindowsOnly] using hx

theorem filter_not {x : Traced α β} (hx : x.WindowsOnly) :
    x.calls.filter (!·.isOfWindow) = [] :=
  List.filter_eq_nil_iff.2 fun c hc => by simp [hx c hc]

theorem each {f : β → Traced α γ} (hf : ∀ b, (f b).WindowsOnly) (bs : List β) :
    (Traced.each f bs).WindowsOnly := by
  intro c hc
  rw [calls_each, List.mem_flatMap] at hc
  obtain ⟨b, -, hmem⟩ := hc
  exact hf b c hmem

end WindowsOnly

end Traced

open Traced

/-! ## The workspace calls windows only -/

theorem Window.calls_destroy (w : Window α) :
    w.destroy.calls = [.window w.id w.behavior.client? (.destroy w.pane.owner)] := by
  obtain ⟨id, archetype, pane, behavior⟩ := w
  cases behavior <;> simp [destroy, callEntry]

theorem Window.windowsOnly_destroy (w : Window α) : w.destroy.WindowsOnly := by
  simp [WindowsOnly, calls_destroy, Call.isOfWindow]

namespace Workspace

theorem windowsOnly_add (m : Workspace α) (w : Window α) (caller : String) :
    (m.add w caller).WindowsOnly := by
  unfold add
  dsimp only
  split
  · exact (windowsOnly_log _ _ _).bind fun _ => windowsOnly_pure _
  · exact (windowsOnly_log _ _ _).bind fun _ =>
      (Window.windowsOnly_destroy _).bind fun _ => windowsOnly_pure _

theorem windowsOnly_remove (m : Workspace α) (id : WindowId) : (m.remove id).WindowsOnly := by
  unfold remove
  split
  · exact (Window.windowsOnly_destroy _).bind fun _ =>
      (windowsOnly_log _ _ _).bind fun _ => windowsOnly_pure _
  · exact (windowsOnly_log _ _ _).bind fun _ => windowsOnly_pure _

theorem windowsOnly_sweep (m : Workspace α) (gone : List WindowId) :
    (m.sweep gone).WindowsOnly := by
  induction gone generalizing m with
  | nil => exact windowsOnly_pure m
  | cons id gone ih =>
    rw [sweep]
    refine (m.windowsOnly_remove id).bind fun removed => ?_
    obtain ⟨answer, m'⟩ := removed
    cases answer with
    | ok => exact ih m'
    | error e => exact (windowsOnly_log _ _ _).bind fun _ => ih m'

/-- Emptying a workspace destroys its windows, the newest first, and makes no other calls. -/
theorem calls_closeAll (m : Workspace α) : m.closeAll.calls =
    m.registry.windows.reverse.map
      fun w => .window w.id w.behavior.client? (.destroy w.pane.owner) := by
  have hdestroy : m.closeAll.calls =
      m.registry.windows.reverse.flatMap fun w => w.destroy.calls := by
    by_cases hnone : m.registry.windows.reverse.isEmpty <;>
      simp [closeAll, Registry.drain, hnone]
  rw [hdestroy, List.map_eq_flatMap]
  simp only [Window.calls_destroy]

theorem windowsOnly_closeAll (m : Workspace α) : m.closeAll.WindowsOnly := by
  simp [WindowsOnly, calls_closeAll, Call.isOfWindow]

theorem windowsOnly_warnHeadless (c : Compositor) :
    (c.warnHeadless : Traced α Compositor).WindowsOnly := by
  unfold Compositor.warnHeadless
  split
  · exact windowsOnly_pure c
  · exact (windowsOnly_log _ _ _).bind fun _ => windowsOnly_pure _

variable [WindowClient α]

theorem windowsOnly_update (m : Workspace α) (ctx : FrameContext) :
    (m.update ctx).WindowsOnly := by
  unfold update
  refine (WindowsOnly.each (fun w => ?_) _).bind fun _ =>
    (windowsOnly_sweep _ _).bind fun _ => windowsOnly_pure _
  exact (windowsOnly_callEntry w _).bind fun _ => windowsOnly_pure _

theorem windowsOnly_type (m : Workspace α) (code : Nat) : (m.type code).WindowsOnly := by
  unfold type
  split
  · exact windowsOnly_pure _
  · refine (WindowsOnly.each (fun w => ?_) _).bind fun _ => windowsOnly_pure _
    split
    · refine WindowsOnly.bind ?_ fun _ => windowsOnly_pure _
      exact (windowsOnly_callEntry w _).bind fun _ => windowsOnly_pure _
    · exact windowsOnly_pure _

theorem windowsOnly_render (w : Window α) : w.render.WindowsOnly :=
  (windowsOnly_callEntry w _).bind fun _ => windowsOnly_pure _

theorem windowsOnly_renderOnto (fb : Framebuffer) (ws : List (Window α)) :
    (Compositor.renderOnto fb ws).WindowsOnly := by
  induction ws generalizing fb with
  | nil => exact windowsOnly_pure _
  | cons w ws ih =>
    rw [Compositor.renderOnto]
    split
    · exact (windowsOnly_render w).bind fun w' => (ih _).bind fun _ => windowsOnly_pure _
    · exact (ih fb).bind fun _ => windowsOnly_pure _

theorem windowsOnly_compose (m : Workspace α) : m.compose.WindowsOnly := by
  unfold compose
  refine WindowsOnly.bind ?_ fun _ => windowsOnly_pure _
  unfold Compositor.compose
  split
  · exact windowsOnly_pure _
  · split
    · exact (windowsOnly_warnHeadless _).bind fun _ => windowsOnly_pure _
    · exact (windowsOnly_renderOnto _ _).bind fun _ => windowsOnly_pure _

theorem windowsOnly_refresh (m : Workspace α) : m.refresh.WindowsOnly := by
  unfold refresh
  refine (WindowsOnly.each (fun w => ?_) _).bind fun ws =>
    WindowsOnly.bind ?_ fun _ => windowsOnly_pure _
  · split
    · exact windowsOnly_render w
    · exact windowsOnly_pure w
  · unfold Compositor.present
    split
    · exact (windowsOnly_warnHeadless _).bind fun _ => windowsOnly_pure _
    · exact windowsOnly_pure _

theorem windowsOnly_serve (m : Workspace α) (r : Request) : (m.serve r).WindowsOnly := by
  cases r with
  | remove id => exact (m.windowsOnly_remove id).map _
  | update ctx => exact (m.windowsOnly_update ctx).map _
  | type code => exact (m.windowsOnly_type code).map _
  | compose => exact m.windowsOnly_compose.map _
  | refresh => exact m.windowsOnly_refresh.map _
  | closeAll => exact m.windowsOnly_closeAll
  | _ => exact windowsOnly_pure _

end Workspace

/-! ## Moves -/

theorem windowsOnly_build (shop : Workshop) (heap : Heap) (archetype : Archetype)
    (title : String) (g : Geometry) (flags : WindowFlags) (background : Color)
    (behavior : Behavior α) :
    (shop.build heap archetype title g flags background behavior).WindowsOnly := by
  unfold Workshop.build
  split
  · exact (windowsOnly_log _ _ _).bind fun _ => windowsOnly_pure _
  · split
    · exact windowsOnly_pure _
    · exact (windowsOnly_log _ _ _).bind fun _ => windowsOnly_pure _

theorem Order.windowsOnly_make (o : Order α) (heap : Heap) (shop : Workshop) :
    (o.make heap shop).WindowsOnly := by
  cases o with
  | plain archetype title flags => exact windowsOnly_build shop _ _ _ _ _ _ _
  | placed archetype title g flags => exact windowsOnly_build shop _ _ _ _ _ _ _
  | driven title g flags client => exact windowsOnly_build shop _ _ _ _ _ _ _
  | picture title flags image =>
    have hmake : (shop.make heap .splash title flags : Traced α _).WindowsOnly :=
      windowsOnly_build shop _ _ _ _ _ _ _
    exact hmake.bind fun _ => windowsOnly_pure _

namespace Session

theorem windowsOnly_adopt (s : Session α) (caller : String)
    (made : Except Fault (Window α) × Workshop) : (s.adopt caller made).WindowsOnly := by
  unfold adopt
  dsimp only
  split
  · exact windowsOnly_pure _
  · exact (Workspace.windowsOnly_add _ _ _).bind fun _ => windowsOnly_pure _

theorem scheduler_adopt (s : Session α) (caller : String)
    (made : Except Fault (Window α) × Workshop) :
    (s.adopt caller made).value.2.scheduler = s.scheduler := by
  unfold adopt
  dsimp only
  split <;> simp

theorem windowsOnly_spawn (s : Session α) (heap : Heap) (sp : Spawn α) :
    (s.spawn heap sp).WindowsOnly := by
  rw [spawn_eq]
  exact (sp.order.windowsOnly_make heap s.workshop).bind fun made => s.windowsOnly_adopt _ made

theorem scheduler_spawn (s : Session α) (heap : Heap) (sp : Spawn α) :
    (s.spawn heap sp).value.2.scheduler = s.scheduler := by
  rw [spawn_eq]
  exact s.scheduler_adopt _ _

theorem windowsOnly_warnMissing (what : String) (opened : Except Fault WindowId × Session α) :
    (warnMissing what opened).WindowsOnly := by
  unfold warnMissing
  split
  · exact windowsOnly_pure _
  · exact (windowsOnly_log _ _ _).bind fun _ => windowsOnly_pure _

theorem value_warnMissing (what : String) (opened : Except Fault WindowId × Session α) :
    (warnMissing what opened).value = opened.2 := by
  unfold warnMissing
  split <;> simp

/-- A boot window is opened like any other one, or not at all. -/
def bootWindow (s : Session α) (heap : Heap) (enabled : Bool) (sp : Spawn α) (what : String) :
    Traced α (Session α) :=
  if enabled then s.spawn heap sp >>= warnMissing what else pure s

theorem boot_eq (s : Session α) (before left : Heap) : s.boot before left =
    s.bootWindow before s.config.splash.enabled (.splash "QARMA") "splash" >>= fun s =>
      s.bootWindow left s.config.clock.enabled (.clock "clock") "clock" := by
  rw [boot, bootWindow]
  cases s.config.splash.enabled <;> rfl

/-- A boot window is one spawn or none. -/
theorem value_bootWindow (s : Session α) (heap : Heap) (enabled : Bool) (sp : Spawn α)
    (what : String) : (s.bootWindow heap enabled sp what).value = s ∨
      (s.bootWindow heap enabled sp what).value = (s.spawn heap sp).value.2 := by
  cases enabled with
  | false => exact .inl rfl
  | true => exact .inr (by simp [bootWindow, value_warnMissing])

/-- What every spawn keeps is kept by the opening of the boot windows. -/
theorem boot_keeps {R : Session α → Prop}
    (hR : ∀ s heap sp, R s → R (s.spawn heap sp).value.2) (h : R s) (before left : Heap) :
    R (s.boot before left).value := by
  have hwindow {s : Session α} (h : R s) (heap : Heap) (enabled : Bool) (sp : Spawn α)
      (what : String) : R (s.bootWindow heap enabled sp what).value := by
    rcases s.value_bootWindow heap enabled sp what with hnone | hspawn
    · rwa [hnone]
    · rw [hspawn]
      exact hR s heap sp h
  rw [boot_eq, Traced.value_bind]
  exact hwindow (hwindow h _ _ _ _) _ _ _ _

theorem windowsOnly_bootWindow (s : Session α) (heap : Heap) (enabled : Bool) (sp : Spawn α)
    (what : String) : (s.bootWindow heap enabled sp what).WindowsOnly := by
  cases enabled with
  | false => exact windowsOnly_pure s
  | true => exact (s.windowsOnly_spawn heap sp).bind (windowsOnly_warnMissing what)

theorem scheduler_bootWindow (s : Session α) (heap : Heap) (enabled : Bool) (sp : Spawn α)
    (what : String) : (s.bootWindow heap enabled sp what).value.scheduler = s.scheduler := by
  cases enabled with
  | false => rfl
  | true => simp [bootWindow, value_warnMissing, scheduler_spawn]

theorem windowsOnly_boot (s : Session α) (before left : Heap) :
    (s.boot before left).WindowsOnly := by
  rw [boot_eq]
  exact (s.windowsOnly_bootWindow _ _ _ _).bind fun s' => s'.windowsOnly_bootWindow _ _ _ _

theorem scheduler_boot (s : Session α) (before left : Heap) :
    (s.boot before left).value.scheduler = s.scheduler := by
  simp [boot_eq, scheduler_bootWindow]

end Session

namespace Scheduler

variable [ModuleClient α] [ProcessClient α]

/-- A scheduler calls no window. -/
theorem filter_calls_serve (s : Scheduler α) (r : Request α) :
    (s.serve r).calls.filter (!·.isOfWindow) = (s.serve r).calls := by
  apply filter_of_silent
  have hstate (pid : Nat) (state : ProcessState) : Silent (s.setState pid state).journal := by
    unfold setState
    split <;> exact silent_record _
  cases r with
  | addModule name client =>
    rw [serve, journal_map]
    exact s.silent_addModule name client
  | addProcess priority client =>
    rw [serve, journal_map]
    exact s.silent_addProcess priority client
  | stop pid =>
    rw [serve, journal_map]
    exact hstate pid .stopped
  | setState pid state =>
    rw [serve, journal_map]
    exact hstate pid state
  | dispatch e =>
    rw [serve, journal_map]
    exact s.silent_dispatch e
  | tick now =>
    rw [serve, journal_map]
    exact s.silent_tick now
  | shutdown => exact s.silent_shutdown

end Scheduler

namespace Session

/-- What can happen to a session: a request of its own, something done to its scheduler or to its
workspace by others, and the opening of the boot windows. -/
inductive Move (α : Type) where
  | request (r : Request α)
  | schedule (r : Scheduler.Request α)
  | boot (before left : Heap)
  /-- Any window is registered for a caller. -/
  | register (w : Window α) (caller : String)
  /-- The workspace is changed in any way that calls nobody. -/
  | rework (f : Workspace α → Workspace α)

/-- What a move passes on to the scheduler. -/
def Move.scheduled : Move α → List (Scheduler.Request α)
  | request (.press code) => [.dispatch (.key code)]
  | request (.tick now) => [.tick now]
  | request .shutdown => [.shutdown]
  | request (.addModule name client) => [.addModule name client]
  | request (.addProcess priority client) => [.addProcess priority client]
  | schedule r => [r]
  | _ => []

variable [ModuleClient α] [ProcessClient α]

/-- What a session did came to a list of requests of its scheduler, next to calls of windows. -/
structure Schedules (s : Session α) (done : Traced α (Session α))
    (rs : List (Scheduler.Request α)) : Prop where
  scheduler : done.value.scheduler = (s.scheduler.serveAll rs).value
  calls : done.calls.filter (!·.isOfWindow) = (s.scheduler.serveAll rs).calls

namespace Schedules

variable {s : Session α}

theorem of_serve {done : Traced α (Session α)} {r : Scheduler.Request α}
    (hvalue : done.value.scheduler = (s.scheduler.serve r).value)
    (hcalls : done.calls.filter (!·.isOfWindow) = (s.scheduler.serve r).calls) :
    s.Schedules done [r] := by
  refine ⟨?_, ?_⟩ <;> rwa [Scheduler.serveAll_singleton]

theorem of_windowsOnly {done : Traced α (Session α)} (hvalue : done.value.scheduler = s.scheduler)
    (hcalls : done.WindowsOnly) : s.Schedules done [] :=
  ⟨hvalue, hcalls.filter_not⟩

/-- What one step after the other passes on to the scheduler is what all of them pass on. -/
theorem foldlM {ρ : Type} {step : Session α → ρ → Traced α (Session α)}
    {scheduled : ρ → List (Scheduler.Request α)}
    (hstep : ∀ s r, Schedules s (step s r) (scheduled r)) (s : Session α) (rs : List ρ) :
    s.Schedules (rs.foldlM step s) (rs.flatMap scheduled) := by
  induction rs generalizing s with
  | nil => exact .of_windowsOnly rfl (windowsOnly_pure s)
  | cons r rs ih =>
    have hfirst := hstep s r
    have hrest := ih (step s r).value
    rw [List.foldlM_cons, List.flatMap_cons]
    constructor
    · rw [value_bind, Scheduler.serveAll_append, value_bind, ← hfirst.scheduler]
      exact hrest.scheduler
    · rw [calls_bind, List.filter_append, Scheduler.serveAll_append, calls_bind,
        ← hfirst.scheduler, hfirst.calls]
      exact congrArg _ hrest.calls

end Schedules

variable [WindowClient α]

/-- A session after a move. -/
def perform (s : Session α) : Move α → Traced α (Session α)
  | .request r => s.serve r
  | .schedule r => do
    let scheduler ← s.scheduler.serve r
    return { s with scheduler := scheduler }
  | .boot before left => s.boot before left
  | .register w caller => do
    let (_, workspace) ← s.workspace.add w caller
    return { s with workspace := workspace }
  | .rework f => return { s with workspace := f s.workspace }

/-- A session after several moves. -/
def performAll (s : Session α) (ms : List (Move α)) : Traced α (Session α) := ms.foldlM perform s

theorem schedules_serve (s : Session α) (r : Request α) :
    s.Schedules (s.serve r) (Move.request r).scheduled := by
  have hcalls (r : Scheduler.Request α) := s.scheduler.filter_calls_serve r
  cases r with
  | spawn heap sp =>
    exact .of_windowsOnly (s.scheduler_spawn heap sp) ((s.windowsOnly_spawn heap sp).map _)
  | close id =>
    refine .of_windowsOnly rfl (WindowsOnly.map ?_ _)
    exact (s.workspace.windowsOnly_remove id).bind fun _ => windowsOnly_pure _
  | press code =>
    specialize hcalls (.dispatch (.key code))
    obtain ⟨config, scheduler, workspace, workshop⟩ := s
    refine .of_serve rfl ?_
    have htype := (workspace.windowsOnly_type code).filter_not
    simpa [serve, press, Scheduler.serve, htype] using hcalls
  | tick now =>
    specialize hcalls (.tick now)
    obtain ⟨config, scheduler, workspace, workshop⟩ := s
    simp only [Scheduler.serve, calls_map] at hcalls
    -- without a context the session stops here, otherwise it goes on to its windows
    rcases hframe : (scheduler.tick now).value with ⟨ctx?, scheduler'⟩
    cases ctx? with
    | none =>
      refine .of_serve ?_ ?_ <;> simp [serve, tick, Scheduler.serve, hframe, hcalls]
    | some ctx =>
      have hupdate := (workspace.windowsOnly_update ctx).filter_not
      have hcompose := ((workspace.update ctx).value.2.windowsOnly_compose).filter_not
      refine .of_serve ?_ ?_ <;>
        simp [serve, tick, Scheduler.serve, hframe, hcalls, hupdate, hcompose]
  | shutdown =>
    specialize hcalls .shutdown
    refine .of_serve rfl ?_
    have hclose := s.workspace.windowsOnly_closeAll.filter_not
    simpa [serve, shutdown, Scheduler.serve, hclose] using hcalls
  | attach fb =>
    exact .of_windowsOnly rfl ((windowsOnly_log _ _ _).bind fun _ => windowsOnly_pure _)
  | addModule name client =>
    specialize hcalls (.addModule name client)
    refine .of_serve rfl ?_
    simpa [serve, addModule, Scheduler.serve] using hcalls
  | addProcess priority client =>
    specialize hcalls (.addProcess priority client)
    refine .of_serve rfl ?_
    simpa [serve, addProcess, Scheduler.serve] using hcalls
  | ask r =>
    exact .of_windowsOnly rfl ((s.workspace.windowsOnly_serve r).bind fun _ => windowsOnly_pure _)

theorem schedules_perform (s : Session α) (m : Move α) :
    s.Schedules (s.perform m) m.scheduled := by
  cases m with
  | request r => exact s.schedules_serve r
  | schedule r =>
    refine .of_serve rfl ?_
    simpa [perform] using s.scheduler.filter_calls_serve r
  | boot before left =>
    exact .of_windowsOnly (s.scheduler_boot before left) (s.windowsOnly_boot before left)
  | register w caller =>
    refine .of_windowsOnly rfl ?_
    exact (s.workspace.windowsOnly_add w caller).bind fun _ => windowsOnly_pure _
  | rework f => exact .of_windowsOnly rfl (windowsOnly_pure _)

end Session

end TickDesktop
