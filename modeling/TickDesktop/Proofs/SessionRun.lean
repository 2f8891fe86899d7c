import TickDesktop.Proofs.Bench
import TickDesktop.Proofs.Settling
import TickDesktop.Session

/-!
# What a session does to its windows

A session opens a window by having the workshop make it and the workspace register it. Everything
else that can be asked of a session comes to requests of its workspace, next to work of the
scheduler that calls no window. So what holds of a workspace under all requests holds of the
workspace of a session, window calls included.
-/
namespace TickDesktop

section Silence

variable {α : Type}

theorem silent_each {β γ : Type} {f : β → Traced α γ} (hf : ∀ b, Silent (f b).journal)
    (bs : List β) : Silent (Traced.each f bs).journal := by
  rw [Traced.journal_each]
  intro e he
  obtain ⟨b, -, hmem⟩ := List.mem_flatMap.1 he
  exact hf b e hmem

theorem Workshop.silent_build (shop : Workshop) (heap : Heap) (archetype : Archetype)
    (title : String) (g : Geometry) (flags : WindowFlags) (background : Color)
    (behavior : Behavior α) :
    Silent (shop.build heap archetype title g flags background behavior).journal := by
  unfold build
  split
  · exact silent_record _
  · split
    · exact silent_nil
    · exact silent_record _

/-- Making a window calls none. -/
theorem Order.silent_make (o : Order α) (heap : Heap) (shop : Workshop) :
    Silent (o.make heap shop).journal := by
  cases o with
  | plain archetype title flags => exact shop.silent_build _ _ _ _ _ _ _
  | placed archetype title g flags => exact shop.silent_build _ _ _ _ _ _ _
  | driven title g flags client => exact shop.silent_build _ _ _ _ _ _ _
  | picture title flags image =>
    have hmake : Silent (shop.make heap .splash title flags : Traced α _).journal :=
      shop.silent_build _ _ _ _ _ _ _
    exact hmake.append silent_nil

namespace Scheduler

theorem silent_addModule (s : Scheduler α) (name : String) (client : α) :
    Silent (s.addModule name client).journal := by
  unfold addModule
  split <;> exact silent_record _

theorem silent_addProcess (s : Scheduler α) (priority : Priority) (client : α) :
    Silent (s.addProcess priority client).journal := by
  unfold addProcess
  split <;> exact silent_record _

theorem silent_dispatch [ModuleClient α] (s : Scheduler α) (e : Event) :
    Silent (s.dispatch e).journal := by
  have hhandle (m : Module α) : Silent (m.handle e).journal := by
    unfold Module.handle
    split
    · exact silent_singleton fun _ => rfl
    · exact silent_nil
  refine (silent_each hhandle s.modules).append ?_
  dsimp only
  split
  · exact silent_record _
  · exact silent_nil

theorem silent_runProcess [ProcessClient α] (p : Process α) (ctx : FrameContext) :
    Silent (runProcess p ctx).journal := by
  unfold runProcess
  split
  · refine Silent.append (j := [_]) (silent_singleton fun _ => rfl) ?_
    split
    · exact silent_nil
    · exact silent_record _
  · exact silent_nil

theorem silent_tick [ModuleClient α] [ProcessClient α] (s : Scheduler α) (now : Nat) :
    Silent (s.tick now).journal := by
  have hupdate (ctx : FrameContext) (m : Module α) : Silent (m.update ctx).journal := by
    unfold Module.update
    split
    · exact silent_singleton fun _ => rfl
    · exact silent_nil
  unfold tick
  split
  · refine Silent.append (j := [_]) (silent_singleton fun _ => rfl) ?_
    refine Silent.append (silent_each (hupdate _) s.modules) ?_
    exact (silent_each (silent_runProcess · _) s.processes).append silent_nil
  · exact silent_nil

theorem silent_shutdown [ModuleClient α] (s : Scheduler α) : Silent s.shutdown.journal := by
  have hshutdown (m : Module α) : Silent m.shutdown.journal := by
    unfold Module.shutdown
    split
    · exact silent_singleton fun _ => rfl
    · exact silent_nil
  unfold shutdown
  split
  · refine Silent.append (j := [_]) (silent_record _) ?_
    refine Silent.append (silent_each hshutdown s.modules) ?_
    exact (silent_dispatch _ _).append silent_nil
  · exact silent_nil

end Scheduler

end Silence

/-- A desktop without clients has no modules. -/
instance : ModuleClient Empty where
  caps := nofun
  update := nofun
  shutdown := nofun
  handle := nofun

/-- A desktop without clients has no processes. -/
instance : ProcessClient Empty where
  run := nofun

/-- The ways in which a session opens a window. -/
inductive Spawn (α : Type) where
  | window (archetype : Archetype) (title : String) (flags : WindowFlags)
  | windowAt (archetype : Archetype) (title : String) (g : Geometry) (flags : WindowFlags)
  | splash (title : String)
  | clock (title : String)
  | driven (title : String) (g : Geometry) (flags : WindowFlags) (client : α)

namespace Spawn

variable {α : Type}

/-- What is ordered from the workshop. -/
def order : Spawn α → Order α
  | window archetype title flags => .plain archetype title flags
  | windowAt archetype title g flags => .placed archetype title g flags
  | splash title => .plain .splash title { visible := true }
  | clock title => .plain .clockOverlay title { visible := true, topmost := true }
  | driven title g flags client => .driven title g flags client

/-- On whose behalf the window is registered. -/
def caller : Spawn α → String
  | splash _ | clock _ => "boot"
  | _ => "session"

end Spawn

namespace Session

variable {α : Type}

/-- A session at its start: a desktop, a running scheduler, no window and none made yet. -/
def atStart (config : Config) (now : Nat) (backing : Surface) : Session α where
  config := config
  scheduler := ⟨.start now config.scheduler.tickRate, true, [], [], config.scheduler.maxModules,
    config.scheduler.maxProcesses⟩
  workspace := ⟨.empty config.windows.maxWindows, { backing }⟩
  workshop := .ofConfig config

/-- Creating a session needs memory for the desktop and nothing else. -/
theorem value_create (config : Config) (heap : Heap) (now : Nat) :
    (create config heap now : Traced α _).value =
      (Surface.allocate heap config.display.width config.display.height
        config.display.desktop.toPixel).map (atStart config now) := by
  unfold create Compositor.create
  dsimp only
  cases Surface.allocate heap config.display.width config.display.height
      config.display.desktop.toPixel <;> rfl

/-- A session is created just where there is memory for its desktop. -/
theorem create_eq_ok_iff {config : Config} {heap : Heap} {now : Nat} {s : Session α} :
    (create config heap now).value = .ok s ↔
      heap.has (4 * (config.display.width * config.display.height)) = true ∧
        atStart config now (.filled config.display.width config.display.height
          config.display.desktop.toPixel) = s := by
  rw [value_create, Surface.allocate]
  split <;> simp [*, Except.map]

theorem create_of_has {config : Config} {heap : Heap}
    (h : heap.has (4 * (config.display.width * config.display.height)) = true) (now : Nat) :
    (create config heap now : Traced α _).value =
      .ok (atStart config now (.filled config.display.width config.display.height
        config.display.desktop.toPixel)) := create_eq_ok_iff.2 ⟨h, rfl⟩

theorem eq_atStart {config : Config} {heap : Heap} {now : Nat} {s : Session α}
    (h : (create config heap now).value = .ok s) : ∃ backing, s = atStart config now backing :=
  ⟨_, (create_eq_ok_iff.1 h).2.symm⟩

/-- Open a window, in the memory that there is. -/
def spawn (s : Session α) (heap : Heap) : Spawn α → Traced α (Except Fault WindowId × Session α)
  | .window archetype title flags => s.openWindow heap archetype title flags
  | .windowAt archetype title g flags => s.openWindowAt heap archetype title g flags
  | .splash title => s.openSplash heap title
  | .clock title => s.openClock heap title
  | .driven title g flags client => s.openClient heap title g flags client

theorem spawn_eq (s : Session α) (heap : Heap) (sp : Spawn α) :
    s.spawn heap sp = (do
      let made ← sp.order.make heap s.workshop
      s.adopt sp.caller made) := by
  cases sp <;> rfl

/-- Opening a window either makes none, and changes nothing, or makes the next window and has it
registered. -/
theorem spawn_cases (s : Session α) (heap : Heap) (sp : Spawn α) :
    (∃ e, (sp.order.make heap s.workshop).value.1 = .error e ∧
        (s.spawn heap sp).value = (.error e, s) ∧
        Silent (s.spawn heap sp).journal) ∨
      ∃ w, (sp.order.make heap s.workshop).value.1 = .ok w ∧ w.id = ⟨s.workshop.next⟩ ∧
        w.behavior.client? = sp.order.client? ∧
        (s.spawn heap sp).value = ((s.workspace.add w sp.caller).value.1, { s with
          workspace := (s.workspace.add w sp.caller).value.2
          workshop := { s.workshop with next := s.workshop.next + 1 } }) ∧
        ∀ id, callsTo id (s.spawn heap sp).journal =
          callsTo id (s.workspace.add w sp.caller).journal := by
  have hmakes := sp.order.makes_make heap s.workshop
  have hsilent := sp.order.silent_make heap s.workshop
  rw [spawn_eq]
  rcases hmade : sp.order.make heap s.workshop with ⟨made, j⟩
  rw [hmade] at hmakes hsilent
  cases hmakes with
  | noMemory bytes => exact .inl ⟨_, rfl, rfl, hsilent.append silent_nil⟩
  | noNumber hnone => exact .inl ⟨_, rfl, rfl, hsilent.append silent_nil⟩
  | window w hid hclient hleft =>
    refine .inr ⟨w, rfl, hid, hclient, rfl, fun id => ?_⟩
    change callsTo id (j ++ ((s.workspace.add w sp.caller).journal ++ [])) = _
    rw [callsTo_append, hsilent.callsTo_eq, List.nil_append, List.append_nil]

/-- What can be asked of a session. A window is opened in the memory that there is by then. The last
request reaches past the session, to its workspace. -/
inductive Request (α : Type) where
  | spawn (heap : Heap) (sp : Spawn α)
  | close (id : WindowId)
  | press (code : Nat)
  | tick (now : Nat)
  | shutdown
  | attach (fb : Framebuffer)
  | addModule (name : String) (client : α)
  | addProcess (priority : Priority) (client : α)
  | ask (r : Workspace.Request)

variable [WindowClient α]

/-- A session served a request that came to a list of requests of its workspace. -/
structure Comes (s : Session α) (served : Traced α (Session α)) (rs : List Workspace.Request) :
    Prop where
  workspace : served.value.workspace = (s.workspace.serveAll rs).value
  workshop : served.value.workshop = s.workshop
  calls : ∀ id, callsTo id served.journal = callsTo id (s.workspace.serveAll rs).journal

theorem comes_nothing {s : Session α} {served : Traced α (Session α)}
    (hspace : served.value.workspace = s.workspace) (hshop : served.value.workshop = s.workshop)
    (hcalls : Silent served.journal) : s.Comes served [] :=
  ⟨hspace, hshop, fun id => hcalls.callsTo_eq id⟩

variable [ModuleClient α] [ProcessClient α]

/-- A session after a request. -/
def serve (s : Session α) : Request α → Traced α (Session α)
  | .spawn heap sp => (·.2) <$> s.spawn heap sp
  | .close id => (·.2) <$> s.close id
  | .press code => (·.2) <$> s.press code
  | .tick now => (·.2) <$> s.tick now
  | .shutdown => s.shutdown
  | .attach fb => s.attach fb
  | .addModule name client => (·.2) <$> s.addModule name client
  | .addProcess priority client => (·.2) <$> s.addProcess priority client
  | .ask r => do
    let workspace ← s.workspace.serve r
    return { s with workspace := workspace }

/-- What a request other than a spawn asks of the workspace. -/
def asked (s : Session α) : Request α → List Workspace.Request
  | .close id => [.remove id]
  | .press code => [.type code]
  | .tick now =>
    if s.scheduler.running then [.update (s.scheduler.clock.sample now).1, .compose] else []
  | .shutdown => [.closeAll]
  | .attach fb => [.attach fb]
  | .ask r => [r]
  | _ => []

theorem tick_of_stopped {s : Session α} (h : s.scheduler.running = false) (now : Nat) :
    s.tick now = pure (none, s) := by
  obtain ⟨config, scheduler, workspace, workshop⟩ := s
  have htick : scheduler.tick now = pure (none, scheduler) := by
    rw [Scheduler.tick, if_neg (by simpa using h)]
  rw [tick, htick]
  rfl

/-- A frame of a running session updates its workspace and composes the screen. -/
theorem tick_of_running {s : Session α} (h : s.scheduler.running = true) (now : Nat) :
    ∃ ctx, ctx = (s.scheduler.clock.sample now).1 ∧ (s.tick now).value.1 = some ctx ∧
      s.Comes ((·.2) <$> s.tick now) [.update ctx, .compose] := by
  obtain ⟨config, scheduler, workspace, workshop⟩ := s
  have hsilent := scheduler.silent_tick now
  have hctx : (scheduler.tick now).value.1 = some (scheduler.clock.sample now).1 := by
    rw [Scheduler.tick, if_pos h]
    rfl
  -- the frame of the scheduler is opened up, what it did is not looked at again
  rcases hframe : scheduler.tick now with ⟨⟨ctx?, scheduler'⟩, j⟩
  rw [hframe] at hsilent hctx
  obtain rfl : ctx? = some (scheduler.clock.sample now).1 := hctx
  refine ⟨_, rfl, ?_, ?_, ?_, fun id => ?_⟩
  · rw [tick, hframe]
    rfl
  · rw [Traced.value_map, tick, hframe]
    rfl
  · rw [Traced.value_map, tick, hframe]
    rfl
  · have hj := hsilent.callsTo_eq id
    simp [tick, hframe, Workspace.serveAll, Workspace.serve, hj]

theorem comes_tick (s : Session α) (now : Nat) :
    s.Comes (s.serve (.tick now)) (s.asked (.tick now)) := by
  rw [serve, asked]
  cases hrunning : s.scheduler.running with
  | false =>
    rw [tick_of_stopped hrunning, if_neg Bool.false_ne_true]
    exact comes_nothing rfl rfl silent_nil
  | true =>
    obtain ⟨ctx, rfl, -, hcomes⟩ := tick_of_running hrunning now
    rw [if_pos rfl]
    exact hcomes

/-- Every request other than a spawn comes to requests of the workspace. -/
theorem comes_serve (s : Session α) {r : Request α} (hr : ¬ ∃ heap sp, r = .spawn heap sp) :
    s.Comes (s.serve r) (s.asked r) := by
  cases r with
  | spawn heap sp => exact absurd ⟨heap, sp, rfl⟩ hr
  | close id =>
    exact ⟨rfl, rfl, fun i => by simp [serve, close, asked, Workspace.serveAll, Workspace.serve]⟩
  | press code =>
    obtain ⟨config, scheduler, workspace, workshop⟩ := s
    refine ⟨rfl, rfl, fun i => ?_⟩
    have hsilent := (scheduler.silent_dispatch (.key code)).callsTo_eq i
    simp [serve, press, asked, Workspace.serveAll, Workspace.serve, hsilent]
  | tick now => exact s.comes_tick now
  | shutdown =>
    refine ⟨rfl, rfl, fun i => ?_⟩
    have hsilent := s.scheduler.silent_shutdown.callsTo_eq i
    simp [serve, shutdown, asked, Workspace.serveAll, Workspace.serve, hsilent]
  | attach fb => exact ⟨rfl, rfl, fun i => rfl⟩
  | addModule name client =>
    have hsilent := (s.scheduler.silent_addModule name client).append silent_nil
    exact comes_nothing rfl rfl (hsilent.append silent_nil)
  | addProcess priority client =>
    have hsilent := (s.scheduler.silent_addProcess priority client).append silent_nil
    exact comes_nothing rfl rfl (hsilent.append silent_nil)
  | ask r => exact ⟨rfl, rfl, fun i => rfl⟩

end Session

/-- A window that was made for a spawn, and what the spawn was answered. -/
structure Birth where
  id : WindowId
  answer : Except Fault WindowId

/-- A session in the course of its requests: the windows made for it so far, in order, and the
journal of all that was done. -/
structure Chronicle (α : Type) where
  session : Session α
  births : List Birth
  journal : List (Entry α)

/-- The windows that are made for a request. -/
def Session.born {α : Type} (s : Session α) : Session.Request α → List Birth
  | .spawn heap sp => match (sp.order.make heap s.workshop).value.1 with
    | .ok w => [⟨w.id, (s.spawn heap sp).value.1⟩]
    | .error _ => []
  | _ => []

namespace Chronicle

variable {α : Type} [WindowClient α] [ModuleClient α] [ProcessClient α]

/-- The course of a session goes on with a request. -/
def extend (c : Chronicle α) (r : Session.Request α) : Chronicle α where
  session := (c.session.serve r).value
  births := c.births ++ c.session.born r
  journal := c.journal ++ (c.session.serve r).journal

end Chronicle

/-- The course of a session under a list of requests. -/
def Session.chronicle {α : Type} [WindowClient α] [ModuleClient α] [ProcessClient α]
    (s : Session α) (rs : List (Session.Request α)) : Chronicle α :=
  rs.foldl Chronicle.extend ⟨s, [], []⟩

end TickDesktop
