import TickDesktop.Scheduler
import TickDesktop.Window.Workshop
import TickDesktop.Workspace

/-!
# The session

A session is the whole desktop: the scheduler, the workspace and the workshop for windows. One
tick runs a frame of the scheduler, updates the windows and composes the screen if it has changed.
What needs a surface takes the memory as it is at that moment.
-/
namespace TickDesktop

/-- A running desktop. -/
structure Session (α : Type) where
  config : Config
  scheduler : Scheduler α
  workspace : Workspace α
  workshop : Workshop

namespace Session

variable {α : Type}

/-- The log target of the session. -/
def target : String := "qarma"

/-- A session without windows and without a framebuffer, whose clock starts at a reading. The log
takes the configured threshold first. -/
def create (config : Config) (heap : Heap) (now : Nat) :
    Traced α (Except Fault (Session α)) := do
  Traced.tell (.threshold config.logLevel)
  let display := config.display
  match Compositor.create heap display.width display.height display.desktop with
  | .error e => return .error e
  | .ok compositor =>
    let scheduler ← Scheduler.create config.scheduler now
    Traced.log .info target ("desktop " ++ Text.decimal display.width ++ "x" ++
      Text.decimal display.height ++ ", " ++ Text.decimal config.windows.maxWindows ++
      " window slots")
    return .ok {
      config := config
      scheduler := scheduler
      workspace := ⟨.empty config.windows.maxWindows, compositor⟩
      workshop := .ofConfig config }

/-- Show the screen on a framebuffer. -/
def attach (s : Session α) (fb : Framebuffer) : Traced α (Session α) := do
  Traced.log .info target ("framebuffer " ++ Text.decimal fb.width ++ "x" ++
    Text.decimal fb.height ++ " attached")
  return { s with workspace.compositor := s.workspace.compositor.attach fb }

/-- Register what the workshop made, for a caller. -/
def adopt (s : Session α) (caller : String) (made : Except Fault (Window α) × Workshop) :
    Traced α (Except Fault WindowId × Session α) := do
  let s := { s with workshop := made.2 }
  match made.1 with
  | .error e => return (.error e, s)
  | .ok w =>
    let (added, workspace) ← s.workspace.add w caller
    return (added, { s with workspace := workspace })

/-- Open a window of an archetype at its default place. -/
def openWindow (s : Session α) (heap : Heap) (archetype : Archetype) (title : String)
    (flags : WindowFlags) : Traced α (Except Fault WindowId × Session α) := do
  let made ← s.workshop.make heap archetype title flags
  s.adopt "session" made

/-- Open a window of an archetype at a given place. -/
def openWindowAt (s : Session α) (heap : Heap) (archetype : Archetype) (title : String)
    (g : Geometry) (flags : WindowFlags) : Traced α (Except Fault WindowId × Session α) := do
  let made ← s.workshop.makeAt heap archetype title g flags
  s.adopt "session" made

/-- Open the splash. -/
def openSplash (s : Session α) (heap : Heap) (title : String) :
    Traced α (Except Fault WindowId × Session α) := do
  let made ← s.workshop.make heap .splash title { visible := true }
  s.adopt "boot" made

/-- Open the clock overlay. -/
def openClock (s : Session α) (heap : Heap) (title : String) :
    Traced α (Except Fault WindowId × Session α) := do
  let made ← s.workshop.make heap .clockOverlay title { visible := true, topmost := true }
  s.adopt "boot" made

/-- Open a window driven by a client. -/
def openClient (s : Session α) (heap : Heap) (title : String) (g : Geometry) (flags : WindowFlags)
    (client : α) : Traced α (Except Fault WindowId × Session α) := do
  let made ← s.workshop.makeClient heap title g flags client
  s.adopt "session" made

/-- Report a boot window that could not be opened. -/
def warnMissing (what : String) (opened : Except Fault WindowId × Session α) :
    Traced α (Session α) := do
  match opened.1 with
  | .ok _ => pure ()
  | .error e => Traced.log .warn target ("no " ++ what ++ ": " ++ e.message)
  return opened.2

/-- Open the boot windows, each if it is enabled, in the memory that there is before the splash and
in the one that is left for the clock. A boot window that cannot be opened does not stop the other
one. -/
def boot (s : Session α) (before left : Heap) : Traced α (Session α) := do
  let s ←
    if s.config.splash.enabled then s.openSplash before "QARMA" >>= warnMissing "splash"
    else pure s
  if s.config.clock.enabled then s.openClock left "clock" >>= warnMissing "clock" else pure s

/-- Close a window. -/
def close (s : Session α) (id : WindowId) : Traced α (Except Fault Unit × Session α) := do
  let (closed, workspace) ← s.workspace.remove id
  return (closed, { s with workspace := workspace })

/-- Register a module. -/
def addModule (s : Session α) (name : String) (client : α) :
    Traced α (Except Fault Unit × Session α) := do
  let (registered, scheduler) ← s.scheduler.addModule name client
  return (registered, { s with scheduler := scheduler })

/-- Create a process. -/
def addProcess (s : Session α) (priority : Priority) (client : α) :
    Traced α (Except Fault Nat × Session α) := do
  let (created, scheduler) ← s.scheduler.addProcess priority client
  return (created, { s with scheduler := scheduler })

/-- One frame at a reading of the clock. After the shutdown there are no more frames. -/
def tick [WindowClient α] [ModuleClient α] [ProcessClient α] (s : Session α) (now : Nat) :
    Traced α (Option FrameContext × Session α) := do
  match s with
  | ⟨config, scheduler, workspace, workshop⟩ =>
    let (ctx?, scheduler) ← scheduler.tick now
    match ctx? with
    | none => return (none, ⟨config, scheduler, workspace, workshop⟩)
    | some ctx =>
      let (_, workspace) ← workspace.update ctx
      let (_, workspace) ← workspace.compose
      return (some ctx, ⟨config, scheduler, workspace, workshop⟩)

/-- Take one key code: windows get its character if it has one, modules an input event in any case.
The result is how many windows got it. -/
def press [WindowClient α] [ModuleClient α] (s : Session α) (code : Nat) :
    Traced α (Nat × Session α) := do
  match s with
  | ⟨config, scheduler, workspace, workshop⟩ =>
    let (windows, workspace) ← workspace.type code
    let (_, scheduler) ← scheduler.dispatch (.key code)
    return (windows, ⟨config, scheduler, workspace, workshop⟩)

/-- End the session: the modules first, then the windows. -/
def shutdown [ModuleClient α] (s : Session α) : Traced α (Session α) := do
  let scheduler ← s.scheduler.shutdown
  let workspace ← s.workspace.closeAll
  return { s with scheduler := scheduler, workspace := workspace }

end Session

end TickDesktop
