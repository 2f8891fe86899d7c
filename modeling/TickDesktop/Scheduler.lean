import TickDesktop.Config.Basic
import TickDesktop.Journal

/-!
# The scheduler

A frame samples the clock, then updates every module that wants it and runs every running process,
each in the order of registration and all with the same context. Nothing is preempted. Both tables
have a capacity, and an entry keeps its slot for good.
-/
namespace TickDesktop

/-- The calls that a module wants to receive. -/
structure Interests where
  update : Bool
  shutdown : Bool
  events : Bool
  deriving DecidableEq

namespace Interests

/-- Every call. -/
def all : Interests := ⟨true, true, true⟩

/-- The capabilities of a number's lowest three bits. -/
def ofBits (n : Nat) : Interests := ⟨n.testBit 0, n.testBit 1, n.testBit 2⟩

end Interests

/-- Clients that can be registered as a module. -/
class ModuleClient (α : Type) where
  caps : α → Interests
  update : α → FrameContext → α
  shutdown : α → α
  handle : α → Event → α

/-- A registered module. -/
structure Module (α : Type) where
  name : String
  client : α

/-- A process in its slot. -/
structure Process (α : Type) where
  pid : Nat
  state : ProcessState
  priority : Priority
  client : α

namespace Module

variable {α : Type} [ModuleClient α]

/-- The entry of a call into the module. -/
def callEntry (m : Module α) (c : ModuleCall) : Entry α := .call (.module m.name m.client c)

/-- One frame of a module that wants it. -/
def update (m : Module α) (ctx : FrameContext) : Traced α (Module α) :=
  if (ModuleClient.caps m.client).update then do
    Traced.tell (m.callEntry (.update ctx))
    return { m with client := ModuleClient.update m.client ctx }
  else return m

/-- The end of a module that wants to know. -/
def shutdown (m : Module α) : Traced α (Module α) :=
  if (ModuleClient.caps m.client).shutdown then do
    Traced.tell (m.callEntry .shutdown)
    return { m with client := ModuleClient.shutdown m.client }
  else return m

/-- Whether an event reaches the module. -/
def receives (m : Module α) (e : Event) : Bool :=
  (ModuleClient.caps m.client).events && e.isFor m.name

/-- The delivery of an event that reaches the module. -/
def handle (m : Module α) (e : Event) : Traced α (Module α) :=
  if m.receives e then do
    Traced.tell (m.callEntry (.handle e))
    return { m with client := ModuleClient.handle m.client e }
  else return m

end Module

/-- The clock, the tables of modules and processes, and whether the session still runs. -/
structure Scheduler (α : Type) where
  clock : FrameClock
  running : Bool
  modules : List (Module α)
  processes : List (Process α)
  maxModules : Nat
  maxProcesses : Nat

namespace Scheduler

variable {α : Type}

/-- The log target of the scheduler. -/
def target : String := "qarma::sched"

/-- A scheduler without modules and processes whose clock starts at a reading. -/
def create (c : Config.Scheduler) (now : Nat) : Traced α (Scheduler α) := do
  Traced.log .info target ("scheduler ready at " ++ Text.decimal c.tickRate ++ " Hz")
  return {
    clock := .start now c.tickRate
    running := true
    modules := []
    processes := []
    maxModules := c.maxModules
    maxProcesses := c.maxProcesses }

/-- The names of the modules in order. -/
def moduleNames (s : Scheduler α) : List String := s.modules.map (·.name)

/-- Register a module, unless the table is full. -/
def addModule (s : Scheduler α) (name : String) (client : α) :
    Traced α (Except Fault Unit × Scheduler α) := do
  if s.maxModules ≤ s.modules.length then
    Traced.log .warn target ("module table full (" ++ Text.decimal s.maxModules ++
      "), dropping '" ++ name ++ "'")
    return (.error (.moduleTableFull s.maxModules), s)
  else
    Traced.log .info target ("registered module '" ++ name ++ "'")
    return (.ok (), { s with modules := s.modules ++ [⟨name, client⟩] })

/-- Create a running process, unless the table is full. Its number is the number of its slot. -/
def addProcess (s : Scheduler α) (priority : Priority) (client : α) :
    Traced α (Except Fault Nat × Scheduler α) := do
  if s.maxProcesses ≤ s.processes.length then
    Traced.log .warn target ("process table full (" ++ Text.decimal s.maxProcesses ++ ")")
    return (.error (.processTableFull s.maxProcesses), s)
  else
    let pid := s.processes.length
    Traced.log .debug target ("created process " ++ Text.decimal pid ++ " (" ++ priority.text ++
      ")")
    return (.ok pid, { s with processes := s.processes ++ [⟨pid, .running, priority, client⟩] })

/-- Put a process into a state. -/
def setState (s : Scheduler α) (pid : Nat) (state : ProcessState) :
    Traced α (Except Fault Unit × Scheduler α) := do
  match s.processes[pid]? with
  | some p =>
    Traced.log .debug target ("process " ++ Text.decimal pid ++ ": " ++ p.state.text ++ " -> " ++
      state.text)
    return (.ok (), { s with processes := s.processes.set pid { p with state := state } })
  | none =>
    Traced.log .warn target ("no process with pid " ++ Text.decimal pid)
    return (.error (.processNotFound pid), s)

/-- Stop a process. Its slot is not given to another one. -/
def stop (s : Scheduler α) (pid : Nat) : Traced α (Except Fault Unit × Scheduler α) :=
  s.setState pid .stopped

/-- The state of a process. -/
def state? (s : Scheduler α) (pid : Nat) : Option ProcessState :=
  s.processes[pid]?.map (·.state)

/-- One frame of a process. -/
def runProcess [ProcessClient α] (p : Process α) (ctx : FrameContext) : Traced α (Process α) :=
  if p.state = .running then do
    Traced.tell (.call (.process p.pid p.client p.state ctx))
    let (client, calls) := ProcessClient.run p.client p.pid ctx
    let state := p.state.afterCalls calls
    if state = p.state then return { p with client := client }
    else
      Traced.log .debug target ("process " ++ Text.decimal p.pid ++ " now " ++ state.text)
      return { p with client := client, state := state }
  else return p

/-- One frame at a reading of the clock: the modules, then the processes. After the shutdown there
are no more frames. -/
def tick [ModuleClient α] [ProcessClient α] (s : Scheduler α) (now : Nat) :
    Traced α (Option FrameContext × Scheduler α) :=
  if s.running then do
    let (ctx, clock) := s.clock.sample now
    Traced.tell (.stamp now)
    let modules ← Traced.each (·.update ctx) s.modules
    let processes ← Traced.each (runProcess · ctx) s.processes
    return (some ctx, { s with clock := clock, modules := modules, processes := processes })
  else return (none, s)

/-- Deliver an event to every module that it is for and that takes events. The result is how many
received it. -/
def dispatch [ModuleClient α] (s : Scheduler α) (e : Event) : Traced α (Nat × Scheduler α) := do
  let delivered := s.modules.countP (·.receives e)
  let modules ← Traced.each (·.handle e) s.modules
  match delivered, e.target with
  | 0, some name =>
    Traced.log .debug target ("event 0x" ++ Text.hexadecimal 2 e.kind.code ++ " for '" ++ name ++
      "' reached nobody")
  | _, _ => pure ()
  return (delivered, { s with modules := modules })

/-- End the session for the modules: each is told to shut down, then all are sent the shutdown
event. Only the first call does anything. -/
def shutdown [ModuleClient α] (s : Scheduler α) : Traced α (Scheduler α) :=
  if s.running then do
    Traced.log .info target ("shutting down " ++ Text.decimal s.modules.length ++ " modules")
    let modules ← Traced.each Module.shutdown s.modules
    let (_, s) ← dispatch { s with running := false, modules := modules } Event.shutdown
    return s
  else return s

end Scheduler

end TickDesktop
