import TickDesktop.Timing

/-!
# Processes

A process is run once per frame while it is in the running state. During a run it can ask to be
parked or stopped; what it asked for last is the state it is left in.
-/
namespace TickDesktop

/-- What the scheduler does with a process in the next frame. -/
inductive ProcessState where
  /-- It is run. -/
  | running
  /-- It is passed over until its owner resumes it. -/
  | waiting
  /-- It is passed over. -/
  | stopped
  deriving DecidableEq

/-- The state as it stands in the log. -/
def ProcessState.text : ProcessState → String
  | running => "Running"
  | waiting => "Waiting"
  | stopped => "Stopped"

/-- How important a process is to its owner. The order of runs does not depend on it. -/
inductive Priority where
  | low
  | normal
  | high
  | realTime
  deriving DecidableEq

/-- The place of a priority in their order. -/
def Priority.rank : Priority → Nat
  | low => 0
  | normal => 1
  | high => 2
  | realTime => 3

/-- The priority as it stands in the log. -/
def Priority.text : Priority → String
  | low => "Low"
  | normal => "Normal"
  | high => "High"
  | realTime => "RealTime"

/-- What a process can ask for during a run. -/
inductive ControlCall where
  | wait
  | stop
  deriving DecidableEq

/-- The state a request leads to. -/
def ControlCall.state : ControlCall → ProcessState
  | wait => .waiting
  | stop => .stopped

/-- The state after the requests of one run, made in order. -/
def ProcessState.afterCalls (s : ProcessState) (calls : List ControlCall) : ProcessState :=
  calls.foldl (fun _ c => c.state) s

@[simp] theorem ProcessState.afterCalls_nil (s : ProcessState) : s.afterCalls [] = s := rfl

theorem ProcessState.afterCalls_append_singleton (s : ProcessState) (calls : List ControlCall)
    (c : ControlCall) : s.afterCalls (calls ++ [c]) = c.state := by
  simp [afterCalls]

/-- Programs that can be run as a process. A program sees its process number and the context of
the frame. -/
class ProcessClient (α : Type) where
  run : α → (pid : Nat) → FrameContext → α × List ControlCall

end TickDesktop
