import TickDesktop.Text.Numeral

/-!
# Faults

Everything that an operation of the desktop can refuse, by its cause. All of these are recoverable:
an operation that fails leaves the state as it found it.
-/
namespace TickDesktop

/-- The number of a window. Numbers are handed out in increasing order and never reused. -/
structure WindowId where
  number : Nat
  deriving DecidableEq

/-- The number of a window as it stands in messages. -/
def WindowId.text (id : WindowId) : String := "#" ++ Text.decimal id.number

/-- Why an operation was refused. -/
inductive Fault where
  | registryFull (capacity : Nat)
  | moduleTableFull (capacity : Nat)
  | processTableFull (capacity : Nat)
  | windowNotFound (id : WindowId)
  | processNotFound (pid : Nat)
  | allocationFailed (bytes : Nat)
  | idSpaceExhausted
  | noFramebuffer
  | unknownArchetype (number : Nat)
  | loggerInstalled
  deriving DecidableEq

/-- The wording of a fault. -/
def Fault.message : Fault → String
  | registryFull n => "window registry full (" ++ Text.decimal n ++ " slots)"
  | moduleTableFull n => "module table full (" ++ Text.decimal n ++ " slots)"
  | processTableFull n => "process table full (" ++ Text.decimal n ++ " slots)"
  | windowNotFound id => "window " ++ id.text ++ " not registered"
  | processNotFound pid => "no process with pid " ++ Text.decimal pid
  | allocationFailed bytes => "allocation of " ++ Text.decimal bytes ++ " bytes failed"
  | idSpaceExhausted => "window id space exhausted"
  | noFramebuffer => "no framebuffer attached"
  | unknownArchetype n => "unknown window archetype " ++ Text.decimal n
  | loggerInstalled => "kernel logger already installed"

end TickDesktop
