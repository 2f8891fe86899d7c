import TickDesktop.Text.Numeral

/-!
# Events

An event has a kind, a payload and a sender, and goes either to every module or to the modules
registered under one name. Names compare exactly.
-/
namespace TickDesktop

/-- What an event is about. -/
inductive Event.Kind where
  | input
  | render
  | memory
  | shutdown
  | other (code : Nat)
  deriving DecidableEq

namespace Event.Kind

/-- The code of a kind. -/
def code : Kind → Nat
  | input => 0x01
  | render => 0x02
  | memory => 0x03
  | shutdown => 0xFF
  | other n => n

/-- The kind with a code; codes without a meaning of their own stay as they are. -/
def ofCode (n : Nat) : Kind :=
  if n = 0x01 then input
  else if n = 0x02 then render
  else if n = 0x03 then memory
  else if n = 0xFF then shutdown
  else other n

theorem code_ofCode (n : Nat) : (ofCode n).code = n := by
  unfold ofCode; grind [code]

/-- The kind as it is named in an event's record. -/
def text : Kind → String
  | input => "Input"
  | render => "Render"
  | memory => "Memory"
  | shutdown => "Shutdown"
  | other n => "Other(" ++ Text.decimal n ++ ")"

end Event.Kind

/-- What an event carries. -/
inductive Event.Payload where
  | none
  | key (code : Nat)
  | value (n : Nat)
  deriving DecidableEq

/-- The payload as it is named in an event's record. -/
def Event.Payload.text : Payload → String
  | none => "None"
  | key code => "Key(" ++ Text.decimal code ++ ")"
  | value n => "Value(" ++ Text.decimal n ++ ")"

/-- A message to modules. -/
structure Event where
  kind : Event.Kind
  payload : Event.Payload
  /-- The name of the sender. -/
  origin : String
  /-- The name of the receiver; without one the event goes to every module. -/
  target : Option String
  deriving DecidableEq

namespace Event

/-- The event that announces the end of the session. -/
def shutdown : Event := ⟨.shutdown, .none, "scheduler", none⟩

/-- The event of a key press. -/
def key (code : Nat) : Event := ⟨.input, .key code, "input", none⟩

/-- Whether a module registered under a name should receive the event. -/
def isFor (e : Event) (name : String) : Bool :=
  match e.target with
  | none => true
  | some t => t = name

end Event

end TickDesktop
