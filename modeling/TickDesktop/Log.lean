import TickDesktop.Fault

/-!
# The log

A record has a level, a target and a text. The logger lets a record through when its level is at or
above the severity it is set to and a sink is attached, and stamps the line with the uptime it was
last told.
-/
namespace TickDesktop.Log

/-- How severe a record is, from the most severe level on. -/
inductive Level where
  | error
  | warn
  | info
  | debug
  | trace
  deriving DecidableEq

/-- The place of a level in the order of severity, the most severe one first. -/
def Level.rank : Level → Nat
  | error => 1
  | warn => 2
  | info => 3
  | debug => 4
  | trace => 5

/-- The level as it stands in a log line. -/
def Level.name : Level → String
  | error => "ERROR"
  | warn => "WARN"
  | info => "INFO"
  | debug => "DEBUG"
  | trace => "TRACE"

/-- Which levels the logger lets through: none, or a level with all more severe ones. -/
inductive Threshold where
  | off
  | upTo (level : Level)
  deriving DecidableEq

namespace Threshold

/-- The least severe rank that passes. -/
def rank : Threshold → Nat
  | off => 0
  | upTo l => l.rank

/-- The threshold as it stands in a configuration. -/
def name : Threshold → String
  | off => "OFF"
  | upTo l => l.name

/-- Every threshold, from the one that lets nothing through on. -/
def all : List Threshold :=
  [off, upTo .error, upTo .warn, upTo .info, upTo .debug, upTo .trace]

/-- The threshold with a name, in letters of either case. -/
def ofName? (s : List Char) : Option Threshold :=
  all.find? fun t => s.map Char.toUpper = t.name.toList

/-- Whether records of a level pass. -/
def admits (t : Threshold) (l : Level) : Bool := l.rank ≤ t.rank

theorem ofName?_name (t : Threshold) : ofName? t.name.toList = some t := by
  cases t with
  | off => decide
  | upTo l => cases l <;> decide

end Threshold

/-- One message for the log. -/
structure Record where
  level : Level
  target : String
  text : String
  deriving DecidableEq

/-- The line of a record, stamped with an uptime in milliseconds. -/
def Record.line (r : Record) (uptime : Nat) : String :=
  "[" ++ Text.padLeft 10 (Text.decimal uptime) ++ "][" ++ Text.padRight 5 r.level.name ++ "] " ++
    r.target ++ ": " ++ r.text ++ "\n"

/-- The settings of the log. -/
structure Logger where
  /-- Whether a logger has been installed. -/
  installed : Bool
  /-- Whether a sink takes the lines. -/
  sink : Bool
  threshold : Threshold
  /-- The uptime in milliseconds that lines are stamped with. -/
  uptime : Nat

namespace Logger

/-- Install the logger with a sink. Only the first call succeeds. -/
def install (l : Logger) (t : Threshold) : Except Fault Logger :=
  if l.installed then .error .loggerInstalled
  else .ok { l with installed := true, sink := true, threshold := t }

/-- The line that a record leaves in the sink, if it passes. -/
def line? (l : Logger) (r : Record) : Option String :=
  if l.installed && l.sink && l.threshold.admits r.level then some (r.line l.uptime) else none

end Logger

end TickDesktop.Log
