import TickDesktop.Log
import TickDesktop.Pixel.Color

/-!
# Configuration

The settings of the desktop, grouped by what they are about, with their default values.
-/
namespace TickDesktop

/-- The screen. -/
structure Config.Display where
  width : Nat := 800
  height : Nat := 600
  /-- What the desktop is filled with. -/
  desktop : Color := .deepBlue
  deriving BEq

/-- The scheduler and the sizes of its tables. -/
structure Config.Scheduler where
  /-- Frames per second. -/
  tickRate : Nat := 60
  maxModules : Nat := 32
  maxProcesses : Nat := 32
  deriving BEq

/-- The window registry, and where windows without a place of their own go. -/
structure Config.Windows where
  maxWindows : Nat := 64
  defaultX : Int := 100
  defaultY : Int := 100
  defaultWidth : Nat := 480
  defaultHeight : Nat := 640
  deriving BEq

/-- The splash shown at boot. -/
structure Config.Splash where
  enabled : Bool := true
  x : Int := 30
  y : Int := 10
  width : Nat := 640
  height : Nat := 480
  /-- Full fades per second. -/
  fadeSpeed : Float32 := 1
  background : Color := .black
  /-- Painted when there is no image. -/
  fallback : Color := .magenta
  deriving BEq

/-- The clock overlay. -/
structure Config.Clock where
  enabled : Bool := true
  x : Int := 700
  y : Int := 10
  width : Nat := 80
  height : Nat := 20
  foreground : Color := .white
  background : Color := ⟨0, 0, 0, 128⟩
  border : Color := .steelBlue
  deriving BEq

/-- All settings of the desktop. -/
structure Config where
  display : Config.Display := {}
  scheduler : Config.Scheduler := {}
  windows : Config.Windows := {}
  splash : Config.Splash := {}
  clock : Config.Clock := {}
  logLevel : Log.Threshold := .upTo .info
  deriving BEq

end TickDesktop
