import TickDesktop.Config.Value

/-!
# The fields of a configuration

Every setting is a field with a kind of value, a place in the configuration, and names: the
sections and the keys under which a configuration text may give it. The first name of each is the
one that is written.
-/
namespace TickDesktop.Config

/-- A setting. -/
inductive Field where
  | logLevel
  | displayWidth | displayHeight | desktop
  | tickRate | maxModules | maxProcesses
  | maxWindows | defaultX | defaultY | defaultWidth | defaultHeight
  | splashEnabled | splashX | splashY | splashWidth | splashHeight
  | fadeSpeed | splashBackground | fallback
  | clockEnabled | clockX | clockY | clockWidth | clockHeight
  | foreground | clockBackground | border
  deriving DecidableEq

/-- A group of settings that stand under one header. -/
inductive Section where
  | general | display | scheduler | windows | splash | clock
  deriving DecidableEq

/-- The names of a section, the written one first. -/
def Section.names : Section → List String
  | general => ["general", "qarma"]
  | display => ["display"]
  | scheduler => ["scheduler"]
  | windows => ["windows", "window"]
  | splash => ["splash"]
  | clock => ["clock"]

/-- The fields of a section in the order they are written. -/
def Section.fields : Section → List Field
  | general => [.logLevel]
  | display => [.displayWidth, .displayHeight, .desktop]
  | scheduler => [.tickRate, .maxModules, .maxProcesses]
  | windows => [.maxWindows, .defaultX, .defaultY, .defaultWidth, .defaultHeight]
  | splash => [.splashEnabled, .splashX, .splashY, .splashWidth, .splashHeight, .fadeSpeed,
      .splashBackground, .fallback]
  | clock => [.clockEnabled, .clockX, .clockY, .clockWidth, .clockHeight, .foreground,
      .clockBackground, .border]

/-- The sections in the order they are written. -/
def Section.all : List Section := [general, display, scheduler, windows, splash, clock]

namespace Field

/-- The kind of a field's value. -/
@[reducible] def kind : Field → Kind
  | logLevel => .threshold
  | displayWidth | displayHeight | defaultWidth | defaultHeight | splashWidth | splashHeight
  | clockWidth | clockHeight => .extent
  | tickRate => .rate
  | maxModules | maxProcesses | maxWindows => .slots
  | defaultX | defaultY | splashX | splashY | clockX | clockY => .coordinate
  | splashEnabled | clockEnabled => .switch
  | fadeSpeed => .speed
  | desktop | splashBackground | fallback | foreground | clockBackground | border => .color

/-- The keys of a field, the written one first. -/
def keys : Field → List String
  | logLevel => ["log_level", "log"]
  | displayWidth | splashWidth | clockWidth => ["width"]
  | displayHeight | splashHeight | clockHeight => ["height"]
  | desktop => ["desktop", "background"]
  | tickRate => ["tick_rate"]
  | maxModules => ["max_modules", "modules"]
  | maxProcesses => ["max_processes", "processes"]
  | maxWindows => ["max_windows", "capacity"]
  | defaultX => ["default_x", "x"]
  | defaultY => ["default_y", "y"]
  | defaultWidth => ["default_width", "width"]
  | defaultHeight => ["default_height", "height"]
  | splashEnabled | clockEnabled => ["enabled", "show"]
  | splashX | clockX => ["x"]
  | splashY | clockY => ["y"]
  | fadeSpeed => ["fade_speed"]
  | splashBackground | clockBackground => ["background"]
  | fallback => ["fallback", "fallback_color"]
  | foreground => ["foreground", "text"]
  | border => ["border"]

/-- The field that a section and a key name. -/
def named? (header key : List Char) : Option Field :=
  let among (names : List String) (s : List Char) : Bool := names.any fun n => n.toList = s
  (Section.all.find? fun s => among s.names header).bind fun s =>
    s.fields.find? fun f => among f.keys key

/-- The value of a field. -/
def get : (f : Field) → Config → f.kind.Value
  | logLevel, c => c.logLevel
  | displayWidth, c => c.display.width
  | displayHeight, c => c.display.height
  | desktop, c => c.display.desktop
  | tickRate, c => c.scheduler.tickRate
  | maxModules, c => c.scheduler.maxModules
  | maxProcesses, c => c.scheduler.maxProcesses
  | maxWindows, c => c.windows.maxWindows
  | defaultX, c => c.windows.defaultX
  | defaultY, c => c.windows.defaultY
  | defaultWidth, c => c.windows.defaultWidth
  | defaultHeight, c => c.windows.defaultHeight
  | splashEnabled, c => c.splash.enabled
  | splashX, c => c.splash.x
  | splashY, c => c.splash.y
  | splashWidth, c => c.splash.width
  | splashHeight, c => c.splash.height
  | fadeSpeed, c => c.splash.fadeSpeed
  | splashBackground, c => c.splash.background
  | fallback, c => c.splash.fallback
  | clockEnabled, c => c.clock.enabled
  | clockX, c => c.clock.x
  | clockY, c => c.clock.y
  | clockWidth, c => c.clock.width
  | clockHeight, c => c.clock.height
  | foreground, c => c.clock.foreground
  | clockBackground, c => c.clock.background
  | border, c => c.clock.border

/-- The configuration with one field set. -/
def set : (f : Field) → f.kind.Value → Config → Config
  | logLevel, v, c => { c with logLevel := v }
  | displayWidth, v, c => { c with display.width := v }
  | displayHeight, v, c => { c with display.height := v }
  | desktop, v, c => { c with display.desktop := v }
  | tickRate, v, c => { c with scheduler.tickRate := v }
  | maxModules, v, c => { c with scheduler.maxModules := v }
  | maxProcesses, v, c => { c with scheduler.maxProcesses := v }
  | maxWindows, v, c => { c with windows.maxWindows := v }
  | defaultX, v, c => { c with windows.defaultX := v }
  | defaultY, v, c => { c with windows.defaultY := v }
  | defaultWidth, v, c => { c with windows.defaultWidth := v }
  | defaultHeight, v, c => { c with windows.defaultHeight := v }
  | splashEnabled, v, c => { c with splash.enabled := v }
  | splashX, v, c => { c with splash.x := v }
  | splashY, v, c => { c with splash.y := v }
  | splashWidth, v, c => { c with splash.width := v }
  | splashHeight, v, c => { c with splash.height := v }
  | fadeSpeed, v, c => { c with splash.fadeSpeed := v }
  | splashBackground, v, c => { c with splash.background := v }
  | fallback, v, c => { c with splash.fallback := v }
  | clockEnabled, v, c => { c with clock.enabled := v }
  | clockX, v, c => { c with clock.x := v }
  | clockY, v, c => { c with clock.y := v }
  | clockWidth, v, c => { c with clock.width := v }
  | clockHeight, v, c => { c with clock.height := v }
  | foreground, v, c => { c with clock.foreground := v }
  | clockBackground, v, c => { c with clock.background := v }
  | border, v, c => { c with clock.border := v }

@[simp] theorem get_set_self (f : Field) (v : f.kind.Value) (c : Config) :
    f.get (f.set v c) = v := by
  cases f <;> rfl

theorem get_set_of_ne {f g : Field} (h : f ≠ g) (v : g.kind.Value) (c : Config) :
    f.get (g.set v c) = f.get c := by
  cases f <;> cases g <;> first | rfl | exact absurd rfl h

end Field

end TickDesktop.Config
