import TickDesktop.Config.Basic
import TickDesktop.Window.Basic

/-!
# Making windows

The workshop numbers windows in the order in which it completes them, starting at one. A window is
either complete, with its surface and its behavior, or not made at all, and a window that could not
be made uses up no number. What memory there is for surfaces when a window is made is not up to the
workshop. Nor is registering its business.
-/
namespace TickDesktop

/-- The settings that windows are made from, and the number of the next one. -/
structure Workshop where
  next : Nat := 1
  windows : Config.Windows
  splash : Config.Splash
  clock : Config.Clock
  tickRate : Nat

namespace Workshop

variable {α : Type}

/-- The workshop of a configuration. -/
def ofConfig (c : Config) : Workshop where
  windows := c.windows
  splash := c.splash
  clock := c.clock
  tickRate := c.scheduler.tickRate

/-- The last number of the 32 bit number space is never given out. -/
def maxNumber : Nat := 0xFFFFFFFE

/-- Make a window of an archetype with a behavior. The surface comes first, so that a number is used
only for a window that is complete. -/
def build (shop : Workshop) (heap : Heap) (archetype : Archetype) (title : String) (g : Geometry)
    (flags : WindowFlags) (background : Color) (behavior : Behavior α) :
    Traced α (Except Fault (Window α) × Workshop) := do
  match Surface.allocate heap g.width g.height 0 with
  | .error e =>
    Traced.log .warn Window.target ("no memory for " ++ Text.decimal g.width ++ "x" ++
      Text.decimal g.height ++ " '" ++ title ++ "'")
    return (.error e, shop)
  | .ok surface =>
    if maxNumber < shop.next then return (.error .idSpaceExhausted, shop)
    else
      let id : WindowId := ⟨shop.next⟩
      Traced.log .info Window.target ("created " ++ archetype.text ++ " window " ++ id.text ++
        " '" ++ title ++ "'")
      let pane := { Pane.new title flags g.x g.y surface with background := background }
      return (.ok ⟨id, archetype, pane, behavior⟩, { shop with next := shop.next + 1 })

/-- The behavior that an archetype comes with. A window made as custom but without a client fills
its surface. -/
def behaviorOf (shop : Workshop) : Archetype → Behavior α
  | .generic | .custom => .fill
  | .modal => .modal {}
  | .dialog => .dialog {}
  | .debug => .console {}
  | .splash => .splash ⟨shop.splash.fadeSpeed, none, shop.splash.fallback⟩
  | .clockOverlay => .clock (.new shop.tickRate shop.clock.foreground shop.clock.border)

/-- The flags that an archetype adds to the ones asked for. -/
def flagsOf (archetype : Archetype) (flags : WindowFlags) : WindowFlags :=
  match archetype with
  | .modal => { flags with modal := true }
  | .splash => { flags with fadeOut := true }
  | _ => flags

/-- The background that an archetype comes with. -/
def backgroundOf (shop : Workshop) : Archetype → Color
  | .splash => shop.splash.background
  | .clockOverlay => shop.clock.background
  | _ => .black

/-- Where a window of an archetype goes when nothing else is said. -/
def geometryOf (shop : Workshop) : Archetype → Geometry
  | .splash => ⟨shop.splash.x, shop.splash.y, shop.splash.width, shop.splash.height⟩
  | .clockOverlay => ⟨shop.clock.x, shop.clock.y, shop.clock.width, shop.clock.height⟩
  | _ => ⟨shop.windows.defaultX, shop.windows.defaultY, shop.windows.defaultWidth,
      shop.windows.defaultHeight⟩

/-- Make a window of an archetype at a given place. -/
def makeAt (shop : Workshop) (heap : Heap) (archetype : Archetype) (title : String) (g : Geometry)
    (flags : WindowFlags) : Traced α (Except Fault (Window α) × Workshop) :=
  shop.build heap archetype title g (flagsOf archetype flags) (shop.backgroundOf archetype)
    (shop.behaviorOf archetype)

/-- Make a window of an archetype at its default place. -/
def make (shop : Workshop) (heap : Heap) (archetype : Archetype) (title : String)
    (flags : WindowFlags) : Traced α (Except Fault (Window α) × Workshop) :=
  shop.makeAt heap archetype title (shop.geometryOf archetype) flags

/-- Make a window of the archetype with a number. A number without an archetype is a mistake in the
program that asks for it, and halts the machine with the given message. -/
def makeNumbered (shop : Workshop) (heap : Heap) (number : Nat) (title : String)
    (flags : WindowFlags) : Except String (Traced α (Except Fault (Window α) × Workshop)) :=
  match Archetype.ofNumber number with
  | .ok archetype => .ok (shop.make heap archetype title flags)
  | .error e => .error ("create_archetype: " ++ e.message)

/-- Make a splash that shows an image. -/
def makeSplash (shop : Workshop) (heap : Heap) (title : String) (flags : WindowFlags)
    (image : Surface) : Traced α (Except Fault (Window α) × Workshop) := do
  let (made, shop) ← shop.make heap .splash title flags
  return (made.map fun w => match w.behavior with
    | .splash s => { w with behavior := .splash { s with image := some image } }
    | _ => w, shop)

/-- Make a window driven by a client. -/
def makeClient (shop : Workshop) (heap : Heap) (title : String) (g : Geometry)
    (flags : WindowFlags) (client : α) : Traced α (Except Fault (Window α) × Workshop) :=
  shop.build heap .custom title g flags .black (.custom client)

end Workshop

end TickDesktop
