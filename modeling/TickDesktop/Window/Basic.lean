import TickDesktop.Journal
import TickDesktop.Plane.Framebuffer
import TickDesktop.Text.Quoted
import TickDesktop.Window.ClockFace
import TickDesktop.Window.Console
import TickDesktop.Window.Panel
import TickDesktop.Window.Splash

/-!
# Windows

A window is a pane with a number, an archetype and a behavior that says how it reacts to updates, to
being rendered, and to typed characters. The behaviors that come with the desktop are listed here;
others are clients, values of any type that knows how to react. Every call into a window is
journaled.
-/
namespace TickDesktop

/-- What a window was made as. -/
inductive Archetype where
  | generic
  | splash
  | modal
  | debug
  | custom
  | clockOverlay
  | dialog
  deriving DecidableEq

namespace Archetype

/-- Every archetype, in the order of their numbers. -/
def all : List Archetype := [generic, splash, modal, debug, custom, clockOverlay, dialog]

/-- The number of an archetype. -/
def number : Archetype → Nat
  | generic => 0
  | splash => 1
  | modal => 2
  | debug => 3
  | custom => 4
  | clockOverlay => 5
  | dialog => 6

/-- The archetype with a number. -/
def ofNumber (n : Nat) : Except Fault Archetype :=
  match all.find? (·.number = n) with
  | some k => .ok k
  | none => .error (.unknownArchetype n)

/-- The archetype as it stands in the log. -/
def text : Archetype → String
  | generic => "Generic"
  | splash => "Splash"
  | modal => "Modal"
  | debug => "Debug"
  | custom => "Custom"
  | clockOverlay => "ClockOverlay"
  | dialog => "Dialog"

@[simp] theorem ofNumber_number (k : Archetype) : ofNumber k.number = .ok k := by
  cases k <;> rfl

end Archetype

/-- What the desktop takes from outside to run its windows: how borders are drawn, and the clients
that can drive a window. A client sees the number of its window and may change the pane and
itself. -/
class WindowClient (α : Type) where
  outline : Outline
  update : α → WindowId → Pane → FrameContext → Verdict × α × Pane
  render : α → WindowId → Pane → α × Pane
  typed : α → WindowId → Pane → Char → α × Pane

/-- How a window reacts. -/
inductive Behavior (α : Type) where
  /-- Fills its surface with its background. -/
  | fill
  | splash (s : Splash)
  | clock (c : ClockFace)
  | modal (panel : Panel)
  | dialog (panel : Panel)
  | console (c : Console)
  | custom (client : α)

namespace Behavior

variable {α : Type}

/-- The client behind a behavior. -/
def client? : Behavior α → Option α
  | custom c => some c
  | _ => none

/-- One frame. -/
def update [WindowClient α] (b : Behavior α) (id : WindowId) (p : Pane) (ctx : FrameContext) :
    Verdict × Behavior α × Pane :=
  match b with
  | splash s =>
    let (outcome, p) := s.update p ctx
    (outcome, splash s, p)
  | clock c =>
    let (c, p) := c.update p ctx.tick
    (.stay, clock c, p)
  | custom c =>
    let (outcome, c, p) := WindowClient.update c id p ctx
    (outcome, custom c, p)
  | b => (.stay, b, p)

/-- Painting the surface. -/
def render [WindowClient α] (b : Behavior α) (id : WindowId) (p : Pane) : Behavior α × Pane :=
  match b with
  | fill => (fill, p.paint (·.fill p.background.toPixel))
  | splash s => (splash s, s.render p)
  | clock c => (clock c, c.render (WindowClient.outline α) p)
  | modal panel => (modal panel, panel.render p)
  | dialog panel => (dialog panel, panel.render p)
  | console c =>
    let (c, p) := c.render p
    (console c, p)
  | custom c =>
    let (c, p) := WindowClient.render c id p
    (custom c, p)

/-- A typed character. -/
def typed [WindowClient α] (b : Behavior α) (id : WindowId) (p : Pane) (ch : Char) :
    Behavior α × Pane :=
  match b with
  | console c =>
    let (room, c) := c.type ch
    (console c, if room then { p with dirty := true } else p)
  | custom c =>
    let (c, p) := WindowClient.typed c id p ch
    (custom c, p)
  | b => (b, p)

end Behavior

/-- A window. -/
structure Window (α : Type) where
  id : WindowId
  archetype : Archetype
  pane : Pane
  behavior : Behavior α

namespace Window

variable {α : Type}

/-- The log target of windows. -/
def target : String := "qarma::window"

/-- The window takes part in passes over the visible windows. -/
def isVisible (w : Window α) : Bool := w.pane.flags.visible

/-- Show or hide the window. -/
def setVisible (w : Window α) (visible : Bool) : Window α :=
  { w with pane.flags.visible := visible, pane.dirty := true }

/-- Put the window elsewhere. -/
def place (w : Window α) (x y : Int) : Window α :=
  { w with pane.x := x, pane.y := y, pane.dirty := true }

/-- The window with its dirty flag cleared. -/
def clean (w : Window α) : Window α := { w with pane.dirty := false }

/-- The entry of a call into the window. -/
def callEntry (w : Window α) (c : WindowCall) : Entry α :=
  .call (.window w.id w.behavior.client? c)

/-- One frame. -/
def update [WindowClient α] (w : Window α) (ctx : FrameContext) :
    Traced α (Verdict × Window α) := do
  Traced.tell (w.callEntry (.update ctx))
  match w with
  | ⟨id, archetype, pane, behavior⟩ =>
    let (outcome, behavior, pane) := behavior.update id pane ctx
    return (outcome, ⟨id, archetype, pane, behavior⟩)

/-- Paint the surface anew. -/
def render [WindowClient α] (w : Window α) : Traced α (Window α) := do
  Traced.tell (w.callEntry .render)
  match w with
  | ⟨id, archetype, pane, behavior⟩ =>
    let (behavior, pane) := behavior.render id pane
    return ⟨id, archetype, pane, behavior⟩

/-- Type a character. -/
def typed [WindowClient α] (w : Window α) (ch : Char) : Traced α (Window α) := do
  Traced.tell (w.callEntry (.typed ch))
  match w with
  | ⟨id, archetype, pane, behavior⟩ =>
    let (behavior, pane) := behavior.typed id pane ch
    return ⟨id, archetype, pane, behavior⟩

/-- Tear the window down. -/
def destroy (w : Window α) : Traced α Unit := do
  Traced.log .debug target ("destroying window " ++ w.id.text ++ " '" ++ w.pane.title ++ "'")
  Traced.tell (w.callEntry (.destroy w.pane.owner))
  match w.behavior with
  | .splash _ => Traced.log .debug "qarma::splash" ("splash " ++ w.id.text ++ " faded out")
  | _ => return

/-- The window over what a framebuffer shows. -/
def blendOnto (w : Window α) (fb : Framebuffer) : Framebuffer :=
  fb.blend w.pane.surface w.pane.x w.pane.y w.pane.opacity

/-- A description of the window in one line. -/
def text (w : Window α) : String :=
  let pair (a b : String) : String := "(" ++ a ++ ", " ++ b ++ ")"
  "Window \x7b id: WindowId(" ++ Text.decimal w.id.number ++ "), kind: " ++ w.archetype.text ++
    ", title: " ++ Text.quoted w.pane.title ++ ", flags: WindowFlags(" ++ w.pane.flags.text ++
    "), pos: " ++ pair (Text.signedDecimal w.pane.x) (Text.signedDecimal w.pane.y) ++
    ", size: " ++ pair (Text.decimal w.pane.surface.width) (Text.decimal w.pane.surface.height) ++
    ", .. \x7d"

end Window

end TickDesktop
