import TickDesktop.Registry

/-!
# The compositor

The screen is the desktop with the visible windows blended over it in order. One flag for the whole
screen says that something has changed; a pass that composes the screen clears it. Without a
framebuffer nothing is composed and the flag stays.
-/
namespace TickDesktop

/-- What the compositor has done so far. -/
structure PassCounts where
  /-- Passes that composed the screen. -/
  composed : Nat := 0
  /-- Calls that found nothing changed. -/
  skipped : Nat := 0
  /-- Windows blended over all passes. -/
  blitted : Nat := 0
  deriving DecidableEq

/-- The desktop, the framebuffer and the state of the screen. -/
structure Compositor where
  backing : Surface
  framebuffer : Option Framebuffer := none
  dirty : Bool := true
  /-- Whether the missing framebuffer has been reported. -/
  warned : Bool := false
  stats : PassCounts := {}

namespace Compositor

variable {α : Type}

/-- The log target of the compositor. -/
def target : String := "qarma::compositor"

/-- A compositor with a desktop of one color and no framebuffer yet. -/
def create (heap : Heap) (width height : Nat) (desktop : Color) : Except Fault Compositor := do
  let backing ← Surface.allocate heap width height desktop.toPixel
  return { backing }

/-- Show the screen on a framebuffer from now on. -/
def attach (c : Compositor) (fb : Framebuffer) : Compositor :=
  { c with framebuffer := some fb, warned := false, dirty := true }

/-- Show the screen nowhere from now on. -/
def detach (c : Compositor) : Option Framebuffer × Compositor :=
  (c.framebuffer, { c with framebuffer := none })

/-- Ask for the screen to be composed before the next frame. -/
def damage (c : Compositor) : Compositor := { c with dirty := true }

/-- Change the desktop, which asks for the screen to be composed. -/
def paintBacking (c : Compositor) (f : Surface → Surface) : Compositor :=
  { c with backing := f c.backing, dirty := true }

/-- The framebuffer with nothing but the desktop on it, black where the desktop does not reach. -/
def clear (backing : Surface) (fb : Framebuffer) : Framebuffer :=
  let fb := if backing.width < fb.width ∨ backing.height < fb.height then fb.fill .black else fb
  fb.copy backing 0 0

/-- Report once that there is no framebuffer. -/
def warnHeadless (c : Compositor) : Traced α Compositor :=
  if c.warned then pure c
  else do
    Traced.log .warn target (Fault.noFramebuffer.message ++ ", rendering disabled")
    return { c with warned := true }

/-- Count a pass that blended a number of windows. -/
def finish (c : Compositor) (fb : Framebuffer) (blitted : Nat) : Compositor :=
  { c with
    framebuffer := some fb
    dirty := false
    stats := { c.stats with
      composed := c.stats.composed + 1
      blitted := c.stats.blitted + blitted } }

/-- Render each visible window and blend it over the framebuffer before the next one is rendered. -/
def renderOnto [WindowClient α] (fb : Framebuffer) :
    List (Window α) → Traced α (Framebuffer × List (Window α))
  | [] => return (fb, [])
  | w :: ws =>
    if w.isVisible then do
      let w ← w.render
      let (fb, ws) ← renderOnto (w.blendOnto fb) ws
      return (fb, w :: ws)
    else do
      let (fb, ws) ← renderOnto fb ws
      return (fb, w :: ws)

/-- Compose the screen if it has changed, rendering the windows on the way. The result tells whether
a pass was made. -/
def compose [WindowClient α] (c : Compositor) (ws : List (Window α)) :
    Traced α (Bool × Compositor × List (Window α)) := do
  if !c.dirty then
    return (false, { c with stats := { c.stats with skipped := c.stats.skipped + 1 } }, ws)
  else
    match c with
    | ⟨backing, none, dirty, warned, stats⟩ =>
      let c ← warnHeadless ⟨backing, none, dirty, warned, stats⟩
      return (false, c, ws)
    | ⟨backing, some fb, dirty, warned, stats⟩ =>
      let visible := ws.countP (·.isVisible)
      let (fb, ws) ← renderOnto (clear backing fb) ws
      return (true, finish ⟨backing, none, dirty, warned, stats⟩ fb visible, ws)

/-- Compose the screen from the windows as they are, changed or not. The result tells whether a
pass was made. -/
def present (c : Compositor) (ws : List (Window α)) : Traced α (Bool × Compositor) := do
  match c with
  | ⟨backing, none, dirty, warned, stats⟩ =>
    let c ← warnHeadless ⟨backing, none, dirty, warned, stats⟩
    return (false, c)
  | ⟨backing, some fb, dirty, warned, stats⟩ =>
    let visible := ws.filter (·.isVisible)
    let fb := visible.foldl (fun fb w => w.blendOnto fb) (clear backing fb)
    return (true, finish ⟨backing, none, dirty, warned, stats⟩ fb visible.length)

end Compositor

end TickDesktop
