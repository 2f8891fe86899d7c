import TickDesktop.Draw.Text
import TickDesktop.Window.Pane

/-!
# The clock overlay

The overlay counts whole seconds of frames, from the first frame it sees, and shows them as hours,
minutes and seconds in a box with a shadow. Frames left over from a whole second are carried on, so
the count never drifts.
-/
namespace TickDesktop

/-- The state of a clock overlay. -/
structure ClockFace where
  /-- Whole seconds counted so far. -/
  elapsed : Nat
  /-- The frame up to which seconds have been counted. -/
  lastTick : Option Nat
  /-- Frames in a second. -/
  rate : Nat
  foreground : Color
  border : Color

namespace ClockFace

/-- A clock that has not seen a frame. A rate of zero counts as one. -/
def new (rate : Nat) (foreground border : Color) : ClockFace :=
  ⟨0, none, max rate 1, foreground, border⟩

/-- The clock set back to how it was new. -/
def reset (c : ClockFace) : ClockFace := { c with elapsed := 0, lastTick := none }

/-- A number below a hundred in two digits. -/
def twoDigits (n : Nat) : List Char := [Text.digit (n / 10), Text.digit (n % 10)]

/-- Seconds as `HH:MM:SS`, hours modulo a hundred. -/
def timeText (seconds : Nat) : List Char :=
  twoDigits (seconds / 3600 % 100) ++ ':' :: twoDigits (seconds % 3600 / 60) ++
    ':' :: twoDigits (seconds % 60)

/-- One frame. -/
def update (c : ClockFace) (p : Pane) (tick : Nat) : ClockFace × Pane :=
  match c.lastTick with
  | none => ({ c with lastTick := some tick }, { p with dirty := true })
  | some last =>
    let whole := (tick - last) / c.rate
    if c.rate ≤ tick - last then
      ({ c with elapsed := c.elapsed + whole, lastTick := some (last + whole * c.rate) },
        { p with dirty := true })
    else (c, p)

/-- How far the shadow lies below and to the right of the box. -/
def shadowOffset : Nat := 2

/-- The shadow, a translucent black. -/
def shadow : Pixel := 0x60000000

/-- The column in which the text starts. -/
def textX : Int := 10

/-- The row in which the text starts. -/
def textY : Int := 6

/-- Paint the shadow, the box, its border and the time. -/
def render (outline : Outline) (c : ClockFace) (p : Pane) : Pane :=
  p.paint fun surface =>
    let width := surface.width - shadowOffset
    let height := surface.height - shadowOffset
    ((((surface.fill 0).fillRect shadowOffset shadowOffset width height shadow).fillRect
      0 0 width height p.background.toPixel).putAll (outline width height c.border)).drawText
      Font.ascii textX textY (timeText c.elapsed) c.foreground.toPixel

end ClockFace

end TickDesktop
