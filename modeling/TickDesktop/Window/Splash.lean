import TickDesktop.Plane.Blit
import TickDesktop.Window.Pane

/-!
# The splash

A splash fades: each frame takes some alpha off its background, and when none is left the window
asks to be destroyed. It shows an image in the middle of its surface, or one color without an image.
-/
namespace TickDesktop

/-- The state of a splash. -/
structure Splash where
  /-- Full fades per second. -/
  fadeSpeed : Float32
  image : Option Surface
  /-- Painted when there is no image. -/
  fallback : Color

namespace Splash

/-- The alpha lost in a frame: the time times the speed in units of a full fade, cut down to a whole
number but at least one while both are positive. -/
def fadeLoss (delta speed : Float32) : UInt8 :=
  if 0 < delta ∧ 0 < speed then
    let raw := delta * 255 * speed
    if 255 ≤ raw then 255 else max raw.toUInt8 1
  else 0

/-- What is left of an alpha after a loss. -/
def fade (alpha loss : UInt8) : UInt8 := if alpha ≤ loss then 0 else alpha - loss

/-- One frame of fading. -/
def update (s : Splash) (p : Pane) (ctx : FrameContext) : Verdict × Pane :=
  if p.background.a = 0 then (.destroy, p)
  else
    let a := fade p.background.a (fadeLoss ctx.delta s.fadeSpeed)
    (if a = 0 then .destroy else .stay,
      { p with background := p.background.withAlpha a, dirty := true })

/-- The distance from the left or top edge at which something of a length is put to lie in the
middle of a space. A negative distance crops it. -/
def margin (space length : Nat) : Int := ((space : Int) - length).tdiv 2

/-- Paint the faded image, or the faded fallback color. -/
def render (s : Splash) (p : Pane) : Pane :=
  let alpha := p.background.a
  match s.image with
  | none => p.paint (·.fill (s.fallback.withAlpha alpha).toPixel)
  | some image =>
    let opacity := fraction alpha.toUInt32
    p.paint fun surface =>
      let x := margin surface.width image.width
      let y := margin surface.height image.height
      (surface.fill p.background.toPixel).paint
        (.clip x y image.width image.height surface.width surface.height)
        fun px py _ => (image.facing x y px py).withOpacity opacity

end Splash

end TickDesktop
