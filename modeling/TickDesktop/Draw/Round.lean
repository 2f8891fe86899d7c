import TickDesktop.Plane.Surface
import TickDesktop.Single.Arc

/-!
# Circles and ellipses

A filled circle is the disc of all pixels whose distance from the center is at most the radius. A
circle's outline covers a pixel by how close its distance comes to the radius. An ellipse is drawn
by stepping along its arc.
-/
namespace TickDesktop

/-- An integer in single precision, rounded to nearest. -/
def single (v : Int) : Float32 :=
  if v < 0 then -(v.natAbs.toUInt64.toFloat32) else v.natAbs.toUInt64.toFloat32

/-- The coordinate nearest to a number, halves away from zero, within 32 bits. -/
def nearestCoordinate (v : Float32) : Int := v.round.toInt32.toInt

namespace Surface

/-- The cells of a surface at most `reach` columns and rows away from a center. -/
def around (s : Surface) (cx cy : Int) (reach : Nat) : Box :=
  ⟨.between (cx - reach) (cx + reach) s.width, .between (cy - reach) (cy + reach) s.height⟩

/-- Paint the disc around a center. -/
def fillCircle (s : Surface) (cx cy : Int) (radius : Nat) (p : Pixel) : Surface :=
  s.paint (s.around cx cy radius) fun px py old =>
    let dx := (px : Int) - cx
    let dy := (py : Int) - cy
    if dx * dx + dy * dy ≤ (radius : Int) * radius then p else old

/-- How far the outline of a circle covers a pixel `(dx, dy)` away from the center: one on the
outline itself, falling to zero at a distance of one pixel from it. -/
def outlineCoverage (dx dy : Int) (radius : Nat) : Float32 :=
  let x := single dx
  let y := single dy
  1 - ((x * x + y * y).sqrt - single radius).abs

/-- Blend the outline of a circle over the surface. -/
def drawCircle (s : Surface) (cx cy : Int) (radius : Nat) (p : Pixel) : Surface :=
  s.paint (s.around cx cy (radius + 1)) fun px py old =>
    let coverage := outlineCoverage ((px : Int) - cx) ((py : Int) - cy) radius
    if 0 < coverage then p.blend old (if 1 < coverage then 1 else coverage) else old

/-- The number of points put on an ellipse: enough for neighbours to touch, within bounds. -/
def ellipseSteps (rx ry : Nat) : Nat := min (max (4 * (rx + ry)) 16) 0x10000

/-- The point at a step along an ellipse. -/
def ellipsePoint (cx cy : Int) (rx ry : Nat) (turn : Float32) (i : Nat) : Int × Int :=
  let arc := single i * turn
  (nearestCoordinate (single cx + single rx * Single.cosine arc),
    nearestCoordinate (single cy + single ry * Single.sine arc))

/-- Put the outline of an ellipse on the surface. -/
def drawEllipse (s : Surface) (cx cy : Int) (rx ry : Nat) (p : Pixel) : Surface :=
  let steps := ellipseSteps rx ry
  let turn := Float32.ofBits 0x40C90FDB / single steps
  steps.fold (fun i _ s =>
    let (x, y) := ellipsePoint cx cy rx ry turn i
    s.put x y p) s

end Surface

end TickDesktop
