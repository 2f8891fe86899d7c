import TickDesktop.Plane.Surface

/-!
# Rectangles

A rectangle at `(x, y)` covers the pixels with `x ≤ px < x + width` and `y ≤ py < y + height`; the
part of it that lies on the surface is painted. Where a border is drawn from outside, all that is
known of the drawing is the points it writes.
-/
namespace TickDesktop

/-- The nearest number that a coordinate of 32 bits can hold. -/
def saturate (v : Int) : Int := max (-0x80000000) (min v 0x7FFFFFFF)

theorem saturate_of_mem {v : Int} (h : -0x80000000 ≤ v) (h' : v < 0x80000000) : saturate v = v := by
  unfold saturate; omega

/-- A way to draw the border of a rectangle in the corner of a surface: the points that are written,
in order, for a width, a height and a color. -/
abbrev Outline := Nat → Nat → Color → List ((Int × Int) × Color)

namespace Surface

/-- Fill a rectangle with one value. -/
def fillRect (s : Surface) (x y : Int) (width height : Nat) (p : Pixel) : Surface :=
  s.paint (.clip x y width height s.width s.height) fun _ _ _ => p

/-- Draw the first and last row and column of a rectangle. -/
def drawRect (s : Surface) (x y : Int) (width height : Nat) (p : Pixel) : Surface :=
  if width = 0 ∨ height = 0 then s
  else
    let right := saturate (x + width - 1)
    let bottom := saturate (y + height - 1)
    (((s.fillRect x y width 1 p).fillRect x bottom width 1 p).fillRect x y 1 height p).fillRect
      right y 1 height p

/-- The four sides of a rectangle in the corner, first and last row before first and last column. -/
def sides : Outline := fun width height color =>
  if width = 0 ∨ height = 0 then []
  else
    let right := saturate (0 + width - 1)
    let bottom := saturate (0 + height - 1)
    (block 0 0 width 1).map (·, color) ++ (block 0 bottom width 1).map (·, color) ++
      (block 0 0 1 height).map (·, color) ++ (block right 0 1 height).map (·, color)

/-- Blend a rectangle over the surface, covered by the alpha byte of the value. -/
def blendRect (s : Surface) (x y : Int) (width height : Nat) (p : Pixel) : Surface :=
  let coverage := fraction p.alpha
  if coverage ≤ 0 then s
  else s.paint (.clip x y width height s.width s.height) fun _ _ old => p.blend old coverage

end Surface

end TickDesktop
