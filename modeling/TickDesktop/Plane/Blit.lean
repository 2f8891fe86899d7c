import TickDesktop.Plane.Surface

/-!
# Placing one surface on another plane

A surface placed with its top left corner at `(x, y)` covers a box of the plane below. The box is
clipped to the visible part of the plane, and pixel `(px, py)` of it meets pixel
`(px - x, py - y)` of the surface.
-/
namespace TickDesktop.Surface

/-- The pixel of a surface placed at `(x, y)` that meets pixel `(px, py)` of the plane below. -/
@[inline] def facing (s : Surface) (x y : Int) (px py : Nat) : Pixel :=
  s.pixels.getD (((py : Int) - y).toNat * s.width + ((px : Int) - x).toNat) 0

/-- Inside the box that a surface covers, its facing pixel is one of its own. -/
theorem get?_sub_eq_facing {s : Surface} {x y : Int} {across down px py : Nat}
    (hx : px ∈ Span.clip x s.width across) (hy : py ∈ Span.clip y s.height down) :
    s.get? (px - x) (py - y) = some (s.facing x y px py) := by
  rw [Span.mem_clip] at hx hy
  have hi : s.index? (px - x) (py - y) =
      some (((py : Int) - y).toNat * s.width + ((px : Int) - x).toNat) :=
    index?_eq_some_iff.2 ⟨by omega, by omega, by omega, by omega, rfl⟩
  have hlt := index?_lt hi
  simp [get?, hi, facing, Array.getD, hlt]

/-- Copy a surface onto the visible `across × down` part of a plane. -/
def copyOnto (s : Surface) (x y : Int) (plane : Array Pixel) (across down stride : Nat) :
    Array Pixel :=
  paintBox plane stride (.clip x y s.width s.height across down) fun px py _ => s.facing x y px py

/-- Blend a surface over the visible `across × down` part of a plane, under an opacity for the whole
of it. An opacity of zero or less leaves the plane as it is. -/
def blendOnto (s : Surface) (x y : Int) (opacity : Float32) (plane : Array Pixel)
    (across down stride : Nat) : Array Pixel :=
  let opacity := limit 0 1 opacity
  if opacity ≤ 0 then plane
  else paintBox plane stride (.clip x y s.width s.height across down) fun px py old =>
    (s.facing x y px py).layer old opacity

@[simp] theorem size_copyOnto (s : Surface) (x y : Int) (plane : Array Pixel)
    (across down stride : Nat) : (s.copyOnto x y plane across down stride).size = plane.size := by
  simp [copyOnto]

@[simp] theorem size_blendOnto (s : Surface) (x y : Int) (opacity : Float32) (plane : Array Pixel)
    (across down stride : Nat) :
    (s.blendOnto x y opacity plane across down stride).size = plane.size := by
  simp only [blendOnto]
  split <;> simp

/-- The surface with another one copied onto it. -/
def blit (s : Surface) (src : Surface) (x y : Int) : Surface :=
  { s with
    pixels := src.copyOnto x y s.pixels s.width s.height s.width
    size_pixels := by simp [s.size_pixels] }

/-- The surface with another one blended over it. -/
def blitBlended (s : Surface) (src : Surface) (x y : Int) (opacity : Float32) : Surface :=
  { s with
    pixels := src.blendOnto x y opacity s.pixels s.width s.height s.width
    size_pixels := by simp [s.size_pixels] }

end TickDesktop.Surface
