import TickDesktop.Plane.Blit

/-!
# Framebuffers

A framebuffer is the memory that the display shows: rows of `stride` pixels, of which the first
`width` are visible. The rest of each row is padding.
-/
namespace TickDesktop

/-- Display memory of `width × height` visible pixels in rows of `stride`. -/
structure Framebuffer where
  width : Nat
  height : Nat
  stride : Nat
  pixels : Array Pixel
  width_le_stride : width ≤ stride
  fits : stride * height ≤ pixels.size

namespace Framebuffer

/-- A surface shown as it is, without padding. -/
def ofSurface (s : Surface) : Framebuffer :=
  ⟨s.width, s.height, s.width, s.pixels, Nat.le_refl _, Nat.le_of_eq s.size_pixels.symm⟩

/-- Display memory with rows of `pitch` bytes. Without memory, with rows too short for the width, or
with too little memory for the rows there is no framebuffer. -/
def map? (memory : Option (Array Pixel)) (width height pitch : Nat) : Option Framebuffer :=
  memory.bind fun pixels =>
    if h : width ≤ pitch / 4 ∧ pitch / 4 * height ≤ pixels.size then
      some ⟨width, height, pitch / 4, pixels, h.1, h.2⟩
    else none

/-- The visible pixel in column `x` and row `y`. -/
def get? (fb : Framebuffer) (x y : Nat) : Option Pixel :=
  if x < fb.width ∧ y < fb.height then fb.pixels[y * fb.stride + x]? else none

/-- Every pixel set to one value, padding included. -/
def fill (fb : Framebuffer) (p : Pixel) : Framebuffer :=
  { fb with
    pixels := Array.replicate fb.pixels.size p
    fits := by simpa using fb.fits }

/-- A surface copied onto the visible part. -/
def copy (fb : Framebuffer) (s : Surface) (x y : Int) : Framebuffer :=
  { fb with
    pixels := s.copyOnto x y fb.pixels fb.width fb.height fb.stride
    fits := by simpa using fb.fits }

/-- A surface blended over the visible part. -/
def blend (fb : Framebuffer) (s : Surface) (x y : Int) (opacity : Float32) : Framebuffer :=
  { fb with
    pixels := s.blendOnto x y opacity fb.pixels fb.width fb.height fb.stride
    fits := by simpa using fb.fits }

/-- A rule run over a clipped box reaches the visible pixels of the box and no others. -/
theorem getElem?_paintBox_clip (fb : Framebuffer) (x y : Int) (width height : Nat)
    (f : Nat → Nat → Pixel → Pixel) {px py : Nat} (hx : px < fb.stride) :
    (paintBox fb.pixels fb.stride (.clip x y width height fb.width fb.height)
        f)[py * fb.stride + px]? =
      if px ∈ Span.clip x width fb.width ∧ py ∈ Span.clip y height fb.height
      then fb.pixels[py * fb.stride + px]?.map (f px py) else fb.pixels[py * fb.stride + px]? := by
  have hcols : (Box.clip x y width height fb.width fb.height).cols.hi ≤ fb.stride :=
    Nat.le_trans (Span.hi_clip_le ..) fb.width_le_stride
  rw [getElem?_paintBox _ _ _ _ hx hcols]
  have hfit : py ∈ Span.clip y height fb.height →
      py * fb.stride + (Box.clip x y width height fb.width fb.height).cols.hi
        ≤ fb.pixels.size := by
    intro h
    rw [Span.mem_clip] at h
    have := fb.fits
    have := Nat.mul_le_mul_right fb.stride (show py + 1 ≤ fb.height by omega)
    rw [Nat.add_mul, Nat.mul_comm fb.height] at this
    omega
  by_cases hin : px ∈ Span.clip x width fb.width ∧ py ∈ Span.clip y height fb.height
  · rw [if_pos hin, if_pos ⟨hin.1, hin.2, hfit hin.2⟩]
  · rw [if_neg hin, if_neg (fun h => hin ⟨h.1, h.2.1⟩)]

theorem get?_copy (fb : Framebuffer) (s : Surface) (x y : Int) (px py : Nat) :
    (fb.copy s x y).get? px py =
      if px ∈ Span.clip x s.width fb.width ∧ py ∈ Span.clip y s.height fb.height
      then (fb.get? px py).map fun _ => s.facing x y px py else fb.get? px py := by
  change (if px < fb.width ∧ py < fb.height then _ else none) = _
  unfold get?
  by_cases hv : px < fb.width ∧ py < fb.height
  · rw [if_pos hv, if_pos hv]
    exact fb.getElem?_paintBox_clip x y s.width s.height (fun px py _ => s.facing x y px py)
      (Nat.lt_of_lt_of_le hv.1 fb.width_le_stride)
  · simp [hv]

theorem get?_blend (fb : Framebuffer) (s : Surface) (x y : Int) (opacity : Float32)
    (px py : Nat) :
    (fb.blend s x y opacity).get? px py =
      if ¬ limit 0 1 opacity ≤ 0 ∧ px ∈ Span.clip x s.width fb.width ∧
          py ∈ Span.clip y s.height fb.height
      then (fb.get? px py).map fun old => (s.facing x y px py).layer old (limit 0 1 opacity)
      else fb.get? px py := by
  change (if px < fb.width ∧ py < fb.height then
    (s.blendOnto x y opacity fb.pixels fb.width fb.height fb.stride)[py * fb.stride + px]?
    else none) = _
  unfold get? Surface.blendOnto
  generalize limit 0 1 opacity = o
  by_cases hv : px < fb.width ∧ py < fb.height
  · rw [if_pos hv, if_pos hv]
    by_cases ho : o ≤ 0
    · simp [ho]
    · simpa [ho] using fb.getElem?_paintBox_clip x y s.width s.height
        (fun px py old => (s.facing x y px py).layer old o)
        (Nat.lt_of_lt_of_le hv.1 fb.width_le_stride)
  · simp [hv]

theorem get?_fill (fb : Framebuffer) (p : Pixel) (px py : Nat) :
    (fb.fill p).get? px py = (fb.get? px py).map fun _ => p := by
  change (if px < fb.width ∧ py < fb.height then _ else none) = _
  unfold get?
  by_cases hv : px < fb.width ∧ py < fb.height
  · rw [if_pos hv, if_pos hv]
    by_cases hi : py * fb.stride + px < fb.pixels.size <;> simp [fill, hi]
  · simp [hv]

end Framebuffer

end TickDesktop
