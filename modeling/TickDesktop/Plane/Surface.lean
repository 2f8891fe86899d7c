import TickDesktop.Fault
import TickDesktop.Pixel.Blend
import TickDesktop.Plane.Paint

/-!
# Surfaces

A surface owns `width × height` pixels, row by row from the top. Coordinates are integers, and what
lies outside the surface is neither read nor written. The memory that a surface takes is not the
desktop's own: whoever it belongs to may refuse any request.
-/
namespace TickDesktop

/-- The memory at one moment: the requests for a number of bytes that it grants. What it grants now
says nothing about what it grants later. -/
structure Heap where
  grants : Nat → Bool

namespace Heap

/-- The most bytes that one request can ask for. -/
def maxBytes : Nat := 0x7FFFFFFFFFFFFFFF

/-- The bytes are to be had. To have none, nothing is asked for. -/
def has (heap : Heap) (bytes : Nat) : Bool :=
  bytes = 0 || (bytes ≤ maxBytes && heap.grants bytes)

/-- The memory that grants every request that can be made. -/
def ample : Heap := ⟨fun _ => true⟩

theorem has_eq_true_iff {heap : Heap} {bytes : Nat} :
    heap.has bytes = true ↔ bytes = 0 ∨ bytes ≤ maxBytes ∧ heap.grants bytes = true := by
  simp [has]

end Heap

/-- A `width × height` plane of pixels. -/
structure Surface where
  width : Nat
  height : Nat
  pixels : Array Pixel
  size_pixels : pixels.size = width * height

namespace Surface

/-- The surface with every pixel of one value. -/
def filled (width height : Nat) (p : Pixel) : Surface :=
  ⟨width, height, Array.replicate (width * height) p, by simp⟩

/-- A surface with every pixel of one value, or a fault when its four bytes per pixel are not to be
had. -/
def allocate (heap : Heap) (width height : Nat) (p : Pixel) : Except Fault Surface :=
  let bytes := 4 * (width * height)
  if heap.has bytes then .ok (filled width height p)
  else .error (.allocationFailed (min bytes 0xFFFFFFFFFFFFFFFF))

/-- The cell of a coordinate pair, if it lies on the surface. -/
@[inline] def index? (s : Surface) (x y : Int) : Option Nat :=
  if 0 ≤ x ∧ 0 ≤ y ∧ x < s.width ∧ y < s.height then some (y.toNat * s.width + x.toNat) else none

/-- The pixel at a coordinate pair, if it lies on the surface. -/
def get? (s : Surface) (x y : Int) : Option Pixel := (s.index? x y).bind (s.pixels[·]?)

/-- The surface after one pixel went through `f`. -/
@[inline] def modify (s : Surface) (x y : Int) (f : Pixel → Pixel) : Surface :=
  match s.index? x y with
  | some i => { s with pixels := paintAt s.pixels i f, size_pixels := by simp [s.size_pixels] }
  | none => s

/-- The surface with one pixel set. -/
def put (s : Surface) (x y : Int) (p : Pixel) : Surface := s.modify x y fun _ => p

/-- The surface with a pixel blended over one of its own. -/
def blendAt (s : Surface) (x y : Int) (p : Pixel) (coverage : Float32) : Surface :=
  s.modify x y fun old => p.blend old coverage

/-- The surface with every pixel set to one value. -/
def fill (s : Surface) (p : Pixel) : Surface := filled s.width s.height p

/-- Points put one after the other, all of them opaque. Those off the surface are left out. -/
def putAll (s : Surface) (points : List ((Int × Int) × Color)) : Surface :=
  points.foldl (fun s q => s.put q.1.1 q.1.2 (q.2.withAlpha 255).toPixel) s

/-- The cells of a rectangle, row by row. -/
def block (x y : Int) (width height : Nat) : List (Int × Int) :=
  (List.range height).flatMap fun (row : Nat) =>
    (List.range width).map fun (col : Nat) => (x + col, y + row)

/-- The surface with one opaque color put into each of its cells. -/
def clear (s : Surface) (color : Color) : Surface :=
  s.putAll ((block 0 0 s.width s.height).map (·, color))

/-- The surface after the cells of a box went through a rule. -/
@[inline] def paint (s : Surface) (box : Box) (f : Nat → Nat → Pixel → Pixel) : Surface :=
  { s with
    pixels := paintBox s.pixels s.width box f
    size_pixels := by simp [s.size_pixels] }

@[simp] theorem width_filled (w h : Nat) (p : Pixel) : (filled w h p).width = w := rfl
@[simp] theorem height_filled (w h : Nat) (p : Pixel) : (filled w h p).height = h := rfl
@[simp] theorem width_fill (s : Surface) (p : Pixel) : (s.fill p).width = s.width := rfl
@[simp] theorem height_fill (s : Surface) (p : Pixel) : (s.fill p).height = s.height := rfl

@[simp] theorem width_modify (s : Surface) (x y : Int) (f : Pixel → Pixel) :
    (s.modify x y f).width = s.width := by
  unfold modify; split <;> rfl

@[simp] theorem height_modify (s : Surface) (x y : Int) (f : Pixel → Pixel) :
    (s.modify x y f).height = s.height := by
  unfold modify; split <;> rfl

@[simp] theorem width_put (s : Surface) (x y : Int) (p : Pixel) :
    (s.put x y p).width = s.width := width_modify ..

@[simp] theorem height_put (s : Surface) (x y : Int) (p : Pixel) :
    (s.put x y p).height = s.height := height_modify ..

@[simp] theorem width_paint (s : Surface) (box : Box) (f : Nat → Nat → Pixel → Pixel) :
    (s.paint box f).width = s.width := rfl

@[simp] theorem height_paint (s : Surface) (box : Box) (f : Nat → Nat → Pixel → Pixel) :
    (s.paint box f).height = s.height := rfl

theorem index?_eq_some_iff {s : Surface} {x y : Int} {i : Nat} :
    s.index? x y = some i ↔
      0 ≤ x ∧ 0 ≤ y ∧ x < s.width ∧ y < s.height ∧ y.toNat * s.width + x.toNat = i := by
  simp [index?, and_assoc]

/-- Two coordinate pairs on the surface share a cell only if they are equal. -/
theorem index?_inj {s : Surface} {x y u v : Int} {i : Nat} (h : s.index? x y = some i)
    (h' : s.index? u v = some i) : u = x ∧ v = y := by
  obtain ⟨hx, hy, hxw, hyh, rfl⟩ := index?_eq_some_iff.1 h
  obtain ⟨hu, hv, huw, hvh, heq⟩ := index?_eq_some_iff.1 h'
  have hrow : v.toNat = y.toNat := by
    have hw : 0 < s.width := by omega
    have := congrArg (· / s.width) heq
    simpa [Nat.mul_comm _ s.width, Nat.mul_add_div hw,
      Nat.div_eq_of_lt (show u.toNat < s.width by omega),
      Nat.div_eq_of_lt (show x.toNat < s.width by omega)] using this
  rw [hrow] at heq
  omega

@[simp] theorem index?_modify (s : Surface) (x y : Int) (f : Pixel → Pixel) (u v : Int) :
    (s.modify x y f).index? u v = s.index? u v := by simp [index?]

theorem index?_lt {s : Surface} {x y : Int} {i : Nat} (h : s.index? x y = some i) :
    i < s.pixels.size := by
  obtain ⟨hx, hy, hxw, hyh, rfl⟩ := index?_eq_some_iff.1 h
  rw [s.size_pixels]
  have := Nat.mul_le_mul_right s.width (show y.toNat + 1 ≤ s.height by omega)
  rw [Nat.add_mul, Nat.mul_comm s.height] at this
  omega

theorem get?_modify (s : Surface) (x y : Int) (f : Pixel → Pixel) (u v : Int) :
    (s.modify x y f).get? u v =
      if u = x ∧ v = y then (s.get? u v).map f else s.get? u v := by
  unfold get?
  rw [index?_modify]
  cases huv : s.index? u v with
  | none => simp
  | some j =>
    cases hxy : s.index? x y with
    | none =>
      have hne : ¬ (u = x ∧ v = y) := by rintro ⟨rfl, rfl⟩; simp [hxy] at huv
      simp [modify, hxy, hne]
    | some i =>
      have hij : i = j ↔ u = x ∧ v = y := by
        constructor
        · rintro rfl; exact index?_inj hxy huv
        · rintro ⟨rfl, rfl⟩; rw [hxy] at huv; exact Option.some.inj huv
      simp [modify, hxy, getElem?_paintAt, hij]

theorem get?_put (s : Surface) (x y : Int) (p : Pixel) (u v : Int) :
    (s.put x y p).get? u v =
      if u = x ∧ v = y then (s.get? u v).map fun _ => p else s.get? u v := get?_modify ..

theorem putAll_append (s : Surface) (points rest : List ((Int × Int) × Color)) :
    s.putAll (points ++ rest) = (s.putAll points).putAll rest := List.foldl_append

theorem mem_block {x y u v : Int} {width height : Nat} : (u, v) ∈ block x y width height ↔
    (x ≤ u ∧ u < x + width) ∧ y ≤ v ∧ v < y + height := by
  simp only [block, List.mem_flatMap, List.mem_map, List.mem_range, Prod.mk.injEq]
  constructor
  · rintro ⟨row, hrow, col, hcol, hu, hv⟩
    omega
  · intro hin
    exact ⟨(v - y).toNat, by omega, (u - x).toNat, by omega, by omega, by omega⟩

theorem get?_filled (w h : Nat) (p : Pixel) (x y : Int) :
    (filled w h p).get? x y =
      if 0 ≤ x ∧ 0 ≤ y ∧ x < w ∧ y < h then some p else none := by
  cases hi : (filled w h p).index? x y with
  | none =>
    have : ¬ (0 ≤ x ∧ 0 ≤ y ∧ x < w ∧ y < h) := by
      intro hin; simp [index?, hin] at hi
    simp [get?, hi, this]
  | some i =>
    have hlt := index?_lt hi
    obtain ⟨hx, hy, hxw, hyh, -⟩ := index?_eq_some_iff.1 hi
    have hin : 0 ≤ x ∧ 0 ≤ y ∧ x < w ∧ y < h := ⟨hx, hy, hxw, hyh⟩
    rw [if_pos hin]
    rw [get?, hi]
    simp only [filled, Array.size_replicate] at hlt
    simp [filled, hlt]

/-- Painting a box of the surface takes each of its pixels through the rule and leaves the others
as they are. -/
theorem get?_paint (s : Surface) {box : Box} (f : Nat → Nat → Pixel → Pixel)
    (hcols : box.cols.hi ≤ s.width) (x y : Nat) :
    (s.paint box f).get? x y =
      if x ∈ box.cols ∧ y ∈ box.rows then (s.get? x y).map (f x y) else s.get? x y := by
  unfold get?
  have hindex : (s.paint box f).index? x y = s.index? x y := rfl
  rw [hindex]
  cases hi : s.index? x y with
  | none => simp
  | some i =>
    obtain ⟨-, -, hx, hy, rfl⟩ := index?_eq_some_iff.1 hi
    have hfit : y ∈ box.rows → y * s.width + box.cols.hi ≤ s.pixels.size := by
      intro hmem
      rw [s.size_pixels]
      have := Nat.mul_le_mul_right s.width (show y + 1 ≤ s.height by omega)
      rw [Nat.add_mul, Nat.mul_comm s.height] at this
      omega
    have key := getElem?_paintBox s.pixels s.width box f (show x < s.width by omega) hcols (y := y)
    simp only [Int.toNat_natCast, Option.bind_some, paint]
    rw [key]
    by_cases hin : x ∈ box.cols ∧ y ∈ box.rows
    · rw [if_pos ⟨hin.1, hin.2, hfit hin.2⟩, if_pos hin]
    · rw [if_neg (fun h => hin ⟨h.1, h.2.1⟩), if_neg hin]

end Surface

end TickDesktop
