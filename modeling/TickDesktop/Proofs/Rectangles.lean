import TickDesktop.Proofs.Areas
import TickDesktop.Proofs.Placing

/-!
# Rectangles

A rectangle at `(x, y)` covers the pixels `x ≤ px < x + width` and `y ≤ py < y + height`. Filling
paints those of them that lie on the surface, the outline those in its first and last row and
column, and blending takes each of them through the blend once. The edges can be found and the rows
walked in machine numbers, with casts to coordinates of 32 bits, and no number on the way is too
large, however far off the surface the rectangle lies and however far it reaches.
-/
namespace TickDesktop

/-- The cells that a rectangle covers. -/
def Covers (x y : Int) (width height : Nat) (u v : Int) : Prop :=
  (x ≤ u ∧ u < x + width) ∧ y ≤ v ∧ v < y + height

/-- The cells in the first and last row and column of a rectangle. -/
def Outlines (x y : Int) (width height : Nat) (u v : Int) : Prop :=
  Covers x y width height u v ∧
    (u = x ∨ u = x + width - 1 ∨ v = y ∨ v = y + height - 1)

/-- A pixel has no coverage just if its alpha byte is zero. -/
theorem fraction_alpha_le_zero_iff (p : Pixel) : fraction p.alpha ≤ 0 ↔ p.alpha = 0 := by
  have hbyte : ∀ n < 256, fraction (UInt32.ofNat n) ≤ 0 ↔ n = 0 := by decide +kernel
  have halpha := hbyte p.alpha.toNat p.alpha_lt
  rwa [UInt32.ofNat_toNat, ← UInt32.toNat_zero, UInt32.toNat_inj] at halpha

/-! ## Machine numbers -/

/-- Where a length placed at a start ends, or an earlier limit, as a coordinate. -/
def stop? (start : Int) (length : Nat) (limit : Int) : Option Int := do
  let stop ← signed64? (start + length)
  signed32? (min stop limit)

/-- The last cell of a length placed at a start, or the furthest coordinate before it. -/
def last? (start : Int) (length : Nat) : Option Int := do
  let stop ← signed64? (start + length)
  let last ← signed64? (stop - 1)
  signed32? (min last 0x7FFFFFFF)

namespace Surface

/-- A surface with the memory between two addresses set to one value. It fails if these do not lie
in the memory of the surface, one after the other. -/
def fillRun? (s : Surface) (start stop : Nat) (p : Pixel) : Option Surface :=
  if start ≤ stop ∧ stop ≤ s.pixels.size then
    some { s with
      pixels := paintRun s.pixels start (stop - start) fun _ _ => p
      size_pixels := by simp [s.size_pixels] }
  else none

/-- A surface with the columns between two edges set to one value, in the first rows from the top
on. -/
def fillRows? (s : Surface) (left right top : Int) (p : Pixel) : Nat → Option Surface
  | 0 => some s
  | n + 1 => do
    let s ← s.fillRows? left right top p n
    let row ← unsigned? (top + n)
    let start ← cell? row s.width (← unsigned? left)
    let stop ← cell? row s.width (← unsigned? right)
    s.fillRun? start stop p

/-- Filling a rectangle, in machine numbers. -/
def fillRect? (s : Surface) (x y : Int) (width height : Nat) (p : Pixel) : Option Surface := do
  let left := max x 0
  let top := max y 0
  let right ← stop? x width s.width
  let bottom ← stop? y height s.height
  if right ≤ left ∨ bottom ≤ top then return s
  else s.fillRows? left right top p (bottom - top).toNat

/-- Drawing the outline of a rectangle, in machine numbers. -/
def drawRect? (s : Surface) (x y : Int) (width height : Nat) (p : Pixel) : Option Surface :=
  if width = 0 ∨ height = 0 then some s
  else do
    let right ← last? x width
    let bottom ← last? y height
    let s ← s.fillRect? x y width 1 p
    let s ← s.fillRect? x bottom width 1 p
    let s ← s.fillRect? x y 1 height p
    s.fillRect? right y 1 height p

/-- Blending a rectangle, in machine numbers: its cells are visited row by row. -/
def blendRect? (s : Surface) (x y : Int) (width height : Nat) (p : Pixel) : Option Surface :=
  let coverage := fraction p.alpha
  if coverage ≤ 0 then some s
  else do
    let right ← stop? x width 0x7FFFFFFF
    let bottom ← stop? y height 0x7FFFFFFF
    let across ← signed32? s.width
    let down ← signed32? s.height
    let left := max x 0
    let top := max y 0
    let cells := block left top (min right across - left).toNat (min bottom down - top).toNat
    return cells.foldl (fun s q => s.blendAt q.1 q.2 p coverage) s

/-- What the machine's types and the caller say of a rectangle on a surface: a place of 32 bits,
sides of 32 bits, and a surface whose sides are coordinates. -/
structure Drawable (s : Surface) (x y : Int) (width height : Nat) : Prop where
  across_le : s.width ≤ 0x7FFFFFFF
  down_le : s.height ≤ 0x7FFFFFFF
  x_mem : -0x80000000 ≤ x ∧ x ≤ 0x7FFFFFFF
  y_mem : -0x80000000 ≤ y ∧ y ≤ 0x7FFFFFFF
  width_le : width ≤ 0xFFFFFFFF
  height_le : height ≤ 0xFFFFFFFF

end Surface

section Axis

variable {start : Int} {length : Nat}

theorem stop?_eq (hstart : -0x80000000 ≤ start ∧ start ≤ 0x7FFFFFFF) (hlength : length ≤ 0xFFFFFFFF)
    {limit : Int} (hlimit : 0 ≤ limit ∧ limit ≤ 0x7FFFFFFF) :
    stop? start length limit = some (min (start + length) limit) := by
  have hstop : signed64? (start + length) = some (start + length) :=
    signed64?_of_mem (by omega) (by omega)
  rw [stop?, hstop]
  exact signed32?_of_mem (by omega) (by omega)

/-- The last cell is found as a saturated coordinate. -/
theorem last?_eq (hstart : -0x80000000 ≤ start ∧ start ≤ 0x7FFFFFFF) (hlength : length ≤ 0xFFFFFFFF)
    (hpos : length ≠ 0) : last? start length = some (saturate (start + length - 1)) := by
  have hstop : signed64? (start + length) = some (start + length) :=
    signed64?_of_mem (by omega) (by omega)
  have hlast : signed64? (start + length - 1) = some (start + length - 1) :=
    signed64?_of_mem (by omega) (by omega)
  have hnear : saturate (start + length - 1) = min (start + length - 1) 0x7FFFFFFF := by
    rw [saturate]
    omega
  rw [last?, hstop, Option.bind_eq_bind, Option.bind_some, hlast, hnear]
  exact signed32?_of_mem (by omega) (by omega)

end Axis

namespace Surface

variable {s : Surface} {x y : Int} {width height : Nat}

theorem paint_of_empty (s : Surface) {box : Box}
    (h : ¬ (box.cols.lo < box.cols.hi ∧ box.rows.lo < box.rows.hi))
    (f : Nat → Nat → Pixel → Pixel) : s.paint box f = s := by
  simp only [paint, paintBox_of_empty s.pixels s.width f h]

/-- Rows between two edges on the surface lie in its memory. -/
theorem fillRows?_eq (hs : s.pixels.size ≤ 0xFFFFFFFFFFFFFFFF) {left right top n : Nat} (p : Pixel)
    (hcols : left < right ∧ right ≤ s.width) (hrows : top + n ≤ s.height) :
    s.fillRows? left right top p n =
      some (s.paint ⟨⟨left, right⟩, ⟨top, top + n⟩⟩ fun _ _ _ => p) := by
  induction n with
  | zero =>
    have hempty : ¬ (left < right ∧ top < top + 0) := by omega
    rw [fillRows?, paint_of_empty s hempty]
  | succ n ih =>
    have hstart : (top + n) * s.width + left ≤ s.pixels.size := by
      rw [s.size_pixels, Nat.mul_comm s.width]
      exact row_add_le (by omega) (by omega)
    have hstop : (top + n) * s.width + right ≤ s.pixels.size := by
      rw [s.size_pixels, Nat.mul_comm s.width]
      exact row_add_le (by omega) hcols.2
    have hlt := Nat.le_mul_of_pos_right (top + n) (show 0 < s.width by omega)
    have hrow : unsigned? ((top : Int) + n) = some (top + n) := by
      rw [unsigned?_of_mem (by omega) (by omega)]
      congr 1
    have hleft : unsigned? (left : Int) = some left := by
      rw [unsigned?_of_mem (by omega) (by omega)]
      rfl
    have hright : unsigned? (right : Int) = some right := by
      rw [unsigned?_of_mem (by omega) (by omega)]
      rfl
    rw [fillRows?, ih (by omega)]
    simp only [Option.bind_eq_bind, Option.bind_some, hrow, hleft, hright, width_paint,
      cell?_of_le (Nat.le_trans hstart hs), cell?_of_le (Nat.le_trans hstop hs), fillRun?]
    rw [if_pos ⟨by omega, by simpa [paint] using hstop⟩]
    have hcount : (top + n) * s.width + right - ((top + n) * s.width + left) = right - left := by
      omega
    have hspan : (⟨left, right⟩ : Span).lo < (⟨left, right⟩ : Span).hi := hcols.1
    simp only [paint, hcount, paintBox_succ s.pixels s.width hspan top n, size_paintBox,
      if_pos hstop, Span.count]

/-- The memory of a surface with such sides can be addressed. -/
theorem Drawable.size_le (h : s.Drawable x y width height) :
    s.pixels.size ≤ 0xFFFFFFFFFFFFFFFF := by
  have hsize := Nat.mul_le_mul h.across_le h.down_le
  rw [s.size_pixels]
  omega

/-- Other drawings on a surface of the same extent. -/
theorem Drawable.other (h : s.Drawable x y width height) {t : Surface} (ht : t.extent = s.extent)
    {x' y' : Int} {width' height' : Nat} (hx : -0x80000000 ≤ x' ∧ x' ≤ 0x7FFFFFFF)
    (hy : -0x80000000 ≤ y' ∧ y' ≤ 0x7FFFFFFF) (hwidth : width' ≤ width)
    (hheight : height' ≤ height) :
    t.Drawable x' y' width' height' := by
  obtain ⟨hw, hh⟩ := Prod.mk.inj ht
  exact ⟨hw ▸ h.across_le, hh ▸ h.down_le, hx, hy, Nat.le_trans hwidth h.width_le,
    Nat.le_trans hheight h.height_le⟩

theorem Drawable.fillRect?_eq (h : s.Drawable x y width height) (p : Pixel) :
    s.fillRect? x y width height p = some (s.fillRect x y width height p) := by
  have ⟨hacross, hdown, hx, hy, hwidth, hheight⟩ := h
  obtain ⟨hleft, hright⟩ := edges_clip x width s.width
  obtain ⟨htop, hbottom⟩ := edges_clip y height s.height
  rw [fillRect?, stop?_eq hx hwidth ⟨by omega, by omega⟩, stop?_eq hy hheight ⟨by omega, by omega⟩,
    fillRect, Box.clip]
  simp only [Option.bind_eq_bind, Option.bind_some]
  generalize Span.clip x width s.width = cols at *
  generalize Span.clip y height s.height = rows at *
  obtain ⟨left, right⟩ := cols
  obtain ⟨top, bottom⟩ := rows
  dsimp only at *
  by_cases hempty : min (x + width) (s.width : Int) ≤ max x 0 ∨
      min (y + height) (s.height : Int) ≤ max y 0
  · rw [if_pos hempty, paint_of_empty s (by dsimp only; omega)]
    rfl
  · have hrows := fillRows?_eq h.size_le (n := bottom - top) p
      (show left < right ∧ right ≤ s.width by omega) (show top + (bottom - top) ≤ s.height by omega)
    have hright' : min (x + width) (s.width : Int) = right := by omega
    have hcount : (min (y + height) (s.height : Int) - max y 0).toNat = bottom - top := by omega
    have hend : top + (bottom - top) = bottom := by omega
    rw [hend] at hrows
    rw [if_neg hempty, hright', hcount, ← hleft, ← htop, hrows]

theorem Drawable.drawRect?_eq (h : s.Drawable x y width height) (p : Pixel) :
    s.drawRect? x y width height p = some (s.drawRect x y width height p) := by
  rw [drawRect?, drawRect]
  by_cases hempty : width = 0 ∨ height = 0
  · rw [if_pos hempty, if_pos hempty]
  · rw [not_or] at hempty
    have hnear (v : Int) : -0x80000000 ≤ saturate v ∧ saturate v ≤ 0x7FFFFFFF := by
      rw [saturate]
      omega
    have hfill {t : Surface} (ht : t.extent = s.extent) {x' y' : Int} {width' height' : Nat}
        (hx : -0x80000000 ≤ x' ∧ x' ≤ 0x7FFFFFFF) (hy : -0x80000000 ≤ y' ∧ y' ≤ 0x7FFFFFFF)
        (hwidth : width' ≤ width) (hheight : height' ≤ height) :=
      (h.other ht hx hy hwidth hheight).fillRect?_eq p
    have hfirst := hfill rfl h.x_mem h.y_mem (Nat.le_refl _) (show 1 ≤ height by omega)
    have hsecond := hfill (t := s.fillRect x y width 1 p) rfl h.x_mem (hnear (y + height - 1))
      (Nat.le_refl _) (show 1 ≤ height by omega)
    have hthird (t : Surface) (ht : t.extent = s.extent) :=
      hfill ht h.x_mem h.y_mem (show 1 ≤ width by omega) (Nat.le_refl _)
    have hfourth (t : Surface) (ht : t.extent = s.extent) :=
      hfill ht (hnear (x + width - 1)) h.y_mem (show 1 ≤ width by omega) (Nat.le_refl _)
    rw [if_neg (not_or.2 hempty), if_neg (not_or.2 hempty), last?_eq h.x_mem h.width_le hempty.1,
      last?_eq h.y_mem h.height_le hempty.2]
    simp only [Option.bind_eq_bind, Option.bind_some, hfirst, hsecond]
    rw [hthird _ (by simp), Option.bind_some, hfourth _ (by simp)]

/-! ## What is painted -/

theorem painted_fillRect (s : Surface) (x y : Int) (width height : Nat) (p : Pixel) :
    Painted s (s.fillRect x y width height p) (Covers x y width height) fun _ => p :=
  .of_cells rfl
    (fun px py _ _ hcover => by rw [get?_fillRect]; exact if_pos hcover)
    fun px py _ _ hcover => by rw [get?_fillRect]; exact if_neg hcover

/-- The outline is made of four rectangles. A side beyond the last coordinate is off the surface. -/
theorem painted_drawRect (hs : s.width ≤ 0x7FFFFFFF ∧ s.height ≤ 0x7FFFFFFF)
    (hx : -0x80000000 ≤ x) (hy : -0x80000000 ≤ y) (p : Pixel) :
    Painted s (s.drawRect x y width height p) (Outlines x y width height) fun _ => p := by
  rw [drawRect]
  by_cases hempty : width = 0 ∨ height = 0
  · rw [if_pos hempty]
    refine (Painted.refl s _).congr fun px py _ _ => iff_of_false id fun hedge => ?_
    obtain ⟨⟨hcol, hrow⟩, -⟩ := hedge
    omega
  · rw [if_neg hempty]
    have hsides := (((s.painted_fillRect x y width 1 p).trans
      (painted_fillRect _ x (saturate (y + height - 1)) width 1 p) fun _ _ _ _ _ => rfl).trans
      (painted_fillRect _ x y 1 height p) fun _ _ _ _ _ => rfl).trans
      (painted_fillRect _ (saturate (x + width - 1)) y 1 height p) fun _ _ _ _ _ => rfl
    refine hsides.congr fun px py hpx hpy => ?_
    simp only [Outlines, Covers, saturate]
    constructor
    · intro hside
      omega
    · intro hedge
      omega

theorem painted_blendRect (s : Surface) (x y : Int) (width height : Nat) (p : Pixel) :
    Painted s (s.blendRect x y width height p)
      (fun u v => p.alpha ≠ 0 ∧ Covers x y width height u v)
      fun old => p.blend old (fraction p.alpha) := by
  have hcols : (Box.clip x y width height s.width s.height).cols.hi ≤ s.width :=
    Span.hi_clip_le ..
  rw [blendRect]
  by_cases hclear : p.alpha = 0
  · rw [if_pos ((fraction_alpha_le_zero_iff p).2 hclear)]
    exact (Painted.refl s _).congr fun px py _ _ => by simp [hclear]
  · rw [if_neg fun hle => hclear ((fraction_alpha_le_zero_iff p).1 hle)]
    refine (s.painted_paint hcols _).congr fun px py hpx hpy => ?_
    simp only [Box.clip, Int.toNat_natCast, Span.mem_clip, Covers]
    constructor
    · intro hin
      exact ⟨hclear, by omega⟩
    · intro hin
      omega

/-- The cells that are visited are those of the rectangle that lie on the surface. -/
theorem Drawable.blendRect?_eq (h : s.Drawable x y width height) (p : Pixel) :
    s.blendRect? x y width height p = some (s.blendRect x y width height p) := by
  have ⟨hacross, hdown, hx, hy, hwidth, hheight⟩ := h
  have hlimit : (0 : Int) ≤ 0x7FFFFFFF ∧ (0x7FFFFFFF : Int) ≤ 0x7FFFFFFF := by omega
  rw [blendRect?]
  dsimp only
  by_cases hclear : fraction p.alpha ≤ 0
  · rw [if_pos hclear, blendRect, if_pos hclear]
  · rw [if_neg hclear, stop?_eq hx hwidth hlimit, stop?_eq hy hheight hlimit,
      signed32?_of_mem (by omega) (by omega), signed32?_of_mem (by omega) (by omega)]
    have halpha : p.alpha ≠ 0 := fun hzero => hclear ((fraction_alpha_le_zero_iff p).2 hzero)
    refine congrArg some (Painted.unique ?_ (s.painted_blendRect x y width height p))
    refine (s.painted_foldl (.inl (nodup_block ..))).congr fun px py hpx hpy => ?_
    simp only [mem_block, Covers, halpha, ne_eq, not_false_eq_true, true_and]
    omega

/-- Whatever its place and sides, a rectangle paints on a surface exactly what it covers: filled,
all of its cells; outlined, those in its first and last row and column; blended, all of them once
each, or none if the value is clear. Nothing else changes, and every number on the way fits: the
edges into coordinates, and the ends of a row into the memory of the surface. -/
theorem rectangles_paint_what_they_cover (h : s.Drawable x y width height) (p : Pixel) :
    (s.fillRect? x y width height p = some (s.fillRect x y width height p) ∧
      Painted s (s.fillRect x y width height p) (Covers x y width height) fun _ => p) ∧
    (s.drawRect? x y width height p = some (s.drawRect x y width height p) ∧
      Painted s (s.drawRect x y width height p) (Outlines x y width height) fun _ => p) ∧
    s.blendRect? x y width height p = some (s.blendRect x y width height p) ∧
      Painted s (s.blendRect x y width height p)
        (fun u v => p.alpha ≠ 0 ∧ Covers x y width height u v)
        fun old => p.blend old (fraction p.alpha) :=
  ⟨⟨h.fillRect?_eq p, s.painted_fillRect x y width height p⟩,
    ⟨h.drawRect?_eq p, painted_drawRect ⟨h.across_le, h.down_le⟩ h.x_mem.1 h.y_mem.1 p⟩,
    h.blendRect?_eq p, s.painted_blendRect x y width height p⟩

/-- A rectangle from the least coordinate there is, of which the last two columns lie on the
surface, and with its last row beyond the greatest coordinate. -/
theorem rectangles_paint_what_they_cover_far_off :
    let s : Surface := .filled 3 3 0xFF000000
    let p : Pixel := 0x80C80001
    s.Drawable (-0x80000000) 1 0x80000002 0xFFFFFFFF ∧
      (s.fillRect (-0x80000000) 1 0x80000002 0xFFFFFFFF p).get? 0 2 = some p ∧
      (s.fillRect (-0x80000000) 1 0x80000002 0xFFFFFFFF p).get? 2 1 = some 0xFF000000 ∧
      (s.drawRect (-0x80000000) 1 0x80000002 0xFFFFFFFF p).get? 0 2 = some 0xFF000000 ∧
      (s.drawRect (-0x80000000) 1 0x80000002 0xFFFFFFFF p).get? 1 2 = some p ∧
      (s.blendRect (-0x80000000) 1 0x80000002 0xFFFFFFFF p).get? 0 2 = some 0xFF640000 := by
  intro s p
  have hdraw : s.Drawable (-0x80000000) 1 0x80000002 0xFFFFFFFF := by constructor <;> decide
  obtain ⟨⟨-, hfill⟩, ⟨-, houtline⟩, -, hblend⟩ := rectangles_paint_what_they_cover hdraw p
  refine ⟨hdraw, ?_, ?_, ?_, ?_, ?_⟩
  · exact (hfill.inside 0 2 (by simp only [Covers]; omega)).trans (by decide)
  · exact (hfill.outside 2 1 (by simp only [Covers]; omega)).trans (by decide)
  · exact (houtline.outside 0 2 (by simp only [Outlines]; omega)).trans (by decide)
  · exact (houtline.inside 1 2 (by simp only [Outlines, Covers]; omega)).trans (by decide)
  · exact (hblend.inside 0 2 ⟨by decide, by simp only [Covers]; omega⟩).trans (by decide +kernel)

end Surface

end TickDesktop
