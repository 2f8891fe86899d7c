import TickDesktop.Proofs.Composition

/-!
# Placing surfaces in machine numbers

A placed surface can be cut to the visible part of a plane and carried over row by row with numbers
of a fixed width: signed numbers of 64 bits for the cut, and addresses of 64 bits for the rows. Such
a pass stops at the first number that does not fit. None ever does, however far outside the surface
is placed and however large both are, and the pass paints the box that unbounded numbers give. So a
placed surface reaches exactly the pixels that it meets in rows that lie wholly in memory.
-/
namespace TickDesktop

/-- A number as a signed one of 64 bits. -/
def signed64? (v : Int) : Option Int :=
  if -0x8000000000000000 ≤ v ∧ v ≤ 0x7FFFFFFFFFFFFFFF then some v else none

/-- A number as a signed one of 32 bits. -/
def signed32? (v : Int) : Option Int := if -0x80000000 ≤ v ∧ v ≤ 0x7FFFFFFF then some v else none

/-- A number as an unsigned one of 32 bits. -/
def unsigned32? (n : Nat) : Option Nat := if n ≤ 0xFFFFFFFF then some n else none

/-- A number as an address of 64 bits. -/
def address? (n : Nat) : Option Nat := if n ≤ 0xFFFFFFFFFFFFFFFF then some n else none

/-- A signed number as an address. -/
def unsigned? (v : Int) : Option Nat := if 0 ≤ v then address? v.toNat else none

theorem signed64?_of_mem {v : Int} (h : -0x8000000000000000 ≤ v) (h' : v ≤ 0x7FFFFFFFFFFFFFFF) :
    signed64? v = some v := if_pos ⟨h, h'⟩

theorem signed32?_of_mem {v : Int} (h : -0x80000000 ≤ v) (h' : v ≤ 0x7FFFFFFF) :
    signed32? v = some v := if_pos ⟨h, h'⟩

theorem eq_of_signed32? {v w : Int} (h : signed32? v = some w) : w = v :=
  (Option.some.inj (Option.ite_none_right_eq_some.1 h).2).symm

theorem unsigned32?_of_le {n : Nat} (h : n ≤ 0xFFFFFFFF) : unsigned32? n = some n := if_pos h

theorem address?_of_le {n : Nat} (h : n ≤ 0xFFFFFFFFFFFFFFFF) : address? n = some n := if_pos h

theorem unsigned?_of_mem {v : Int} (h : 0 ≤ v) (h' : v ≤ 0xFFFFFFFFFFFFFFFF) :
    unsigned? v = some v.toNat := by
  rw [unsigned?, if_pos h, address?_of_le (by omega)]

/-- One axis of a cut: where it starts on the surface and on the plane, and how long it is. -/
structure Stretch where
  source : Nat
  target : Nat
  count : Nat

/-- The first cell of a placed length that lies on a plane, and the first one after it. -/
def edges? (start : Int) (length limit : Nat) : Option (Int × Int) := do
  let stop ← signed64? (start + length)
  return (max start 0, min stop limit)

/-- The stretch between two edges. -/
def Stretch.between? (start low high : Int) : Option Stretch := do
  let source ← unsigned? (← signed64? (low - start))
  let target ← unsigned? low
  let count ← unsigned? (← signed64? (high - low))
  return ⟨source, target, count⟩

/-- The address of a cell in rows of a length. -/
def cell? (row length column : Nat) : Option Nat := do
  let start ← address? (row * length)
  address? (start + column)

theorem cell?_of_le {row length column : Nat} (h : row * length + column ≤ 0xFFFFFFFFFFFFFFFF) :
    cell? row length column = some (row * length + column) := by
  rw [cell?, address?_of_le (by omega)]
  exact address?_of_le h

/-- A stretch of a row ends no later than the rows do. -/
theorem row_add_le {row rows length column : Nat} (hrow : row < rows) (hcolumn : column ≤ length) :
    row * length + column ≤ rows * length := by
  have hrows := Nat.mul_le_mul_right length (Nat.succ_le_of_lt hrow)
  rw [Nat.succ_mul] at hrows
  omega

namespace Surface

/-- The columns and rows of a placed surface that lie on an `across × down` plane, if there are
any. -/
def cut? (s : Surface) (x y : Int) (across down : Nat) : Option (Option (Stretch × Stretch)) := do
  let (left, right) ← edges? x s.width across
  let (top, bottom) ← edges? y s.height down
  if right ≤ left ∨ bottom ≤ top then return none
  else
    let cols ← Stretch.between? x left right
    let rows ← Stretch.between? y top bottom
    return some (cols, rows)

/-- One row of a cut surface over a plane: its pixels meet those of the plane under a rule, if both
lie wholly in memory. -/
def row? (s : Surface) (plane : Array Pixel) (stride : Nat) (rule : Pixel → Pixel → Pixel)
    (cols rows : Stretch) (k : Nat) : Option (Array Pixel) := do
  let source ← cell? (← address? (rows.source + k)) s.width cols.source
  let target ← cell? (← address? (rows.target + k)) stride cols.target
  let targetEnd ← address? (target + cols.count)
  let sourceEnd ← address? (source + cols.count)
  if targetEnd ≤ plane.size ∧ sourceEnd ≤ s.pixels.size then
    return paintRun plane target cols.count fun j old => rule (s.pixels.getD (source + j) 0) old
  else return plane

/-- The first rows of a cut surface over a plane, from the top. -/
def rows? (s : Surface) (plane : Array Pixel) (stride : Nat) (rule : Pixel → Pixel → Pixel)
    (cols rows : Stretch) : Nat → Option (Array Pixel)
  | 0 => return plane
  | n + 1 => do
    let plane ← s.rows? plane stride rule cols rows n
    s.row? plane stride rule cols rows n

/-- A placed surface over a plane under a rule, in machine numbers. -/
def place? (s : Surface) (x y : Int) (plane : Array Pixel) (across down stride : Nat)
    (rule : Pixel → Pixel → Pixel) : Option (Array Pixel) := do
  match ← s.cut? x y across down with
  | none => return plane
  | some (cols, rows) => s.rows? plane stride rule cols rows rows.count

/-- Copying a surface onto a plane, in machine numbers. -/
def copyOnto? (s : Surface) (x y : Int) (plane : Array Pixel) (across down stride : Nat) :
    Option (Array Pixel) :=
  s.place? x y plane across down stride fun p _ => p

/-- Blending a surface over a plane, in machine numbers. -/
def blendOnto? (s : Surface) (x y : Int) (opacity : Float32) (plane : Array Pixel)
    (across down stride : Nat) : Option (Array Pixel) :=
  let opacity := limit 0 1 opacity
  if opacity ≤ 0 then return plane
  else s.place? x y plane across down stride fun p old => p.layer old opacity

/-- What the machine's types and the caller say of a placed surface: sides of 32 bits, a place of 32
bits, rows at least as long as they are wide, and memory that can be counted out in 64 bits. -/
structure Placeable (s : Surface) (x y : Int) (across down stride : Nat) : Prop where
  width_le : s.width ≤ 0xFFFFFFFF
  height_le : s.height ≤ 0xFFFFFFFF
  x_mem : -0x80000000 ≤ x ∧ x ≤ 0x7FFFFFFF
  y_mem : -0x80000000 ≤ y ∧ y ≤ 0x7FFFFFFF
  across_le : across ≤ 0xFFFFFFFF
  down_le : down ≤ 0xFFFFFFFF
  across_le_stride : across ≤ stride
  fits : stride * (down + 1) ≤ 0xFFFFFFFFFFFFFFFF

end Surface

/-- The stretch of a span of a plane, for a length placed at a start. -/
def Stretch.ofSpan (start : Int) (span : Span) : Stretch :=
  ⟨((span.lo : Int) - start).toNat, span.lo, span.count⟩

section Axis

variable {start : Int} {length limit : Nat}

theorem edges?_eq (hstart : -0x80000000 ≤ start ∧ start ≤ 0x7FFFFFFF)
    (hlength : length ≤ 0xFFFFFFFF) :
    edges? start length limit = some (max start 0, min (start + length) limit) := by
  have hstop : signed64? (start + length) = some (start + length) :=
    signed64?_of_mem (by omega) (by omega)
  rw [edges?, hstop]
  rfl

/-- The two edges are those of the clipped span. -/
theorem edges_clip (start : Int) (length limit : Nat) :
    (Span.clip start length limit).lo = max start 0 ∧
    (Span.clip start length limit).hi = max 0 (min (start + length) (limit : Int)) := by
  simp only [Span.clip, Span.between]
  omega

/-- The stretch between the edges of a clipped span that holds a cell fits. -/
theorem between?_clip (hstart : -0x80000000 ≤ start ∧ start ≤ 0x7FFFFFFF)
    (hlimit : limit ≤ 0xFFFFFFFF) (hsome : max start 0 < min (start + length) (limit : Int)) :
    Stretch.between? start (max start 0) (min (start + length) limit) =
      some (.ofSpan start (.clip start length limit)) := by
  obtain ⟨hlo, hhi⟩ := edges_clip start length limit
  have hsource : signed64? (max start 0 - start) = some (max start 0 - start) :=
    signed64?_of_mem (by omega) (by omega)
  have hcount : signed64? (min (start + length) (limit : Int) - max start 0) =
      some (min (start + length) (limit : Int) - max start 0) :=
    signed64?_of_mem (by omega) (by omega)
  have hsource' : unsigned? (max start 0 - start) = some (max start 0 - start).toNat :=
    unsigned?_of_mem (by omega) (by omega)
  have htarget : unsigned? (max start 0) = some (max start 0).toNat :=
    unsigned?_of_mem (by omega) (by omega)
  have hcount' : unsigned? (min (start + length) (limit : Int) - max start 0) =
      some (min (start + length) (limit : Int) - max start 0).toNat :=
    unsigned?_of_mem (by omega) (by omega)
  simp only [Stretch.between?, hsource, hcount, Option.bind_eq_bind, Option.bind_some, hsource',
    htarget, hcount', Option.pure_def, Stretch.ofSpan, Span.count, Option.some.injEq,
    Stretch.mk.injEq]
  omega

end Axis

namespace Surface

variable {s : Surface} {x y : Int} {across down stride : Nat}

/-- The cut fits, and is the clipped box. -/
theorem Placeable.cut?_eq (h : s.Placeable x y across down stride) :
    s.cut? x y across down = some (
      if (Span.clip x s.width across).lo < (Span.clip x s.width across).hi ∧
        (Span.clip y s.height down).lo < (Span.clip y s.height down).hi
      then some (.ofSpan x (.clip x s.width across), .ofSpan y (.clip y s.height down))
      else none) := by
  have hcols := edges_clip x s.width across
  have hrows := edges_clip y s.height down
  simp only [cut?, edges?_eq h.x_mem h.width_le, edges?_eq h.y_mem h.height_le,
    Option.bind_eq_bind, Option.bind_some]
  by_cases hempty : min (x + s.width) (across : Int) ≤ max x 0 ∨
      min (y + s.height) (down : Int) ≤ max y 0
  · rw [if_pos hempty, if_neg (by omega)]
    rfl
  · rw [if_neg hempty, if_pos (by omega), between?_clip h.x_mem h.across_le (by omega),
      between?_clip h.y_mem h.down_le (by omega)]
    rfl

/-- A row of stretches that end in memory that can be addressed. -/
theorem row?_of_le (plane : Array Pixel) (stride : Nat) (rule : Pixel → Pixel → Pixel)
    (cols rows : Stretch) {k : Nat} (hrow : rows.source + k ≤ 0xFFFFFFFFFFFFFFFF)
    (hrow' : rows.target + k ≤ 0xFFFFFFFFFFFFFFFF)
    (hsource : (rows.source + k) * s.width + (cols.source + cols.count) ≤ s.pixels.size)
    (hsize : s.pixels.size ≤ 0xFFFFFFFFFFFFFFFF)
    (htarget : (rows.target + k) * stride + (cols.target + cols.count) ≤ 0xFFFFFFFFFFFFFFFF) :
    s.row? plane stride rule cols rows k = some (
      if (rows.target + k) * stride + (cols.target + cols.count) ≤ plane.size
      then paintRun plane ((rows.target + k) * stride + cols.target) cols.count fun j =>
        rule (s.pixels.getD ((rows.source + k) * s.width + cols.source + j) 0)
      else plane) := by
  rw [← Nat.add_assoc] at hsource htarget
  simp only [row?, address?_of_le hrow, address?_of_le hrow', Option.bind_eq_bind, Option.bind_some,
    cell?_of_le (Nat.le_trans (Nat.le_add_right _ _) (Nat.le_trans hsource hsize)),
    cell?_of_le (Nat.le_trans (Nat.le_add_right _ _) htarget), address?_of_le htarget,
    address?_of_le (Nat.le_trans hsource hsize), hsource, and_true, ← Nat.add_assoc]
  split <;> rfl

/-- A row of the cut fits, and follows the rule if it lies wholly in memory. -/
theorem Placeable.row?_eq (h : s.Placeable x y across down stride) (plane : Array Pixel)
    (rule : Pixel → Pixel → Pixel) {k : Nat}
    (hcols : (Span.clip x s.width across).lo < (Span.clip x s.width across).hi)
    (hk : k < (Span.clip y s.height down).count) :
    s.row? plane stride rule (.ofSpan x (.clip x s.width across))
        (.ofSpan y (.clip y s.height down)) k = some (
      if ((Span.clip y s.height down).lo + k) * stride + (Span.clip x s.width across).hi ≤
          plane.size
      then paintRun plane (((Span.clip y s.height down).lo + k) * stride +
          (Span.clip x s.width across).lo) (Span.clip x s.width across).count fun j =>
        rule (s.facing x y ((Span.clip x s.width across).lo + j)
          ((Span.clip y s.height down).lo + k))
      else plane) := by
  obtain ⟨hleft, hright⟩ := edges_clip x s.width across
  obtain ⟨htop, hbottom⟩ := edges_clip y s.height down
  have ⟨hw, hh, hx, hy, ha, hd, hstride, hfits⟩ := h
  generalize Span.clip x s.width across = cols at *
  generalize Span.clip y s.height down = rows at *
  obtain ⟨left, right⟩ := cols
  obtain ⟨top, bottom⟩ := rows
  simp only [Span.count] at *
  have hsource : ((top - y).toNat + k) * s.width + ((left - x).toNat + (right - left)) ≤
      s.pixels.size := by
    rw [s.size_pixels, Nat.mul_comm s.width]
    exact row_add_le (by omega) (by omega)
  have hsize : s.pixels.size ≤ 0xFFFFFFFF * 0xFFFFFFFF := s.size_pixels ▸ Nat.mul_le_mul hw hh
  have htarget : (top + k) * stride + (left + (right - left)) ≤ down * stride :=
    row_add_le (by omega) (by omega)
  have hmemory : down * stride ≤ 0xFFFFFFFFFFFFFFFF := by
    rw [Nat.mul_add, Nat.mul_comm] at hfits
    omega
  -- the surface and the plane are walked along in step
  have hfacing (j : Nat) : s.facing x y (left + j) (top + k) =
      s.pixels.getD (((top - y).toNat + k) * s.width + (left - x).toNat + j) 0 := by
    have hrow : ((top + k : Nat) - y).toNat = (top - y).toNat + k := by omega
    have hcolumn : ((left + j : Nat) - x).toNat = (left - x).toNat + j := by omega
    rw [facing, hrow, hcolumn, Nat.add_assoc]
  have hend : left + (right - left) = right := by omega
  have hrow := row?_of_le plane stride rule (.ofSpan x ⟨left, right⟩) (.ofSpan y ⟨top, bottom⟩)
    (show (top - y).toNat + k ≤ _ by omega) (show top + k ≤ _ by omega) hsource (by omega)
    (Nat.le_trans htarget hmemory)
  simp only [Stretch.ofSpan, Span.count, hend] at hrow
  simp only [Stretch.ofSpan, Span.count, hrow, hfacing]

/-- A placed surface over a plane under a rule: each pixel of the plane that it covers goes through
the rule with the pixel that it faces. -/
def placed (s : Surface) (x y : Int) (plane : Array Pixel) (across down stride : Nat)
    (rule : Pixel → Pixel → Pixel) : Array Pixel :=
  paintBox plane stride (.clip x y s.width s.height across down) fun px py =>
    rule (s.facing x y px py)

theorem paintBox_of_empty (a : Array Pixel) (stride : Nat) {box : Box}
    (f : Nat → Nat → Pixel → Pixel)
    (h : ¬ (box.cols.lo < box.cols.hi ∧ box.rows.lo < box.rows.hi)) :
    paintBox a stride box f = a := by
  by_cases hcols : box.cols.lo < box.cols.hi
  · have hcount : box.rows.count = 0 := Nat.sub_eq_zero_of_le (by omega)
    rw [paintBox, if_pos hcols, hcount]
    rfl
  · rw [paintBox, if_neg hcols]

theorem paintBox_eq_fold (a : Array Pixel) (stride : Nat) {cols : Span} (hcols : cols.lo < cols.hi)
    (top n : Nat) (f : Nat → Nat → Pixel → Pixel) :
    paintBox a stride ⟨cols, ⟨top, top + n⟩⟩ f = n.fold (fun k _ a =>
      if (top + k) * stride + cols.hi ≤ a.size
      then paintRun a ((top + k) * stride + cols.lo) cols.count fun j => f (cols.lo + j) (top + k)
      else a) a := by
  have hcount : (Span.mk top (top + n)).count = n := Nat.add_sub_cancel_left ..
  rw [paintBox, if_pos hcols]
  dsimp only
  rw [hcount]

/-- A box with one more row at the bottom. -/
theorem paintBox_succ (a : Array Pixel) (stride : Nat) {cols : Span} (hcols : cols.lo < cols.hi)
    (top n : Nat) (f : Nat → Nat → Pixel → Pixel) :
    paintBox a stride ⟨cols, ⟨top, top + (n + 1)⟩⟩ f =
      if (top + n) * stride + cols.hi ≤ (paintBox a stride ⟨cols, ⟨top, top + n⟩⟩ f).size
      then paintRun (paintBox a stride ⟨cols, ⟨top, top + n⟩⟩ f) ((top + n) * stride + cols.lo)
        cols.count fun j => f (cols.lo + j) (top + n)
      else paintBox a stride ⟨cols, ⟨top, top + n⟩⟩ f := by
  rw [paintBox_eq_fold a stride hcols, paintBox_eq_fold a stride hcols, Nat.fold_succ]

/-- The pass over the first rows of the cut paints these rows of the clipped box. -/
theorem Placeable.rows?_eq (h : s.Placeable x y across down stride) (plane : Array Pixel)
    (rule : Pixel → Pixel → Pixel)
    (hcols : (Span.clip x s.width across).lo < (Span.clip x s.width across).hi) {n : Nat}
    (hn : n ≤ (Span.clip y s.height down).count) :
    s.rows? plane stride rule (.ofSpan x (.clip x s.width across))
        (.ofSpan y (.clip y s.height down)) n =
      some (paintBox plane stride ⟨.clip x s.width across,
          ⟨(Span.clip y s.height down).lo, (Span.clip y s.height down).lo + n⟩⟩ fun px py =>
        rule (s.facing x y px py)) := by
  induction n with
  | zero =>
    rw [paintBox_of_empty _ _ _ fun hsome => Nat.lt_irrefl _ hsome.2]
    rfl
  | succ n ih =>
    rw [rows?, ih (by omega), paintBox_succ _ _ hcols]
    exact h.row?_eq _ rule hcols hn

/-- The pass in machine numbers comes to its end and paints the clipped box. -/
theorem Placeable.place?_eq (h : s.Placeable x y across down stride) (plane : Array Pixel)
    (rule : Pixel → Pixel → Pixel) :
    s.place? x y plane across down stride rule =
      some (s.placed x y plane across down stride rule) := by
  rw [place?, h.cut?_eq, placed]
  by_cases hsome : (Span.clip x s.width across).lo < (Span.clip x s.width across).hi ∧
      (Span.clip y s.height down).lo < (Span.clip y s.height down).hi
  · have hrows := h.rows?_eq plane rule hsome.1 (Nat.le_refl _)
    rw [Span.count, Nat.add_sub_of_le (Nat.le_of_lt hsome.2)] at hrows
    rw [if_pos hsome]
    exact hrows
  · rw [if_neg hsome, paintBox_of_empty _ _ _ hsome]
    rfl

/-- A placed surface meets a pixel of a plane with one of its own, and the part of it that lies on
that row of the plane lies wholly in memory. -/
structure Meets (s : Surface) (x y : Int) (across down stride size : Nat) (px py : Nat)
    (p : Pixel) : Prop where
  column : px < across
  row : py < down
  pixel : s.get? (px - x) (py - y) = some p
  stored : ∀ qx < across, s.get? (qx - x) (py - y) ≠ none → py * stride + qx < size

/-- The pixels that a surface meets are those of the clipped box in rows that lie in memory. -/
theorem meets_iff {size px py : Nat} {p : Pixel} :
    s.Meets x y across down stride size px py p ↔
      (px ∈ Span.clip x s.width across ∧ py ∈ Span.clip y s.height down ∧
        py * stride + (Span.clip x s.width across).hi ≤ size) ∧ s.facing x y px py = p := by
  have hhi := (edges_clip x s.width across).2
  constructor
  · rintro ⟨hcolumn, hrow, hpixel, hstored⟩
    have hin : s.get? (px - x) (py - y) ≠ none := Option.ne_none_iff_exists'.2 ⟨p, hpixel⟩
    rw [ne_eq, get?_eq_none_iff] at hin
    have hpx : px ∈ Span.clip x s.width across := Span.mem_clip.2 (by omega)
    have hpy : py ∈ Span.clip y s.height down := Span.mem_clip.2 (by omega)
    -- the row ends with the last column that the surface covers
    have hlast := hstored ((Span.clip x s.width across).hi - 1) (by omega)
      (by rw [ne_eq, get?_eq_none_iff]; omega)
    rw [get?_sub_eq_facing hpx hpy] at hpixel
    exact ⟨⟨hpx, hpy, by omega⟩, Option.some.inj hpixel⟩
  · rintro ⟨⟨hpx, hpy, hsize⟩, rfl⟩
    have hpixel := get?_sub_eq_facing hpx hpy
    rw [Span.mem_clip] at hpx hpy
    refine ⟨hpx.2.2, hpy.2.2, hpixel, fun qx hqx hsome => ?_⟩
    rw [ne_eq, get?_eq_none_iff] at hsome
    omega

theorem Meets.lt_size {size px py : Nat} {p : Pixel}
    (h : s.Meets x y across down stride size px py p) : py * stride + px < size :=
  h.stored px h.column fun hnone => Option.some_ne_none p (h.pixel.symm.trans hnone)

theorem cols_hi_le (s : Surface) (x y : Int) (down : Nat) (hstride : across ≤ stride) :
    (Box.clip x y s.width s.height across down).cols.hi ≤ stride :=
  Nat.le_trans (Span.hi_clip_le ..) hstride

/-- A pixel that the surface meets goes through the rule. -/
theorem getElem?_placed_of_meets (hstride : across ≤ stride) (plane : Array Pixel)
    (rule : Pixel → Pixel → Pixel) {px py : Nat} {p : Pixel}
    (h : s.Meets x y across down stride plane.size px py p) :
    (s.placed x y plane across down stride rule)[py * stride + px]? =
      plane[py * stride + px]?.map (rule p) := by
  obtain ⟨hin, rfl⟩ := meets_iff.1 h
  have hcolumn : px < stride := Nat.lt_of_lt_of_le h.column hstride
  have hcols := s.cols_hi_le x y down hstride
  exact (getElem?_paintBox plane stride _ _ hcolumn hcols).trans (if_pos hin)

/-- Everything that the surface does not meet stays as it is. -/
theorem getElem?_placed_of_not_meets (hstride : across ≤ stride) (plane : Array Pixel)
    (rule : Pixel → Pixel → Pixel) {i : Nat}
    (h : ∀ px py p, s.Meets x y across down stride plane.size px py p → i ≠ py * stride + px) :
    (s.placed x y plane across down stride rule)[i]? = plane[i]? := by
  have hcols := s.cols_hi_le x y down hstride
  by_cases hzero : stride = 0
  · rw [placed, paintBox_of_empty]
    omega
  · have hmod : i % stride < stride := Nat.mod_lt i (by omega)
    have hpaint := getElem?_paintBox plane stride (.clip x y s.width s.height across down)
      (fun px py => rule (s.facing x y px py)) (y := i / stride) hmod hcols
    rw [Nat.div_add_mod'] at hpaint
    rw [placed, hpaint, if_neg]
    intro hin
    exact h _ _ _ (meets_iff.2 ⟨hin, rfl⟩) (Nat.div_add_mod' i stride).symm

theorem blendOnto_eq (s : Surface) (x y : Int) (opacity : Float32) (plane : Array Pixel)
    (across down stride : Nat) : s.blendOnto x y opacity plane across down stride =
      if limit 0 1 opacity ≤ 0 then plane
      else s.placed x y plane across down stride fun p old => p.layer old (limit 0 1 opacity) := rfl

/-- A surface placed anywhere reaches exactly the pixels of the plane that it meets. Copied, it
leaves its own pixel on each of them. Blended, it leaves its pixel over the old one, weighed once by
its alpha and the opacity, or nothing if one of these is zero. All else stays as it is, padding
included, and no number on the way is too large for the machine. -/
theorem placed_exactly_where_it_meets (h : s.Placeable x y across down stride)
    (plane : Array Pixel) (opacity : Float32) :
    s.copyOnto? x y plane across down stride = some (s.copyOnto x y plane across down stride) ∧
    s.blendOnto? x y opacity plane across down stride =
      some (s.blendOnto x y opacity plane across down stride) ∧
    (∀ px py p, s.Meets x y across down stride plane.size px py p →
      (s.copyOnto x y plane across down stride)[py * stride + px]? = some p ∧
      ∃ old, plane[py * stride + px]? = some old ∧
        (s.blendOnto x y opacity plane across down stride)[py * stride + px]? = some (
          if p.alpha = 0 ∨ limit 0 1 opacity ≤ 0 then old
          else p.blend old (fraction p.alpha * limit 0 1 opacity))) ∧
    (∀ i, (∀ px py p, s.Meets x y across down stride plane.size px py p →
        i ≠ py * stride + px) →
      (s.copyOnto x y plane across down stride)[i]? = plane[i]? ∧
      (s.blendOnto x y opacity plane across down stride)[i]? = plane[i]?) := by
  refine ⟨h.place?_eq plane _, ?_, fun px py p hmeets => ⟨?_, ?_⟩, fun i hi => ⟨?_, ?_⟩⟩
  · rw [blendOnto?, blendOnto_eq, h.place?_eq]
    split <;> rfl
  · have hcopy := getElem?_placed_of_meets h.across_le_stride plane (fun p _ => p) hmeets
    rw [Array.getElem?_eq_getElem hmeets.lt_size] at hcopy
    exact hcopy
  · have hblend := getElem?_placed_of_meets h.across_le_stride plane
      (fun p old => p.layer old (limit 0 1 opacity)) hmeets
    have hold := Array.getElem?_eq_getElem hmeets.lt_size
    refine ⟨_, hold, ?_⟩
    rw [blendOnto_eq]
    by_cases hclear : limit 0 1 opacity ≤ 0
    · rw [if_pos hclear, if_pos (.inr hclear), hold]
    · rw [if_neg hclear, hblend, hold, Option.map_some, Pixel.layer]
      by_cases halpha : p.alpha = 0
      · rw [if_pos halpha, if_pos (.inl halpha)]
      · rw [if_neg halpha, if_neg fun hor => hor.elim halpha hclear]
  · exact getElem?_placed_of_not_meets h.across_le_stride plane (fun p _ => p) hi
  · rw [blendOnto_eq]
    split
    · rfl
    · exact getElem?_placed_of_not_meets h.across_le_stride plane _ hi

/-- A surface that hangs over the left edge of a plane whose memory ends in the second of the rows
that it covers: one pixel is blended, a clear one is not, and the row that ends too late is left. -/
theorem placed_exactly_short_memory :
    let s : Surface := ⟨3, 2, #[1, 0x80C80001, 3, 4, 5, 6], by decide⟩
    let plane : Array Pixel := Array.replicate 7 0xFF000000
    s.Placeable (-1) 1 2 4 3 ∧
      (s.copyOnto (-1) 1 plane 2 4 3)[3]? = some 0x80C80001 ∧
      (s.blendOnto (-1) 1 1 plane 2 4 3)[3]? = some 0xFF640000 ∧
      (s.copyOnto (-1) 1 plane 2 4 3)[4]? = some 3 ∧
      (s.blendOnto (-1) 1 1 plane 2 4 3)[4]? = some 0xFF000000 ∧
      (s.copyOnto (-1) 1 plane 2 4 3)[6]? = some 0xFF000000 := by
  intro s plane
  have hplace : s.Placeable (-1) 1 2 4 3 := by constructor <;> decide
  obtain ⟨-, -, hmeets, hrest⟩ := placed_exactly_where_it_meets hplace plane 1
  have hlit : s.Meets (-1) 1 2 4 3 plane.size 0 1 0x80C80001 :=
    ⟨by decide, by decide, by decide, by decide⟩
  have hclear : s.Meets (-1) 1 2 4 3 plane.size 1 1 3 :=
    ⟨by decide, by decide, by decide, by decide⟩
  have hlate : ∀ px py p, s.Meets (-1) 1 2 4 3 plane.size px py p → 6 ≠ py * 3 + px := by
    intro px py p hp heq
    have hpx := hp.column
    obtain rfl : py = 2 := by omega
    have hend := hp.stored 1 (by decide) (by decide)
    exact absurd hend (by decide)
  obtain ⟨hcopy, old, hold, hblend⟩ := hmeets 0 1 _ hlit
  obtain ⟨hcopy', old', hold', hblend'⟩ := hmeets 1 1 _ hclear
  obtain rfl := Option.some.inj hold
  obtain rfl := Option.some.inj hold'
  refine ⟨hplace, hcopy, hblend.trans ?_, hcopy', hblend'.trans ?_, (hrest 6 hlate).1⟩
  · decide +kernel
  · decide +kernel

end Surface

end TickDesktop
