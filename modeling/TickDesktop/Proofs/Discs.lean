import Mathlib.Data.Int.Lemmas
import TickDesktop.Draw.Round
import TickDesktop.Proofs.Areas
import TickDesktop.Proofs.Placing

/-!
# Discs

A disc covers the pixels no further from its center than its radius, as distances go in unbounded
numbers. Only the columns and rows within reach of the center are searched. A pixel of the disc is
never missed, since what is too far away along one axis is too far away altogether, and the columns
and rows that are searched always lie on the surface. They are found in numbers of 64 bits, cast to
coordinates of 32 bits and compared with the radius in numbers of 128 bits, all of which fit.
-/
namespace TickDesktop

/-- The cells of a disc. -/
def InDisc (cx cy : Int) (radius : Nat) (u v : Int) : Prop :=
  (u - cx) ^ 2 + (v - cy) ^ 2 ≤ (radius : Int) ^ 2

instance (cx cy : Int) (radius : Nat) (u v : Int) : Decidable (InDisc cx cy radius u v) :=
  inferInstanceAs (Decidable (_ ≤ _))

/-- The cells at most `reach` columns and rows away from a center. -/
def InReach (cx cy : Int) (reach : Nat) (u v : Int) : Prop :=
  (u - cx).natAbs ≤ reach ∧ (v - cy).natAbs ≤ reach

/-- Along each axis the disc extends no further than its radius. -/
theorem InDisc.inReach {cx cy : Int} {radius : Nat} {u v : Int} (h : InDisc cx cy radius u v) :
    InReach cx cy radius u v := by
  have hacross : 0 ≤ (u - cx) ^ 2 := sq_nonneg (u - cx)
  have hdown : 0 ≤ (v - cy) ^ 2 := sq_nonneg (v - cy)
  rw [InDisc] at h
  constructor
  · rw [← Int.natAbs_natCast radius, Int.natAbs_le_iff_sq_le]
    omega
  · rw [← Int.natAbs_natCast radius, Int.natAbs_le_iff_sq_le]
    omega

/-! ## Machine numbers -/

/-- A number as a signed one of 128 bits. -/
def signed128? (v : Int) : Option Int :=
  if -0x80000000000000000000000000000000 ≤ v ∧ v ≤ 0x7FFFFFFFFFFFFFFFFFFFFFFFFFFFFFFF then some v
  else none

/-- The first cell of a length within reach of a center, and the first one after these, as
coordinates. -/
def reach? (center reach : Int) (length : Nat) : Option (Int × Int) := do
  let first ← signed64? (center - reach)
  let stop ← signed64? ((← signed64? (center + reach)) + 1)
  let low := max first 0
  let high := max (min stop length) low
  return (← signed32? low, ← signed32? high)

/-- Whether a cell is no further from a center than the root of a number. -/
def within? (cx cy square u v : Int) : Option Bool := do
  let dy ← signed128? (v - cy)
  let dx ← signed128? (u - cx)
  let distance ← signed128? ((← signed128? (dx * dx)) + (← signed128? (dy * dy)))
  return distance ≤ square

namespace Surface

/-- The columns and rows of a surface within reach of a center. -/
def around? (s : Surface) (cx cy reach : Int) : Option ((Int × Int) × Int × Int) := do
  return (← reach? cx reach s.width, ← reach? cy reach s.height)

/-- Painting a disc, in machine numbers: the cells within reach are visited row by row. -/
def fillCircle? (s : Surface) (cx cy : Int) (radius : Nat) (p : Pixel) : Option Surface := do
  let square ← signed128? (radius * radius)
  let ((left, right), top, bottom) ← s.around? cx cy radius
  let cells := block left top (right - left).toNat (bottom - top).toNat
  cells.foldlM (fun s q => do
    return if ← within? cx cy square q.1 q.2 then s.put q.1 q.2 p else s) s

/-- Painting a disc by a search of the whole surface. -/
def scanDisc (s : Surface) (cx cy : Int) (radius : Nat) (p : Pixel) : Surface :=
  s.paint ⟨⟨0, s.width⟩, ⟨0, s.height⟩⟩ fun px py old =>
    if InDisc cx cy radius px py then p else old

end Surface

theorem signed128?_of_mem {v : Int} (h : -0x80000000000000000000000000000000 ≤ v)
    (h' : v ≤ 0x7FFFFFFFFFFFFFFFFFFFFFFFFFFFFFFF) : signed128? v = some v := if_pos ⟨h, h'⟩

/-- The cells between the two coordinates are those of the length that are within reach. -/
theorem exists_reach {center : Int} {reach length : Nat}
    (hcenter : -0x80000000 ≤ center ∧ center ≤ 0x7FFFFFFF) (hreach : reach ≤ 0x100000000)
    (hlength : length ≤ 0x7FFFFFFF) :
    ∃ low high, reach? center reach length = some (low, high) ∧
      ∀ u, low ≤ u ∧ u < high ↔ (0 ≤ u ∧ u < length) ∧ (u - center).natAbs ≤ reach := by
  have hfirst : signed64? (center - reach) = some (center - reach) :=
    signed64?_of_mem (by omega) (by omega)
  have hlast : signed64? (center + reach) = some (center + reach) :=
    signed64?_of_mem (by omega) (by omega)
  have hstop : signed64? (center + reach + 1) = some (center + reach + 1) :=
    signed64?_of_mem (by omega) (by omega)
  have hlow : signed32? (max (center - reach) 0) = some (max (center - reach) 0) :=
    signed32?_of_mem (by omega) (by omega)
  have hhigh : signed32? (max (min (center + reach + 1) (length : Int)) (max (center - reach) 0)) =
      some (max (min (center + reach + 1) (length : Int)) (max (center - reach) 0)) :=
    signed32?_of_mem (by omega) (by omega)
  refine ⟨max (center - reach) 0,
    max (min (center + reach + 1) (length : Int)) (max (center - reach) 0), ?_, fun u => ?_⟩
  · simp only [reach?, hfirst, hlast, hstop, hlow, hhigh, Option.bind_eq_bind, Option.bind_some,
      Option.pure_def]
  · omega

/-- The square of a distance between coordinates, or of a radius. -/
theorem mul_self_mem {d : Int} (h : -0x100000000 ≤ d) (h' : d ≤ 0x100000000) :
    0 ≤ d * d ∧ d * d ≤ 0x10000000000000000 := by
  have hle : d.natAbs ≤ (0x100000000 : Int).natAbs := by omega
  exact ⟨mul_self_nonneg d, Int.natAbs_le_iff_mul_self_le.1 hle⟩

/-- The distance of a coordinate from a center fits. -/
theorem within?_eq {cx cy u v : Int} (hcx : -0x80000000 ≤ cx ∧ cx ≤ 0x7FFFFFFF)
    (hcy : -0x80000000 ≤ cy ∧ cy ≤ 0x7FFFFFFF) (hu : 0 ≤ u ∧ u < 0x7FFFFFFF)
    (hv : 0 ≤ v ∧ v < 0x7FFFFFFF) (radius : Nat) :
    within? cx cy (radius * radius) u v = some (decide (InDisc cx cy radius u v)) := by
  have hacross := mul_self_mem (show -0x100000000 ≤ u - cx by omega) (by omega)
  have hdown := mul_self_mem (show -0x100000000 ≤ v - cy by omega) (by omega)
  have hdx : signed128? (u - cx) = some (u - cx) := signed128?_of_mem (by omega) (by omega)
  have hdy : signed128? (v - cy) = some (v - cy) := signed128?_of_mem (by omega) (by omega)
  rw [within?, hdx, hdy]
  simp only [Option.bind_eq_bind, Option.bind_some,
    signed128?_of_mem (show _ ≤ (u - cx) * (u - cx) by omega) (by omega),
    signed128?_of_mem (show _ ≤ (v - cy) * (v - cy) by omega) (by omega),
    signed128?_of_mem (show _ ≤ (u - cx) * (u - cx) + (v - cy) * (v - cy) by omega) (by omega),
    InDisc, pow_two, Option.pure_def]

namespace Surface

variable {s : Surface} {cx cy : Int} {radius : Nat}

theorem fillCircle_eq (s : Surface) (cx cy : Int) (radius : Nat) (p : Pixel) :
    s.fillCircle cx cy radius p = s.paint (s.around cx cy radius) fun px py old =>
      if InDisc cx cy radius px py then p else old := by
  simp only [fillCircle, InDisc, pow_two]

theorem painted_fillCircle (s : Surface) (cx cy : Int) (radius : Nat) (p : Pixel) :
    Painted s (s.fillCircle cx cy radius p) (InDisc cx cy radius) fun _ => p := by
  have hcols : (s.around cx cy radius).cols.hi ≤ s.width := Span.hi_between_le ..
  rw [fillCircle_eq]
  refine (s.painted_paint_where hcols _ _).congr fun px py hpx hpy => ?_
  refine ⟨And.right, fun hdisc => ⟨?_, hdisc⟩⟩
  have hreach := hdisc.inReach
  simp only [InReach, around, Span.mem_between, Int.toNat_natCast] at hreach ⊢
  omega

theorem painted_scanDisc (s : Surface) (cx cy : Int) (radius : Nat) (p : Pixel) :
    Painted s (s.scanDisc cx cy radius p) (InDisc cx cy radius) fun _ => p := by
  have hcols : (Box.mk ⟨0, s.width⟩ ⟨0, s.height⟩).cols.hi ≤ s.width := Nat.le_refl s.width
  have hpaint := s.painted_paint_where hcols (InDisc cx cy radius) fun _ => p
  refine hpaint.congr fun px py hpx hpy => ?_
  simp [Span.mem_def, hpx, hpy]

/-- The box that is searched holds the cells of the surface within reach, and no others. -/
theorem exists_around (hs : s.width ≤ 0x7FFFFFFF ∧ s.height ≤ 0x7FFFFFFF)
    (hcx : -0x80000000 ≤ cx ∧ cx ≤ 0x7FFFFFFF) (hcy : -0x80000000 ≤ cy ∧ cy ≤ 0x7FFFFFFF)
    {reach : Nat} (hreach : reach ≤ 0x100000000) :
    ∃ left right top bottom, s.around? cx cy reach = some ((left, right), top, bottom) ∧
      ∀ u v, (left ≤ u ∧ u < right) ∧ top ≤ v ∧ v < bottom ↔
        ((0 ≤ u ∧ u < s.width) ∧ 0 ≤ v ∧ v < s.height) ∧ InReach cx cy reach u v := by
  obtain ⟨left, right, hcols, hmemcols⟩ := exists_reach hcx hreach hs.1
  obtain ⟨top, bottom, hrows, hmemrows⟩ := exists_reach hcy hreach hs.2
  refine ⟨left, right, top, bottom, ?_, fun u v => ?_⟩
  · simp only [around?, hcols, hrows, Option.bind_eq_bind, Option.bind_some, Option.pure_def]
  · rw [hmemcols, hmemrows, and_and_and_comm, InReach]

/-- The search in machine numbers comes to its end and paints the disc. -/
theorem fillCircle?_eq (hs : s.width ≤ 0x7FFFFFFF ∧ s.height ≤ 0x7FFFFFFF)
    (hcx : -0x80000000 ≤ cx ∧ cx ≤ 0x7FFFFFFF) (hcy : -0x80000000 ≤ cy ∧ cy ≤ 0x7FFFFFFF)
    (hradius : radius ≤ 0xFFFFFFFF) (p : Pixel) :
    s.fillCircle? cx cy radius p = some (s.fillCircle cx cy radius p) := by
  obtain ⟨left, right, top, bottom, haround, hmem⟩ :=
    exists_around hs hcx hcy (show radius ≤ 0x100000000 by omega)
  have hsquare := mul_self_mem (show -0x100000000 ≤ (radius : Int) by omega) (by omega)
  have hcells {u v : Int} :
      (u, v) ∈ block left top (right - left).toNat (bottom - top).toNat ↔
        ((0 ≤ u ∧ u < s.width) ∧ 0 ≤ v ∧ v < s.height) ∧ InReach cx cy radius u v := by
    rw [mem_block, ← hmem]
    omega
  rw [fillCircle?, signed128?_of_mem (by omega) (by omega), haround]
  simp only [Option.bind_eq_bind, Option.bind_some]
  rw [foldlM_eq_some (g := fun s q => if InDisc cx cy radius q.1 q.2 then s.put q.1 q.2 p else s)]
  · refine congrArg some (Painted.unique ?_ (s.painted_fillCircle cx cy radius p))
    refine (s.painted_foldl_where (InDisc cx cy radius) (.inl (nodup_block ..))).congr ?_
    intro px py hpx hpy
    rw [hcells]
    exact ⟨And.right, fun hdisc => ⟨⟨by omega, hdisc.inReach⟩, hdisc⟩⟩
  · rintro ⟨u, v⟩ hq t
    have hcell := (hcells.1 hq).1
    simp only [within?_eq hcx hcy (show 0 ≤ u ∧ u < 0x7FFFFFFF by omega)
      (show 0 ≤ v ∧ v < 0x7FFFFFFF by omega), Option.bind_some, Option.pure_def,
      decide_eq_true_eq]

/-- Whatever its center and radius, a disc paints on a surface exactly the pixels no further from
the center than the radius, as a search of the whole surface does. The box that is searched instead,
for this radius or for one more, holds just the cells of the surface within reach, and no number on
the way is too large: no difference or product, and no edge of the box as a coordinate. -/
theorem disc_painted_exactly (hs : s.width ≤ 0x7FFFFFFF ∧ s.height ≤ 0x7FFFFFFF)
    (hcx : -0x80000000 ≤ cx ∧ cx ≤ 0x7FFFFFFF) (hcy : -0x80000000 ≤ cy ∧ cy ≤ 0x7FFFFFFF)
    (hradius : radius ≤ 0xFFFFFFFF) (p : Pixel) :
    s.fillCircle? cx cy radius p = some (s.fillCircle cx cy radius p) ∧
    Painted s (s.fillCircle cx cy radius p) (InDisc cx cy radius) (fun _ => p) ∧
    s.fillCircle cx cy radius p = s.scanDisc cx cy radius p ∧
    ∀ reach ≤ radius + 1, ∃ left right top bottom,
      s.around? cx cy reach = some ((left, right), top, bottom) ∧
      ∀ u v, (left ≤ u ∧ u < right) ∧ top ≤ v ∧ v < bottom ↔
        ((0 ≤ u ∧ u < s.width) ∧ 0 ≤ v ∧ v < s.height) ∧ InReach cx cy reach u v :=
  ⟨fillCircle?_eq hs hcx hcy hradius p, s.painted_fillCircle cx cy radius p,
    (s.painted_fillCircle cx cy radius p).unique (s.painted_scanDisc cx cy radius p),
    fun _ hreach => exists_around hs hcx hcy (by omega)⟩

/-- A disc around a pixel at the least coordinate there is, large enough to reach the second column
of a surface in one row only. -/
theorem disc_painted_exactly_grazing :
    let s : Surface := .filled 3 3 0xFF000000
    (s.width ≤ 0x7FFFFFFF ∧ s.height ≤ 0x7FFFFFFF) ∧
      s.fillCircle? (-0x80000000) 1 0x80000001 7 =
        some (s.fillCircle (-0x80000000) 1 0x80000001 7) ∧
      (s.fillCircle (-0x80000000) 1 0x80000001 7).get? 0 2 = some 7 ∧
      (s.fillCircle (-0x80000000) 1 0x80000001 7).get? 1 1 = some 7 ∧
      (s.fillCircle (-0x80000000) 1 0x80000001 7).get? 1 0 = some 0xFF000000 ∧
      (s.fillCircle (-0x80000000) 1 0x80000001 7).get? 2 1 = some 0xFF000000 := by
  intro s
  have hs : s.width ≤ 0x7FFFFFFF ∧ s.height ≤ 0x7FFFFFFF := by decide
  have hcx : -0x80000000 ≤ (-0x80000000 : Int) ∧ (-0x80000000 : Int) ≤ 0x7FFFFFFF := by decide
  have hcy : -0x80000000 ≤ (1 : Int) ∧ (1 : Int) ≤ 0x7FFFFFFF := by decide
  have hradius : 0x80000001 ≤ 0xFFFFFFFF := by decide
  obtain ⟨hmachine, hpaint, -, -⟩ := disc_painted_exactly hs hcx hcy hradius 7
  refine ⟨hs, hmachine, ?_, ?_, ?_, ?_⟩
  · exact (hpaint.inside 0 2 (by decide)).trans (by decide)
  · exact (hpaint.inside 1 1 (by decide)).trans (by decide)
  · exact (hpaint.outside 1 0 (by decide)).trans (by decide)
  · exact (hpaint.outside 2 1 (by decide)).trans (by decide)

end Surface

end TickDesktop
