import TickDesktop.Proofs.Areas
import TickDesktop.Proofs.Placing
import TickDesktop.Window.Splash

/-!
# Centering

The image of a splash lies in the middle of its surface. Along each axis it starts at half of the
space that it leaves, or, where it is too long, half of what is too much is cropped before it. Both
halves are rounded down, so an odd cell is left or cropped after the image. The image can be laid
over the surface in a walk over its own pixels with signed numbers of 32 bits, of which most may lie
off the surface, and comes out as it does when only the visible box is painted.
-/
namespace TickDesktop

/-- A length is in the middle of a space: the margin before it and the one after it differ by at
most one cell. A margin is negative where the length is cropped. -/
def Centered (start : Int) (space length : Nat) : Prop :=
  (start - (space - (start + length))).natAbs ≤ 1

namespace Splash

/-- A length that fits leaves the smaller half of the rest before it. -/
theorem margin_of_le {space length : Nat} (h : length ≤ space) :
    margin space length = ((space - length) / 2 : Nat) := by
  rw [margin, Int.tdiv_eq_ediv_of_nonneg (by omega)]
  omega

/-- A length that is too long loses the smaller half of the excess before it. -/
theorem margin_of_lt {space length : Nat} (h : space < length) :
    margin space length = -((length - space) / 2 : Nat) := by
  have hexcess : (space : Int) - length = -(length - space) := by omega
  rw [margin, hexcess, Int.neg_tdiv, Int.tdiv_eq_ediv_of_nonneg (by omega)]
  omega

theorem centered_margin (space length : Nat) : Centered (margin space length) space length := by
  rw [Centered]
  obtain hcropped | hfits := Nat.lt_or_ge space length
  · rw [margin_of_lt hcropped]
    omega
  · rw [margin_of_le hfits]
    omega

/-- The distance from the left or top edge, found in machine numbers. -/
def margin? (space length : Nat) : Option Int := do
  let rest ← signed32? ((← signed32? space) - (← signed32? length))
  return rest.tdiv 2

theorem margin?_eq {space length : Nat} (hspace : space ≤ 0x7FFFFFFF)
    (hlength : length ≤ 0x7FFFFFFF) : margin? space length = some (margin space length) := by
  rw [margin?, signed32?_of_mem (by omega) (by omega), signed32?_of_mem (by omega) (by omega)]
  simp only [Option.bind_eq_bind, Option.bind_some]
  rw [signed32?_of_mem (by omega) (by omega)]
  rfl

/-- Wherever an image starts, its cells have coordinates that fit. -/
theorem margin_mem {space length : Nat} (hspace : space ≤ 0x7FFFFFFF)
    (hlength : length ≤ 0x7FFFFFFF) :
    -0x80000000 ≤ margin space length ∧ margin space length + length ≤ 0x80000000 := by
  obtain hcropped | hfits := Nat.lt_or_ge space length
  · rw [margin_of_lt hcropped]
    omega
  · rw [margin_of_le hfits]
    omega

end Splash

namespace Surface

variable {s t r image : Surface} {x y : Int} {f : Pixel → Pixel}

/-- A surface with an image laid over it from `(x, y)` on, each pixel of the image taken through a
rule. -/
structure Overlaid (s t image : Surface) (x y : Int) (f : Pixel → Pixel) : Prop where
  extent : t.extent = s.extent
  pixel : ∀ px py : Nat, t.get? px py =
    (s.get? px py).map fun old => ((image.get? (px - x) (py - y)).map f).getD old

theorem Overlaid.unique (h : Overlaid s t image x y f) (h' : Overlaid s r image x y f) : t = r :=
  ext_get? (h.extent.trans h'.extent.symm) fun px py => (h.pixel px py).trans (h'.pixel px py).symm

/-- Painting the box that the image covers lays it over the surface. -/
theorem overlaid_paint (s image : Surface) (x y : Int) (f : Pixel → Pixel) :
    Overlaid s (s.paint (.clip x y image.width image.height s.width s.height)
      fun px py _ => f (image.facing x y px py)) image x y f := by
  refine ⟨rfl, fun px py => ?_⟩
  rw [get?_paint s _ (Span.hi_clip_le ..)]
  by_cases hin : px ∈ Span.clip x image.width s.width ∧ py ∈ Span.clip y image.height s.height
  · rw [get?_sub_eq_facing hin.1 hin.2]
    exact if_pos hin
  · refine (if_neg hin).trans ?_
    by_cases hon : px < s.width ∧ py < s.height
    · have hnone : image.get? (px - x) (py - y) = none := by
        rw [Span.mem_clip, Span.mem_clip] at hin
        exact (image.get?_eq_none_iff _ _).2 (by omega)
      rw [hnone]
      exact Option.map_id'.symm
    · rw [(s.get?_eq_none_iff px py).2 (by omega), Option.map_none]

/-- Laying an image over a surface in machine numbers: all pixels of the image are visited row by
row, and put where they come to lie. -/
def overlay? (s image : Surface) (x y : Int) (f : Pixel → Pixel) : Option Surface := do
  let cols ← signed32? image.width
  let rows ← signed32? image.height
  (block 0 0 cols.toNat rows.toNat).foldlM (fun s q => do
    match image.get? q.1 q.2 with
    | some p => return s.put (← signed32? (x + q.1)) (← signed32? (y + q.2)) (f p)
    | none => return s) s

/-- Putting all pixels of an image one after the other lays it over the surface. -/
theorem overlaid_foldl (s image : Surface) (x y : Int) (f : Pixel → Pixel) :
    Overlaid s ((block 0 0 image.width image.height).foldl (fun s q =>
      s.put (x + q.1) (y + q.2) (f ((image.get? q.1 q.2).getD 0))) s) image x y f := by
  refine ⟨extent_foldl_put .., fun px py => ?_⟩
  rw [get?_foldl_put s _ x y fun u v => f ((image.get? u v).getD 0)]
  have hmem : ((px : Int) - x, (py : Int) - y) ∈ block 0 0 image.width image.height ↔
      image.get? (px - x) (py - y) ≠ none := by
    rw [mem_block, Ne, get?_eq_none_iff]
    omega
  by_cases hnone : image.get? (px - x) (py - y) = none
  · rw [if_neg (mt hmem.1 (not_not_intro hnone)), hnone]
    exact Option.map_id'.symm
  · obtain ⟨p, hp⟩ := Option.ne_none_iff_exists'.1 hnone
    rw [if_pos (hmem.2 hnone), hp]
    rfl

/-- The walk over the pixels of an image comes to its end and paints the visible box. -/
theorem overlay?_eq (s : Surface) (hsides : image.width ≤ 0x7FFFFFFF ∧ image.height ≤ 0x7FFFFFFF)
    (hx : -0x80000000 ≤ x ∧ x + image.width ≤ 0x80000000)
    (hy : -0x80000000 ≤ y ∧ y + image.height ≤ 0x80000000) (f : Pixel → Pixel) :
    s.overlay? image x y f = some (s.paint (.clip x y image.width image.height s.width s.height)
      fun px py _ => f (image.facing x y px py)) := by
  rw [overlay?, signed32?_of_mem (by omega) (by omega), signed32?_of_mem (by omega) (by omega)]
  simp only [Option.bind_eq_bind, Option.bind_some, Int.toNat_natCast]
  rw [foldlM_eq_some (g := fun s q => s.put (x + q.1) (y + q.2) (f ((image.get? q.1 q.2).getD 0)))]
  · exact congrArg some ((s.overlaid_foldl image x y f).unique (s.overlaid_paint image x y f))
  · rintro ⟨u, v⟩ hq t
    rw [mem_block] at hq
    have hcell : image.get? u v ≠ none := by
      rw [Ne, get?_eq_none_iff]
      omega
    obtain ⟨p, hp⟩ := Option.ne_none_iff_exists'.1 hcell
    have hcol : signed32? (x + u) = some (x + u) := signed32?_of_mem (by omega) (by omega)
    have hrow : signed32? (y + v) = some (y + v) := signed32?_of_mem (by omega) (by omega)
    simp only [hp, hcol, hrow, Option.bind_some, Option.getD_some, Option.pure_def]

end Surface

namespace Splash

/-- Painting a splash in machine numbers. -/
def render? (st : Splash) (p : Pane) : Option Pane := do
  match st.image with
  | none => return p.paint (·.fill (st.fallback.withAlpha p.background.a).toPixel)
  | some image =>
    let surface := p.surface.fill p.background.toPixel
    let x ← margin? p.surface.width image.width
    let y ← margin? p.surface.height image.height
    let surface ← surface.overlay? image x y
      (·.withOpacity (fraction p.background.a.toUInt32))
    return { p with surface := surface }

variable {st : Splash} {image : Surface} {p : Pane}

theorem render_of_image (himage : st.image = some image) (p : Pane) :
    let blank := p.surface.fill p.background.toPixel
    let x := margin p.surface.width image.width
    let y := margin p.surface.height image.height
    st.render p = { p with
      surface := blank.paint (.clip x y image.width image.height blank.width blank.height)
        fun px py _ =>
          (image.facing x y px py).withOpacity (fraction p.background.a.toUInt32) } := by
  rw [render, himage]
  rfl

theorem render?_eq (hpane : p.surface.width ≤ 0x7FFFFFFF ∧ p.surface.height ≤ 0x7FFFFFFF)
    (hsides : ∀ image ∈ st.image, image.width ≤ 0x7FFFFFFF ∧ image.height ≤ 0x7FFFFFFF) :
    st.render? p = some (st.render p) := by
  cases himage : st.image with
  | none =>
    rw [render?, render, himage]
    rfl
  | some image =>
    obtain ⟨hwidth, hheight⟩ := hsides image himage
    rw [render?, himage, render_of_image himage]
    dsimp only
    rw [margin?_eq hpane.1 hwidth, margin?_eq hpane.2 hheight, Option.bind_eq_bind,
      Option.bind_some, Option.bind_some, Surface.overlay?_eq _ ⟨hwidth, hheight⟩
        (margin_mem hpane.1 hwidth) (margin_mem hpane.2 hheight)]
    rfl

/-- Whatever the sizes of a splash and of its image, and however far it has faded, the image comes
to lie in the middle: the margins on opposite sides differ by at most one. Each pixel of the surface
is the faded pixel of the image that lies there, or the background where there is none. Nothing else
of the pane changes, and all coordinates on the way fit, those of the pixels that are cropped
included. -/
theorem render_centers_image (himage : st.image = some image)
    (hpane : p.surface.width ≤ 0x7FFFFFFF ∧ p.surface.height ≤ 0x7FFFFFFF)
    (hsides : image.width ≤ 0x7FFFFFFF ∧ image.height ≤ 0x7FFFFFFF) :
    let ox := margin p.surface.width image.width
    let oy := margin p.surface.height image.height
    let opacity := fraction p.background.a.toUInt32
    Centered ox p.surface.width image.width ∧ Centered oy p.surface.height image.height ∧
    st.render? p = some (st.render p) ∧
    st.render p = { p with surface := (st.render p).surface } ∧
    (st.render p).surface.extent = p.surface.extent ∧
    ∀ px py : Nat, px < p.surface.width → py < p.surface.height →
      (st.render p).surface.get? px py =
        some (match image.get? (px - ox) (py - oy) with
          | some q => q.withOpacity opacity
          | none => p.background.toPixel) := by
  intro ox oy opacity
  have hfits : st.render? p = some (st.render p) := by
    refine render?_eq hpane fun other hother => ?_
    obtain rfl : image = other := Option.some.inj (himage.symm.trans hother)
    exact hsides
  have hlaid := (p.surface.fill p.background.toPixel).overlaid_paint image ox oy
    (·.withOpacity opacity)
  refine ⟨centered_margin _ _, centered_margin _ _, hfits, ?_⟩
  rw [render_of_image himage]
  refine ⟨rfl, hlaid.extent, fun px py hpx hpy => ?_⟩
  have hblank : (p.surface.fill p.background.toPixel).get? px py = some p.background.toPixel := by
    rw [Surface.fill, Surface.get?_filled, if_pos (by omega)]
  refine (hlaid.pixel px py).trans ?_
  rw [hblank, Option.map_some]
  cases image.get? (px - ox) (py - oy) <;> rfl

/-- An image that is too narrow by three columns and too high by three rows, on a splash of which a
fifth is left. -/
theorem render_centers_image_one_axis_cropped :
    let image : Surface := ⟨2, 5, Array.ofFn fun i : Fin 10 => 0xFF000000 + i.val.toUInt32, by simp⟩
    let st : Splash := ⟨1, some image, .black⟩
    let blank : Surface := .filled 5 2 0
    let p : Pane := { Pane.new "splash" {} 0 0 blank with background := ⟨0, 0, 9, 51⟩ }
    st.image = some image ∧ (p.surface.width ≤ 0x7FFFFFFF ∧ p.surface.height ≤ 0x7FFFFFFF) ∧
      (image.width ≤ 0x7FFFFFFF ∧ image.height ≤ 0x7FFFFFFF) ∧
      (st.render p).surface.get? 0 0 = some 0x33000009 ∧
      (st.render p).surface.get? 1 0 = some 0x33000002 ∧
      (st.render p).surface.get? 2 1 = some 0x33000005 ∧
      (st.render p).surface.get? 3 1 = some 0x33000009 := by
  intro image st blank p
  have himage : st.image = some image := rfl
  have hpane : p.surface.width ≤ 0x7FFFFFFF ∧ p.surface.height ≤ 0x7FFFFFFF := by decide
  have hsides : image.width ≤ 0x7FFFFFFF ∧ image.height ≤ 0x7FFFFFFF := by decide
  obtain ⟨-, -, -, -, -, hpixel⟩ := render_centers_image himage hpane hsides
  refine ⟨himage, hpane, hsides, ?_, ?_, ?_, ?_⟩
  · exact (hpixel 0 0 (by decide) (by decide)).trans (by decide +kernel)
  · exact (hpixel 1 0 (by decide) (by decide)).trans (by decide +kernel)
  · exact (hpixel 2 1 (by decide) (by decide)).trans (by decide +kernel)
  · exact (hpixel 3 1 (by decide) (by decide)).trans (by decide +kernel)

end Splash

end TickDesktop
