import TickDesktop.Proofs.Composition

/-!
# Pictures carry nothing over

A stock window paints its picture from its own state and the extent of its surface. Two windows that
differ in the old pixels of their surfaces only become equal when they are rendered, rendering twice
comes to rendering once, and a rendering changes nothing of the pane but its surface. None of this
depends on how borders are drawn: any drawing will do that writes a sequence of points found from
the rectangle and its color alone.
-/
namespace TickDesktop

namespace Surface

/-- Cells put one after the other at a distance, each with a pixel of its own. -/
theorem get?_foldl_put (s : Surface) (cells : List (Int × Int)) (x y : Int)
    (p : Int → Int → Pixel) (u v : Int) :
    (cells.foldl (fun s q => s.put (x + q.1) (y + q.2) (p q.1 q.2)) s).get? u v =
      if (u - x, v - y) ∈ cells then (s.get? u v).map fun _ => p (u - x) (v - y)
      else s.get? u v := by
  induction cells generalizing s with
  | nil => rfl
  | cons cell cells ih =>
    rw [List.foldl_cons, ih, get?_put]
    by_cases hcell : (u - x, v - y) = cell
    · subst hcell
      have hback : u = x + (u - x) ∧ v = y + (v - y) := by omega
      rw [if_pos hback, if_pos List.mem_cons_self]
      cases s.get? u v <;> simp
    · have hne : ¬ (u = x + cell.1 ∧ v = y + cell.2) := fun h =>
        hcell (Prod.ext (Int.sub_eq_iff_eq_add'.2 h.1) (Int.sub_eq_iff_eq_add'.2 h.2))
      simp only [if_neg hne, List.mem_cons, hcell, false_or]

/-- Points of one color set the cells that are among them. -/
theorem get?_putAll (s : Surface) (cells : List (Int × Int)) (color : Color) (u v : Int) :
    (s.putAll (cells.map (·, color))).get? u v =
      if (u, v) ∈ cells then (s.get? u v).map fun _ => (color.withAlpha 255).toPixel
      else s.get? u v := by
  simpa only [putAll, List.foldl_map, Int.zero_add, Int.sub_zero] using
    s.get?_foldl_put cells 0 0 (fun _ _ => (color.withAlpha 255).toPixel) u v

theorem get?_fillRect (s : Surface) (x y : Int) (width height : Nat) (p : Pixel) (px py : Nat) :
    (s.fillRect x y width height p).get? px py =
      if (x ≤ px ∧ (px : Int) < x + width) ∧ y ≤ py ∧ (py : Int) < y + height
      then (s.get? px py).map fun _ => p else s.get? px py := by
  rw [fillRect, get?_paint s _ (Span.hi_clip_le ..)]
  simp only [Box.clip, Span.mem_clip]
  by_cases hin : px < s.width ∧ py < s.height
  · simp only [hin, and_true]
  · have hnone : s.get? px py = none := (s.get?_eq_none_iff px py).2 (by omega)
    simp only [hnone, Option.map_none, ite_self]

/-- Two surfaces of one extent with the same pixels are equal. -/
theorem ext_get? {s t : Surface} (hextent : s.extent = t.extent)
    (h : ∀ px py : Nat, s.get? px py = t.get? px py) : s = t := by
  obtain ⟨width, height, pixels, hsize⟩ := s
  obtain ⟨width', height', pixels', hsize'⟩ := t
  obtain ⟨rfl, rfl⟩ : width = width' ∧ height = height' := Prod.mk.inj hextent
  have hpixels : pixels = pixels' := by
    refine Array.ext_getElem? fun i => ?_
    by_cases hi : i < width * height
    · have hwidth : 0 < width := Nat.pos_of_mul_pos_right (Nat.zero_lt_of_lt hi)
      have hcol : i % width < width := Nat.mod_lt i hwidth
      have hrow : i / width < height := Nat.div_lt_of_lt_mul hi
      have hcell : i / width * width + i % width = i := Nat.div_add_mod' i width
      have hin : 0 ≤ ((i % width : Nat) : Int) ∧ 0 ≤ ((i / width : Nat) : Int) ∧
          ((i % width : Nat) : Int) < width ∧ ((i / width : Nat) : Int) < height :=
        ⟨Int.natCast_nonneg _, Int.natCast_nonneg _, Int.ofNat_lt.2 hcol, Int.ofNat_lt.2 hrow⟩
      have hget := h (i % width) (i / width)
      simpa only [get?, index?, if_pos hin, Int.toNat_natCast, hcell, Option.bind_some] using hget
    · rw [Array.getElem?_eq_none (by omega), Array.getElem?_eq_none (by omega)]
  subst hpixels
  rfl

/-- Filling a rectangle with an opaque color puts its cells one after the other. -/
theorem fillRect_eq_putAll (s : Surface) (x y : Int) (width height : Nat) (color : Color) :
    s.fillRect x y width height (color.withAlpha 255).toPixel =
      s.putAll ((block x y width height).map (·, color)) := by
  refine ext_get? (by simp) fun px py => ?_
  simp only [get?_fillRect, get?_putAll, mem_block]

/-- Putting one color into every cell fills the surface. -/
theorem clear_eq_fill (s : Surface) (color : Color) :
    s.clear color = s.fill (color.withAlpha 255).toPixel := by
  rw [clear, ← fillRect_eq_putAll]
  refine ext_get? (by simp) fun px py => ?_
  rw [get?_fillRect, fill, get?_filled]
  by_cases hin : px < s.width ∧ py < s.height
  · obtain ⟨p, hp⟩ := Option.ne_none_iff_exists'.1 fun hnone =>
      absurd ((s.get?_eq_none_iff px py).1 hnone) (by omega)
    rw [if_pos (by omega), if_pos (by omega), hp, Option.map_some]
  · rw [if_neg (by omega), if_neg (by omega), (s.get?_eq_none_iff px py).2 (by omega)]

/-- The border of a rectangle in the corner is drawn by putting the cells of its sides. -/
theorem drawRect_eq_putAll (s : Surface) (width height : Nat) (color : Color) :
    s.drawRect 0 0 width height (color.withAlpha 255).toPixel =
      s.putAll (sides width height color) := by
  unfold drawRect sides
  by_cases hempty : width = 0 ∨ height = 0
  · rw [if_pos hempty, if_pos hempty]
    rfl
  · rw [if_neg hempty, if_neg hempty]
    simp only [putAll_append, fillRect_eq_putAll]

end Surface

namespace Window

variable {α : Type} [WindowClient α]

/-- However borders are drawn, a stock window that is rendered keeps nothing of what its surface
showed before. So a second rendering changes nothing, and the first one changes nothing of the pane
but the pixels of its surface. -/
theorem picture_from_extent {w : Window α} (h : w.IsStock) :
    (∀ s t : Surface, s.extent = t.extent →
      { w with pane.surface := s }.rendered = { w with pane.surface := t }.rendered) ∧
    w.rendered.rendered = w.rendered ∧
    ∃ (s : Surface) (b : Behavior α), s.extent = w.pane.surface.extent ∧
      w.rendered = { w with pane.surface := s, behavior := b } := by
  refine ⟨fun s t hst => ?_, h.rendered_rendered, ?_⟩
  · have hcongr := Behavior.render_congr h w.id { w.pane with surface := t } hst
    simp only [rendered_eq, hcongr]
  · obtain ⟨s, hs, hp⟩ := Behavior.render_frame h w.id w.pane
    exact ⟨s, (w.behavior.render w.id w.pane).1, hs, by rw [rendered_eq, hp]⟩

/-- A clock over a blank surface and over a white one, where borders have two corners only. -/
theorem picture_from_extent_clock :
    let corners : WindowClient Empty :=
      { outline := fun width height color =>
          [((0, 0), color), (((width : Int) - 1, (height : Int) - 1), color)]
        update := nofun, render := nofun, typed := nofun }
    let pane := Pane.new "clock" { visible := true } 0 0 (.filled 6 5 0)
    let w : Window Empty := ⟨⟨1⟩, .clockOverlay, pane, .clock (.new 60 .white .steelBlue)⟩
    w.IsStock ∧ @rendered Empty corners w =
      @rendered Empty corners { w with pane.surface := .filled 6 5 0xFFFFFFFF } := by
  intro corners pane w
  have hstock : w.IsStock := rfl
  exact ⟨hstock, (picture_from_extent hstock).1 (.filled 6 5 0) (.filled 6 5 0xFFFFFFFF) rfl⟩

end Window

end TickDesktop
