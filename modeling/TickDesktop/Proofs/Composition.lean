import TickDesktop.Compositor
import TickDesktop.Proofs.Stock

/-!
# The composed screen

A pass paints the screen pixel by pixel as follows: the pixel starts as that of the desktop, black
where the desktop does not reach, and every visible window whose rectangle covers it lays a pixel
of its fresh picture over it, in the order of the registry. What the framebuffer held before, and
how long its rows are, leaves no trace.
-/
namespace TickDesktop

/-- What a window puts on the screen: a picture, its place and its opacity. -/
structure Layer where
  picture : Surface
  x : Int
  y : Int
  opacity : Float32

namespace Layer

/-- The rectangle of the layer covers a cell of the screen. -/
def Covers (l : Layer) (px py : Nat) : Prop :=
  l.x ≤ px ∧ (px : Int) < l.x + l.picture.width ∧ l.y ≤ py ∧ (py : Int) < l.y + l.picture.height

instance (l : Layer) (px py : Nat) : Decidable (l.Covers px py) :=
  inferInstanceAs (Decidable (_ ∧ _))

/-- What the layer makes of the pixel below it in a cell. A clear pixel, or a layer without any
opacity, leaves it as it is. -/
def paintOver (l : Layer) (px py : Nat) (below : Pixel) : Pixel :=
  let p := (l.picture.get? (px - l.x) (py - l.y)).getD 0
  let opacity := limit 0 1 l.opacity
  if p.alpha = 0 ∨ opacity ≤ 0 then below else p.blend below (fraction p.alpha * opacity)

/-- The layer over what a framebuffer shows. -/
def onto (l : Layer) (fb : Framebuffer) : Framebuffer := fb.blend l.picture l.x l.y l.opacity

/-- The layers that cover a cell, each over the one before it, on top of a bottom pixel. -/
def stack (ls : List Layer) (px py : Nat) (bottom : Pixel) : Pixel :=
  (ls.filter (·.Covers px py)).foldl (fun below l => l.paintOver px py below) bottom

theorem stack_cons (l : Layer) (ls : List Layer) (px py : Nat) (bottom : Pixel) :
    stack (l :: ls) px py bottom =
      stack ls px py (if l.Covers px py then l.paintOver px py bottom else bottom) := by
  unfold stack
  by_cases hc : l.Covers px py <;> simp [hc]

/-- A layer changes the cells of the screen that it covers and no others. -/
theorem get?_onto (l : Layer) (fb : Framebuffer) (px py : Nat) :
    (l.onto fb).get? px py = (fb.get? px py).map fun below =>
      if l.Covers px py then l.paintOver px py below else below := by
  rw [onto, Framebuffer.get?_blend]
  by_cases hv : px < fb.width ∧ py < fb.height
  · by_cases hc : l.Covers px py
    · obtain ⟨hx0, hx1, hy0, hy1⟩ := id hc
      have hx : px ∈ Span.clip l.x l.picture.width fb.width := Span.mem_clip.2 ⟨hx0, hx1, hv.1⟩
      have hy : py ∈ Span.clip l.y l.picture.height fb.height := Span.mem_clip.2 ⟨hy0, hy1, hv.2⟩
      have hp := Surface.get?_sub_eq_facing hx hy
      by_cases ho : limit 0 1 l.opacity ≤ 0
      · simp [hc, ho, paintOver]
      · simp [hc, ho, hx, hy, paintOver, hp, Pixel.layer]
    · have hout : ¬ (px ∈ Span.clip l.x l.picture.width fb.width ∧
          py ∈ Span.clip l.y l.picture.height fb.height) := by
        rintro ⟨hx, hy⟩
        rw [Span.mem_clip] at hx hy
        exact hc ⟨hx.1, hx.2.1, hy.1, hy.2.1⟩
      rw [if_neg fun h => hout h.2]
      simp [hc]
  · simp [Framebuffer.get?, hv]

theorem get?_foldl_onto (ls : List Layer) (fb : Framebuffer) (px py : Nat) :
    (ls.foldl (fun fb l => l.onto fb) fb).get? px py = (fb.get? px py).map (stack ls px py) := by
  induction ls generalizing fb with
  | nil =>
    rw [List.foldl_nil]
    cases fb.get? px py <;> rfl
  | cons l ls ih =>
    rw [List.foldl_cons, ih, get?_onto, Option.map_map]
    congr 1
    funext below
    exact (stack_cons l ls px py below).symm

end Layer

theorem Surface.get?_eq_none_iff (s : Surface) (x y : Int) :
    s.get? x y = none ↔ ¬ (0 ≤ x ∧ 0 ≤ y ∧ x < s.width ∧ y < s.height) := by
  cases hi : s.index? x y with
  | none =>
    have hout : ¬ (0 ≤ x ∧ 0 ≤ y ∧ x < s.width ∧ y < s.height) := by
      intro hin
      rw [index?, if_pos hin] at hi
      cases hi
    exact iff_of_true (by rw [get?, hi, Option.bind_none]) hout
  | some i =>
    have hlt := index?_lt hi
    obtain ⟨hx, hy, hxw, hyh, -⟩ := index?_eq_some_iff.1 hi
    exact iff_of_false (by simp [get?, hi, hlt]) (fun hout => hout ⟨hx, hy, hxw, hyh⟩)

namespace Framebuffer

/-- Two framebuffers lie in memory in the same way. -/
structure SameLayout (fb other : Framebuffer) : Prop where
  width : other.width = fb.width
  height : other.height = fb.height
  stride : other.stride = fb.stride

theorem SameLayout.refl (fb : Framebuffer) : SameLayout fb fb := ⟨rfl, rfl, rfl⟩

theorem SameLayout.trans {fb other third : Framebuffer} (h : SameLayout fb other)
    (h' : SameLayout other third) : SameLayout fb third :=
  ⟨h'.width.trans h.width, h'.height.trans h.height, h'.stride.trans h.stride⟩

/-- The cells of the memory that are no visible pixel. -/
def IsPadding (fb : Framebuffer) (i : Nat) : Prop :=
  ∀ x y, x < fb.width → y < fb.height → i ≠ y * fb.stride + x

theorem SameLayout.isPadding {fb other : Framebuffer} (h : SameLayout fb other) {i : Nat}
    (hi : fb.IsPadding i) : other.IsPadding i := by
  intro x y hx hy
  rw [h.stride]
  exact hi x y (h.width ▸ hx) (h.height ▸ hy)

/-- A rule run over a clipped box leaves the padding alone. -/
theorem getElem?_paintBox_of_isPadding (fb : Framebuffer) (x y : Int) (width height : Nat)
    (f : Nat → Nat → Pixel → Pixel) {i : Nat} (hi : fb.IsPadding i) :
    (paintBox fb.pixels fb.stride (.clip x y width height fb.width fb.height) f)[i]? =
      fb.pixels[i]? := by
  by_cases hstride : fb.stride = 0
  · have hwidth := fb.width_le_stride
    have hempty : ¬ (Box.clip x y width height fb.width fb.height).cols.lo <
        (Box.clip x y width height fb.width fb.height).cols.hi := by
      simp only [Box.clip, Span.clip, Span.between]
      omega
    rw [paintBox, if_neg hempty]
  · have hmod : i % fb.stride < fb.stride := Nat.mod_lt _ (by omega)
    have hpaint := @getElem?_paintBox_clip fb x y width height f _ (i / fb.stride) hmod
    rw [Nat.div_add_mod'] at hpaint
    rw [hpaint, if_neg]
    rintro ⟨hx, hy⟩
    rw [Span.mem_clip] at hx hy
    exact hi _ _ hx.2.2 hy.2.2 (Nat.div_add_mod' i fb.stride).symm

theorem getElem?_copy_of_isPadding (fb : Framebuffer) (s : Surface) (x y : Int) {i : Nat}
    (hi : fb.IsPadding i) : (fb.copy s x y).pixels[i]? = fb.pixels[i]? :=
  fb.getElem?_paintBox_of_isPadding x y s.width s.height _ hi

theorem getElem?_blend_of_isPadding (fb : Framebuffer) (s : Surface) (x y : Int)
    (opacity : Float32) {i : Nat} (hi : fb.IsPadding i) :
    (fb.blend s x y opacity).pixels[i]? = fb.pixels[i]? := by
  unfold blend Surface.blendOnto
  dsimp only
  split
  · rfl
  · exact fb.getElem?_paintBox_of_isPadding x y s.width s.height _ hi

theorem get?_eq_none_iff (fb : Framebuffer) (px py : Nat) :
    fb.get? px py = none ↔ ¬ (px < fb.width ∧ py < fb.height) := by
  unfold get?
  by_cases hv : px < fb.width ∧ py < fb.height
  · have hfit := fb.fits
    have hstride := fb.width_le_stride
    have hrow := Nat.mul_le_mul_right fb.stride (show py + 1 ≤ fb.height by omega)
    rw [Nat.add_mul, Nat.mul_comm fb.height] at hrow
    have hlt : py * fb.stride + px < fb.pixels.size := by omega
    simp [hv, hlt]
  · simp [hv]

/-- Outside of the visible area there is nothing to tell apart two framebuffers of one layout. -/
theorem SameLayout.get?_congr {fb other : Framebuffer} (h : SameLayout fb other)
    (hvisible : ∀ px py, px < fb.width → py < fb.height → other.get? px py = fb.get? px py)
    (px py : Nat) : other.get? px py = fb.get? px py := by
  by_cases hv : px < fb.width ∧ py < fb.height
  · exact hvisible px py hv.1 hv.2
  · have hv' : ¬ (px < other.width ∧ py < other.height) := by rwa [h.width, h.height]
    rw [(fb.get?_eq_none_iff px py).2 hv, (other.get?_eq_none_iff px py).2 hv']

end Framebuffer

/-- The pixel of the desktop in a cell of the screen, black where the desktop does not reach. -/
def desktopPixel (backing : Surface) (px py : Nat) : Pixel := (backing.get? px py).getD .black

namespace Layer

theorem sameLayout_foldl_onto (ls : List Layer) (fb : Framebuffer) :
    fb.SameLayout (ls.foldl (fun fb l => l.onto fb) fb) := by
  induction ls generalizing fb with
  | nil => exact .refl fb
  | cons l ls ih =>
    have hlayout : fb.SameLayout (l.onto fb) := ⟨rfl, rfl, rfl⟩
    exact hlayout.trans (ih (l.onto fb))

theorem getElem?_foldl_onto_of_isPadding (ls : List Layer) (fb : Framebuffer) {i : Nat}
    (hi : fb.IsPadding i) :
    (ls.foldl (fun fb l => l.onto fb) fb).pixels[i]? = fb.pixels[i]? := by
  induction ls generalizing fb with
  | nil => rfl
  | cons l ls ih =>
    have hlayout : fb.SameLayout (l.onto fb) := ⟨rfl, rfl, rfl⟩
    rw [List.foldl_cons, ih (l.onto fb) (hlayout.isPadding hi)]
    exact fb.getElem?_blend_of_isPadding l.picture l.x l.y l.opacity hi

end Layer

namespace Window

variable {α : Type} [WindowClient α]

/-- What the window puts on the screen when it is rendered now. -/
def layer (w : Window α) : Layer := ⟨w.rendered.pane.surface, w.pane.x, w.pane.y, w.pane.opacity⟩

/-- The window after a pass: rendered if it is visible. -/
def refreshed (w : Window α) : Window α := if w.isVisible then w.rendered else w

@[simp] theorem id_refreshed (w : Window α) : w.refreshed.id = w.id := by
  unfold refreshed
  split <;> rfl

theorem PaintsOnly.blendOnto {w : Window α} (h : w.PaintsOnly) (fb : Framebuffer) :
    w.rendered.blendOnto fb = w.layer.onto fb := by
  unfold Window.blendOnto Layer.onto layer
  rw [h]

end Window

/-- The pixel of the composed screen in a cell. -/
def screenPixel {α : Type} [WindowClient α] (backing : Surface) (ws : List (Window α))
    (px py : Nat) : Pixel :=
  Layer.stack ((ws.filter (·.isVisible)).map Window.layer) px py (desktopPixel backing px py)

namespace Compositor

/-- Copying a desktop to the corner of a framebuffer replaces the visible pixels that it reaches. -/
theorem get?_copy_corner (backing : Surface) (fb : Framebuffer) {px py : Nat}
    (hx : px < fb.width) (hy : py < fb.height) :
    (fb.copy backing 0 0).get? px py = (backing.get? px py).or (fb.get? px py) := by
  have hvisible : fb.get? px py ≠ none := fun h => (fb.get?_eq_none_iff px py).1 h ⟨hx, hy⟩
  obtain ⟨old, hold⟩ := Option.ne_none_iff_exists'.1 hvisible
  rw [Framebuffer.get?_copy, hold]
  by_cases hin : px < backing.width ∧ py < backing.height
  · have hcx : px ∈ Span.clip 0 backing.width fb.width := Span.mem_clip.2 (by omega)
    have hcy : py ∈ Span.clip 0 backing.height fb.height := Span.mem_clip.2 (by omega)
    have hp := Surface.get?_sub_eq_facing hcx hcy
    rw [Int.sub_zero, Int.sub_zero] at hp
    rw [if_pos ⟨hcx, hcy⟩, hp]
    rfl
  · have hout : backing.get? px py = none := (backing.get?_eq_none_iff px py).2 (by omega)
    rw [if_neg, hout]
    · rfl
    · rw [Span.mem_clip, Span.mem_clip]
      omega

theorem sameLayout_clear (backing : Surface) (fb : Framebuffer) :
    fb.SameLayout (clear backing fb) := by
  unfold clear
  dsimp only
  split <;> exact ⟨rfl, rfl, rfl⟩

/-- Clearing leaves the padding alone unless the desktop is too small for the screen. -/
theorem getElem?_clear_of_isPadding {backing : Surface} {fb : Framebuffer}
    (hw : fb.width ≤ backing.width) (hh : fb.height ≤ backing.height) {i : Nat}
    (hi : fb.IsPadding i) : (clear backing fb).pixels[i]? = fb.pixels[i]? := by
  have hlarge : ¬ (backing.width < fb.width ∨ backing.height < fb.height) := by omega
  unfold clear
  rw [if_neg hlarge]
  exact fb.getElem?_copy_of_isPadding backing 0 0 hi

/-- After clearing, every visible pixel is that of the desktop. -/
theorem get?_clear (backing : Surface) (fb : Framebuffer) {px py : Nat} (hx : px < fb.width)
    (hy : py < fb.height) : (clear backing fb).get? px py = some (desktopPixel backing px py) := by
  have hvisible : fb.get? px py ≠ none := fun h => (fb.get?_eq_none_iff px py).1 h ⟨hx, hy⟩
  obtain ⟨old, hold⟩ := Option.ne_none_iff_exists'.1 hvisible
  unfold clear
  by_cases hsmall : backing.width < fb.width ∨ backing.height < fb.height
  · have hblack : (fb.fill .black).get? px py = some .black := by
      rw [Framebuffer.get?_fill, hold]
      rfl
    rw [if_pos hsmall, get?_copy_corner backing (fb.fill .black) hx hy, hblack]
    cases hb : backing.get? px py <;> simp [desktopPixel, hb]
  · have hreach : backing.get? px py ≠ none := by
      rw [ne_eq, Surface.get?_eq_none_iff]
      omega
    obtain ⟨p, hp⟩ := Option.ne_none_iff_exists'.1 hreach
    rw [if_neg hsmall, get?_copy_corner backing fb hx hy, hp]
    simp [desktopPixel, hp]

variable {α : Type} [WindowClient α]

/-- A pass keeps the windows, whatever they paint. -/
theorem windows_renderOnto (ws : List (Window α)) (fb : Framebuffer) :
    (renderOnto fb ws).value.2 = ws.map Window.refreshed := by
  induction ws generalizing fb with
  | nil => rfl
  | cons w ws ih =>
    rw [renderOnto]
    by_cases hv : w.isVisible
    · rw [if_pos hv, List.map_cons, Window.refreshed, if_pos hv]
      exact congrArg (w.rendered :: ·) (ih (w.rendered.blendOnto fb))
    · rw [if_neg hv, List.map_cons, Window.refreshed, if_neg hv]
      exact congrArg (w :: ·) (ih fb)

/-- Rendering each window right before it is blended comes to blending the rendered windows. -/
theorem blended_renderOnto (ws : List (Window α)) (fb : Framebuffer) :
    (renderOnto fb ws).value.1 = ((ws.filter (·.isVisible)).map Window.rendered).foldl
      (fun fb w => w.blendOnto fb) fb := by
  induction ws generalizing fb with
  | nil => rfl
  | cons w ws ih =>
    rw [renderOnto]
    by_cases hv : w.isVisible
    · -- the rest is blended over what this window leaves, so the induction is over all framebuffers
      rw [if_pos hv, List.filter_cons_of_pos hv, List.map_cons, List.foldl_cons]
      exact ih (w.rendered.blendOnto fb)
    · rw [if_neg hv, List.filter_cons_of_neg hv]
      exact ih fb

/-- Windows that paint only put their layers on the screen in order. -/
theorem picture_renderOnto {ws : List (Window α)} (hw : ∀ w ∈ ws, w.isVisible → w.PaintsOnly)
    (fb : Framebuffer) : (renderOnto fb ws).value.1 =
      ((ws.filter (·.isVisible)).map Window.layer).foldl (fun fb l => l.onto fb) fb := by
  rw [blended_renderOnto, List.foldl_map, List.foldl_map]
  refine List.foldl_rel rfl fun w hmem fb _ hfb => ?_
  obtain ⟨hws, hv⟩ := List.mem_filter.1 hmem
  exact hfb ▸ (hw w hws hv).blendOnto fb

/-- The framebuffer after a pass over windows that paint only. -/
theorem get?_renderOnto {ws : List (Window α)} (hw : ∀ w ∈ ws, w.isVisible → w.PaintsOnly)
    (backing : Surface) (fb : Framebuffer) {px py : Nat} (hx : px < fb.width)
    (hy : py < fb.height) :
    (renderOnto (clear backing fb) ws).value.1.get? px py =
      some (screenPixel backing ws px py) := by
  rw [picture_renderOnto hw, Layer.get?_foldl_onto, get?_clear backing fb hx hy]
  rfl

theorem sameLayout_renderOnto {ws : List (Window α)}
    (hw : ∀ w ∈ ws, w.isVisible → w.PaintsOnly) (backing : Surface) (fb : Framebuffer) :
    fb.SameLayout (renderOnto (clear backing fb) ws).value.1 := by
  rw [picture_renderOnto hw]
  exact (sameLayout_clear backing fb).trans (Layer.sameLayout_foldl_onto _ _)

/-- A pass leaves the padding alone unless the desktop is too small for the screen. -/
theorem getElem?_renderOnto_of_isPadding {ws : List (Window α)}
    (hw : ∀ w ∈ ws, w.isVisible → w.PaintsOnly) {backing : Surface} {fb : Framebuffer}
    (hwidth : fb.width ≤ backing.width) (hheight : fb.height ≤ backing.height) {i : Nat}
    (hi : fb.IsPadding i) :
    (renderOnto (clear backing fb) ws).value.1.pixels[i]? = fb.pixels[i]? := by
  have hclear := (sameLayout_clear backing fb).isPadding hi
  rw [picture_renderOnto hw, Layer.getElem?_foldl_onto_of_isPadding _ _ hclear]
  exact getElem?_clear_of_isPadding hwidth hheight hi

/-- What composing a changed screen amounts to when there is a framebuffer. -/
theorem compose_of_dirty {c : Compositor} {fb : Framebuffer} (hfb : c.framebuffer = some fb)
    (hd : c.dirty = true) (ws : List (Window α)) :
    (c.compose ws).value =
      (true, { c with framebuffer := none }.finish (renderOnto (clear c.backing fb) ws).value.1
        (ws.countP Window.isVisible), (renderOnto (clear c.backing fb) ws).value.2) := by
  obtain ⟨backing, framebuffer, dirty, warned, stats⟩ := c
  cases hfb
  cases hd
  rfl

theorem compose_of_clean {c : Compositor} (hd : c.dirty = false) (ws : List (Window α)) :
    (c.compose ws).value =
      (false, { c with stats := { c.stats with skipped := c.stats.skipped + 1 } }, ws) := by
  obtain ⟨backing, framebuffer, dirty, warned, stats⟩ := c
  cases hd
  rfl

/-- Composing either leaves the windows alone or takes all of them through a pass. -/
theorem windows_compose (c : Compositor) (ws : List (Window α)) :
    (c.compose ws).value.2.2 = ws ∨ (c.compose ws).value.2.2 = ws.map Window.refreshed := by
  cases hdirty : c.dirty with
  | false => exact .inl (by rw [compose_of_clean hdirty])
  | true =>
    cases hfb : c.framebuffer with
    | none =>
      obtain ⟨backing, framebuffer, dirty, warned, stats⟩ := c
      cases hfb
      cases hdirty
      exact .inl rfl
    | some fb => exact .inr (by rw [compose_of_dirty hfb hdirty, windows_renderOnto])

theorem ids_compose (c : Compositor) (ws : List (Window α)) :
    (c.compose ws).value.2.2.map (·.id) = ws.map (·.id) := by
  rcases c.windows_compose ws with hsame | hpass
  · rw [hsame]
  · rw [hpass, List.map_map]
    exact List.map_congr_left fun w _ => w.id_refreshed

/-- A pass over a changed screen composes it pixel by pixel. The result is the same on every
framebuffer of the same size, and the padding is written only to blacken a screen that is larger
than the desktop. All this for windows whose rendering changes nothing of the pane but its surface,
as stock windows do. -/
theorem compose_meets_pixel_definition (c : Compositor) (fb : Framebuffer)
    (hfb : c.framebuffer = some fb) (hd : c.dirty = true) (ws : List (Window α))
    (hw : ∀ w ∈ ws, w.isVisible → w.PaintsOnly) :
    ∃ shown : Framebuffer, (c.compose ws).value.1 = true ∧
      (c.compose ws).value.2.1.framebuffer = some shown ∧ fb.SameLayout shown ∧
      (∀ px py, px < fb.width → py < fb.height →
        shown.get? px py = some (screenPixel c.backing ws px py)) ∧
      (∀ other : Framebuffer, other.width = fb.width → other.height = fb.height →
        ∃ shown', ({ c with framebuffer := some other }.compose ws).value.2.1.framebuffer =
          some shown' ∧ ∀ px py, shown'.get? px py = shown.get? px py) ∧
      (fb.width ≤ c.backing.width → fb.height ≤ c.backing.height →
        ∀ i, fb.IsPadding i → shown.pixels[i]? = fb.pixels[i]?) ∧
      (∀ w : Window α, w.IsStock → w.PaintsOnly) := by
  have hcompose := compose_of_dirty hfb hd ws
  refine ⟨(renderOnto (clear c.backing fb) ws).value.1, ?_, ?_, sameLayout_renderOnto hw _ _, ?_,
    ?_, ?_, fun w h => h.paintsOnly⟩
  · rw [hcompose]
  · rw [hcompose]
    rfl
  · exact fun px py hx hy => get?_renderOnto hw c.backing fb hx hy
  · intro other hwidth hheight
    have hother := compose_of_dirty (c := { c with framebuffer := some other }) rfl hd ws
    refine ⟨(renderOnto (clear c.backing other) ws).value.1, by rw [hother]; rfl, ?_⟩
    intro px py
    have hlayout := sameLayout_renderOnto hw c.backing fb
    have hlayout' := sameLayout_renderOnto hw c.backing other
    by_cases hv : px < fb.width ∧ py < fb.height
    · rw [get?_renderOnto hw c.backing fb hv.1 hv.2,
        get?_renderOnto hw c.backing other (hwidth ▸ hv.1) (hheight ▸ hv.2)]
    · rw [((Framebuffer.get?_eq_none_iff _ px py).2 : _ → _ = none),
        ((Framebuffer.get?_eq_none_iff _ px py).2 : _ → _ = none)]
      · rwa [hlayout.width, hlayout.height]
      · rwa [hlayout'.width, hlayout'.height, hwidth, hheight]
  · exact fun hwidth hheight i hi => getElem?_renderOnto_of_isPadding hw hwidth hheight hi

/-- Half a white window that hangs over the left edge of a screen larger than its desktop. -/
theorem compose_hanging_window :
    let fb : Framebuffer := ⟨2, 1, 3, #[1, 2, 3], by decide, by decide⟩
    let pane := { Pane.new "w" { visible := true } (-1) 0 (.filled 2 1 0) with
      background := .white, opacity := 0.5 }
    let ws : List (Window Empty) := [⟨⟨1⟩, .generic, pane, .fill⟩]
    let c : Compositor := { backing := .filled 1 1 0xFF102030, framebuffer := some fb }
    (∀ w ∈ ws, w.isVisible → w.PaintsOnly) ∧
      ∃ shown, (c.compose ws).value.2.1.framebuffer = some shown ∧
        shown.get? 0 0 = some 0xFF878F97 ∧ shown.get? 1 0 = some .black := by
  intro fb pane ws c
  have hw : ∀ w ∈ ws, w.isVisible → w.PaintsOnly := by
    intro w hmem _
    rw [List.mem_singleton.1 hmem]
    rfl
  obtain ⟨shown, -, hshown, -, hpixel, -⟩ := compose_meets_pixel_definition c fb rfl rfl ws hw
  have hleft : screenPixel c.backing ws 0 0 = 0xFF878F97 := by decide +kernel
  have hright : screenPixel c.backing ws 1 0 = .black := by decide +kernel
  refine ⟨hw, shown, hshown, ?_, ?_⟩
  · rw [hpixel 0 0 (by decide) (by decide), hleft]
  · rw [hpixel 1 0 (by decide) (by decide), hright]

end Compositor

end TickDesktop
