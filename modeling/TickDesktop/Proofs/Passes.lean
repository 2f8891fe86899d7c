import TickDesktop.Proofs.Frames
import TickDesktop.Proofs.Freshness

/-!
# Passes on demand

Asked to present windows, a compositor makes a pass over them whenever there is a framebuffer. Asked
to compose, it makes one only if the screen has changed as well. A request that makes no pass
touches neither pixels nor windows and leaves the flag of the screen as it was, so that a change
that was reported while there was no framebuffer waits for the first pass that can show it. The
counters tell how many requests came to what.

The two kinds of passes agree: over stock windows, rendering all of them before the first one is
blended comes to rendering each right before it is blended.
-/
namespace TickDesktop

variable {α : Type}

/-- What a pane puts on the screen as it is. -/
def Pane.layer (p : Pane) : Layer := ⟨p.surface, p.x, p.y, p.opacity⟩

/-- The call that renders the window. -/
def Window.rendering (w : Window α) : Call α := .window w.id w.behavior.client? .render

theorem Window.flatMap_rendering (ws : List (Window α)) :
    (ws.flatMap fun w => if w.isVisible then [w.callEntry .render] else []) =
      ((ws.filter (·.isVisible)).map Window.rendering).map .call := by
  rw [List.map_map]
  exact flatMap_ite_singleton (·.isVisible) (fun w => w.callEntry .render) ws

namespace Compositor

/-- What can be asked of a compositor. A pass is over the windows that come with the request. -/
inductive Request (α : Type) where
  | compose (ws : List (Window α))
  | present (ws : List (Window α))
  | damage
  | paintBacking (f : Surface → Surface)
  | attach (fb : Framebuffer)
  | detach

namespace Request

/-- The request asks for a pass. -/
def asks : Request α → Bool
  | compose _ | present _ => true
  | _ => false

/-- The request asks for a pass if the screen has changed. -/
def isCompose : Request α → Bool
  | compose _ => true
  | _ => false

/-- The request brings a framebuffer. -/
def isAttach : Request α → Bool
  | attach _ => true
  | _ => false

/-- The request reports that the screen has changed. -/
def reports : Request α → Bool
  | damage | paintBacking _ | attach _ => true
  | _ => false

/-- The windows that come with the request. -/
def windows : Request α → List (Window α)
  | compose ws | present ws => ws
  | _ => []

/-- The windows that are there to be seen. -/
def visible (r : Request α) : List (Window α) := r.windows.filter (·.pane.flags.visible)

/-- The calls of a pass. -/
def renderings (r : Request α) : List (Call α) :=
  if r.isCompose then r.visible.map Window.rendering else []

variable [WindowClient α]

/-- A window after a pass: rendered if the screen is composed and the window is there to be seen. -/
def after (r : Request α) (w : Window α) : Window α :=
  if r.isCompose && w.pane.flags.visible then
    { w with
      pane := (w.behavior.render w.id w.pane).2
      behavior := (w.behavior.render w.id w.pane).1 }
  else w

/-- What a pass puts on the screen: the windows that are there to be seen, in order, as they are
after the pass. -/
def layers (r : Request α) : List Layer := r.visible.map fun w => (r.after w).pane.layer

theorem layers_compose (ws : List (Window α)) : (compose ws).layers =
    ((ws.filter (·.isVisible)).map Window.rendered).map (·.pane.layer) := by
  rw [List.map_map]
  refine List.map_congr_left fun w hw => ?_
  have hvisible : w.isVisible = true := (List.mem_filter.1 hw).2
  change w.refreshed.pane.layer = w.rendered.pane.layer
  rw [Window.refreshed, if_pos hvisible]

theorem layers_present (ws : List (Window α)) : (present ws).layers =
    (ws.filter (·.isVisible)).map (·.pane.layer) := rfl

theorem windows_present (ws : List (Window α)) :
    (present ws).windows.map (present ws).after = ws := List.map_id ws

end Request

/-- The record that reports a missing framebuffer. -/
def headless : Log.Record := ⟨.warn, target, Fault.noFramebuffer.message ++ ", rendering disabled"⟩

/-- What a pass without a framebuffer leaves in the log. -/
def complaint (c : Compositor) : List (Entry α) := if c.warned then [] else [.record headless]

/-- The entry reports a missing framebuffer. -/
def isComplaint : Entry α → Bool
  | .record r => r = headless
  | _ => false

/-- Blending windows one after the other lays their panes over each other. -/
theorem foldl_blendOnto (ws : List (Window α)) (fb : Framebuffer) :
    ws.foldl (fun fb w => w.blendOnto fb) fb =
      (ws.map (·.pane.layer)).foldl (fun fb l => l.onto fb) fb := by
  rw [List.foldl_map]
  rfl

/-- The compositor wants a pass for the request, if there is something to show it on. -/
def wants (c : Compositor) : Request α → Bool
  | .compose _ => c.dirty
  | .present _ => true
  | _ => false

/-- A request that reports a change does not ask for a pass. -/
theorem Request.asks_of_reports {r : Request α} (h : r.reports = true) (c : Compositor) :
    r.asks = false ∧ c.wants r = false ∧ r.isCompose = false := by
  cases r <;> first | exact ⟨rfl, rfl, rfl⟩ | cases h

theorem asks_of_wants {c : Compositor} {r : Request α} (h : c.wants r = true) :
    r.asks = true ∧ r.reports = false ∧ (r.isCompose = true → c.dirty = true) := by
  cases r <;> first | exact ⟨rfl, rfl, fun _ => h⟩ | exact ⟨rfl, rfl, nofun⟩ | cases h

variable [WindowClient α]

/-- A request with its answer: whether a pass was made, the compositor and the windows after it. -/
def serve (c : Compositor) : Request α → Traced α (Bool × Compositor × List (Window α))
  | .compose ws => c.compose ws
  | .present ws => (fun answer => (answer.1, answer.2, ws)) <$> c.present ws
  | .damage => pure (false, c.damage, [])
  | .paintBacking f => pure (false, c.paintBacking f, [])
  | .attach fb => pure (false, c.attach fb, [])
  | .detach => pure (false, c.detach.2, [])

/-- A compositor after several requests. -/
def serveAll (c : Compositor) : List (Request α) → Traced α Compositor
  | [] => pure c
  | r :: rs => do
    let (_, c, _) ← c.serve r
    c.serveAll rs

/-- Requests one after the other, each with the compositor that it finds. -/
def course (c : Compositor) : List (Request α) → List (Compositor × Request α)
  | [] => []
  | r :: rs => (c, r) :: course (c.serve r).value.2.1 rs

/-- The requests that make a pass. -/
def passes (c : Compositor) (rs : List (Request α)) : List (Compositor × Request α) :=
  (c.course rs).filter fun s => (s.1.serve s.2).value.1

/-- The framebuffer after a pass. -/
def shown (c : Compositor) (r : Request α) (fb : Framebuffer) : Framebuffer :=
  r.layers.foldl (fun fb l => l.onto fb) (clear c.backing fb)

/-- A framebuffer came to show layers over a desktop: each of its visible pixels is that of the
desktop with the layers that cover it over each other. Its padding is as it was, unless the desktop
is too small for the screen. -/
structure Paints (backing : Surface) (ls : List Layer) (fb shown : Framebuffer) : Prop where
  layout : fb.SameLayout shown
  pixels : ∀ px py, px < fb.width → py < fb.height →
    shown.get? px py = some (Layer.stack ls px py (desktopPixel backing px py))
  padding : fb.width ≤ backing.width → fb.height ≤ backing.height →
    ∀ i, fb.IsPadding i → shown.pixels[i]? = fb.pixels[i]?

theorem paints_shown (c : Compositor) (r : Request α) (fb : Framebuffer) :
    Paints c.backing r.layers fb (c.shown r fb) where
  layout := (sameLayout_clear c.backing fb).trans (Layer.sameLayout_foldl_onto _ _)
  pixels px py hx hy := by
    rw [shown, Layer.get?_foldl_onto, get?_clear c.backing fb hx hy, Option.map_some]
  padding hw hh i hi := by
    rw [shown, Layer.getElem?_foldl_onto_of_isPadding _ _ ((sameLayout_clear _ fb).isPadding hi),
      getElem?_clear_of_isPadding hw hh hi]

/-- The request makes a pass: the visible windows are called to render if the screen is to be
composed, they are blended over the desktop, and the flag of the screen is cleared. -/
structure Shows (c : Compositor) (r : Request α) : Prop where
  asks : r.asks = true
  calls : (c.serve r).calls = r.renderings
  framebuffer : ∃ fb shown, c.framebuffer = some fb ∧
    (c.serve r).value.2.1.framebuffer = some shown ∧ Paints c.backing r.layers fb shown
  backing : (c.serve r).value.2.1.backing = c.backing
  dirty : (c.serve r).value.2.1.dirty = false
  windows : (c.serve r).value.2.2 = r.windows.map r.after

/-- The request calls no window and leaves the pixels, the windows and the flag of the screen as
they were. -/
structure Idles (c : Compositor) (r : Request α) : Prop where
  calls : (c.serve r).calls = []
  framebuffer : (c.serve r).value.2.1.framebuffer = c.framebuffer
  backing : (c.serve r).value.2.1.backing = c.backing
  dirty : (c.serve r).value.2.1.dirty = c.dirty
  windows : (c.serve r).value.2.2 = r.windows

/-- What can come of a request. -/
inductive Serves (c : Compositor) :
    Request α → Traced α (Bool × Compositor × List (Window α)) → Prop
  /-- There is a pass. -/
  | passed {r : Request α} {fb : Framebuffer} (hwants : c.wants r = true)
      (hfb : c.framebuffer = some fb) :
      Serves c r ⟨(true, c.finish (c.shown r fb) r.visible.length, r.windows.map r.after),
        r.renderings.map .call⟩
  /-- There is nothing to show the windows on. -/
  | headless {r : Request α} (hwants : c.wants r = true) (hfb : c.framebuffer = none) :
      Serves c r ⟨(false, { c with warned := true }, r.windows), c.complaint⟩
  /-- Nothing has changed. -/
  | skipped {ws : List (Window α)} (hd : c.dirty = false) : Serves c (.compose ws)
      ⟨(false, { c with stats := { c.stats with skipped := c.stats.skipped + 1 } }, ws), []⟩
  /-- The screen is marked as changed. -/
  | reported {r : Request α} {after : Compositor} (hr : r.reports = true)
      (hd : after.dirty = true) (hstats : after.stats = c.stats)
      (hwarned : r.isAttach = false → after.warned = c.warned) :
      Serves c r ⟨(false, after, []), []⟩
  | detached : Serves c .detach ⟨(false, { c with framebuffer := none }, []), []⟩

/-- Composing a changed screen when there is a framebuffer. -/
theorem compose_of_some {c : Compositor} {fb : Framebuffer} (hd : c.dirty = true)
    (hfb : c.framebuffer = some fb) (ws : List (Window α)) : c.compose ws =
      ⟨(true, c.finish (c.shown (.compose ws) fb) (ws.filter (·.isVisible)).length,
          ws.map Window.refreshed),
        ((ws.filter (·.isVisible)).map Window.rendering).map .call⟩ := by
  refine Traced.ext' ?_ ?_
  · rw [compose_of_dirty hfb hd, windows_renderOnto, blended_renderOnto,
      List.countP_eq_length_filter, foldl_blendOnto, ← Request.layers_compose]
    rfl
  · rw [← Window.flatMap_rendering, ← journal_renderOnto ws (clear c.backing fb)]
    obtain ⟨backing, framebuffer, dirty, warned, stats⟩ := c
    cases hd
    cases hfb
    exact List.append_nil _

theorem serves_compose (c : Compositor) (ws : List (Window α)) :
    c.Serves (.compose ws) (c.compose ws) := by
  cases hd : c.dirty with
  | false =>
    have hskip : c.compose ws = ⟨(false,
        { c with stats := { c.stats with skipped := c.stats.skipped + 1 } }, ws), []⟩ := by
      simp only [compose, hd]
      rfl
    exact hskip ▸ .skipped hd
  | true =>
    cases hfb : c.framebuffer with
    | none =>
      have hnone : c.compose ws = ⟨(false, { c with warned := true }, ws), c.complaint⟩ := by
        obtain ⟨backing, framebuffer, dirty, warned, stats⟩ := c
        cases hd
        cases hfb
        cases warned <;> rfl
      exact hnone ▸ .headless (r := .compose ws) hd hfb
    | some fb => exact compose_of_some hd hfb ws ▸ .passed (r := .compose ws) hd hfb

theorem serves_present (c : Compositor) (ws : List (Window α)) :
    c.Serves (.present ws) (c.serve (.present ws)) := by
  cases hfb : c.framebuffer with
  | none =>
    have hnone : c.serve (.present ws) = ⟨(false, { c with warned := true }, ws), c.complaint⟩ := by
      obtain ⟨backing, framebuffer, dirty, warned, stats⟩ := c
      cases hfb
      cases warned <;> rfl
    exact hnone ▸ .headless (r := .present ws) rfl hfb
  | some fb =>
    have hpass : c.serve (.present ws) = ⟨(true,
        c.finish (c.shown (.present ws) fb) (ws.filter (·.isVisible)).length,
        (Request.present ws).windows.map (Request.present ws).after), []⟩ := by
      refine Traced.ext' ?_ ?_
      · rw [serve, Traced.value_map, present_of_some hfb, Request.windows_present,
          foldl_blendOnto, ← Request.layers_present]
        rfl
      · rw [serve, Traced.journal_map, journal_present_of_some hfb]
    exact hpass ▸ .passed (r := .present ws) rfl hfb

/-- Everything that can come of a request. -/
theorem serves (c : Compositor) (r : Request α) : c.Serves r (c.serve r) := by
  cases r with
  | compose ws => exact c.serves_compose ws
  | present ws => exact c.serves_present ws
  | damage => exact .reported rfl rfl rfl fun _ => rfl
  | paintBacking f => exact .reported rfl rfl rfl fun _ => rfl
  | attach fb => exact .reported rfl rfl rfl nofun
  | detach => exact .detached

section Step

variable {c : Compositor} {r : Request α} {answer : Traced α (Bool × Compositor × List (Window α))}

/-- A pass is made just if it is wanted and there is something to show it on. -/
theorem Serves.made_eq (h : c.Serves r answer) :
    answer.value.1 = (c.wants r && c.framebuffer.isSome) := by
  cases h with
  | passed hwants hfb => simp [hwants, hfb]
  | headless hwants hfb => simp [hfb]
  | skipped hd => simp [wants, hd]
  | reported hr => simp [(Request.asks_of_reports hr c).2.1]
  | detached => rfl

/-- How many passes, skipped calls and blended windows a request adds to the counters. -/
theorem Serves.stats_eq (h : c.Serves r answer) : answer.value.2.1.stats =
    ⟨c.stats.composed + answer.value.1.toNat,
      c.stats.skipped + (r.isCompose && !c.dirty).toNat,
      c.stats.blitted + if answer.value.1 then r.visible.length else 0⟩ := by
  have hskip : c.wants r = true → (r.isCompose && !c.dirty) = false := by
    intro hwants
    have hd := (asks_of_wants hwants).2.2
    cases hr : r.isCompose with
    | false => rfl
    | true => rw [hd hr]; rfl
  cases h with
  | passed hwants hfb => simp [finish, hskip hwants]
  | headless hwants hfb => simp [hskip hwants]
  | skipped hd => simp [hd, Request.isCompose]
  | reported hr hd hstats => simp [hstats, (Request.asks_of_reports hr c).2.2]
  | detached => rfl

/-- A request adds one at most to the passes and skipped calls together, and no more blended windows
than came with it. -/
theorem Serves.stats_le (h : c.Serves r answer) :
    let stats := answer.value.2.1.stats
    stats.composed + stats.skipped ≤ c.stats.composed + c.stats.skipped + 1 ∧
      stats.blitted ≤ c.stats.blitted + r.windows.length := by
  cases h with
  | @passed r fb hwants hfb =>
    have hvisible : r.visible.length ≤ r.windows.length := List.length_filter_le ..
    simp only [finish]
    omega
  | headless hwants hfb => simp only; omega
  | skipped hd => simp only; omega
  | reported hr hd hstats => simp only [hstats]; omega
  | detached => simp only; omega

/-- The flag is cleared by passes only. -/
theorem Serves.dirty_eq (h : c.Serves r answer) :
    answer.value.2.1.dirty = (r.reports || (c.dirty && !answer.value.1)) := by
  cases h with
  | passed hwants hfb => simp [finish, (asks_of_wants hwants).2.1]
  | headless hwants hfb => simp [(asks_of_wants hwants).2.1]
  | skipped hd => simp [hd, Request.reports]
  | reported hr hd => simp [hr, hd]
  | detached => simp [Request.reports]

/-- Until a framebuffer comes, a missing one is reported just when the report is noted. -/
theorem Serves.complaints_eq (h : c.Serves r answer) (hr : r.isAttach = false) :
    answer.journal.countP isComplaint + c.warned.toNat = answer.value.2.1.warned.toNat := by
  cases h with
  | passed hwants hfb =>
    have hcalls : (r.renderings.map Entry.call).countP isComplaint = 0 := by
      rw [List.countP_eq_zero]
      intro e he
      obtain ⟨call, -, rfl⟩ := List.mem_map.1 he
      exact Bool.false_ne_true
    simp [hcalls, finish]
  | headless hwants hfb => cases hw : c.warned <;> simp [complaint, hw, isComplaint]
  | skipped hd => simp
  | reported hreports hd hstats hwarned => simp [hwarned hr]
  | detached => simp

end Step

theorem made_compose_iff (c : Compositor) (ws : List (Window α)) :
    (c.serve (.compose ws)).value.1 = true ↔ c.dirty = true ∧ c.framebuffer ≠ none := by
  rw [(c.serves (.compose ws)).made_eq, Bool.and_eq_true, Option.isSome_iff_ne_none]
  rfl

theorem made_present_iff (c : Compositor) (ws : List (Window α)) :
    (c.serve (.present ws)).value.1 = true ↔ c.framebuffer ≠ none := by
  rw [(c.serves (.present ws)).made_eq, Bool.and_eq_true, Option.isSome_iff_ne_none]
  exact and_iff_right rfl

theorem shows_of_made {c : Compositor} {r : Request α} (h : (c.serve r).value.1 = true) :
    c.Shows r := by
  have hserves := c.serves r
  generalize hanswer : c.serve r = answer at hserves h
  cases hserves with
  | passed hwants hfb =>
    have hcalls : ((r.renderings.map Entry.call).filterMap Entry.call?) = r.renderings := by
      rw [List.filterMap_map]
      exact List.filterMap_some
    exact ⟨(asks_of_wants hwants).1, by rw [hanswer, Traced.calls, hcalls],
      ⟨_, _, hfb, by rw [hanswer]; rfl, c.paints_shown r _⟩, by rw [hanswer]; rfl,
      by rw [hanswer]; rfl, by rw [hanswer]⟩
  | headless | skipped | reported | detached => cases h

theorem idles_of_not_made {c : Compositor} {r : Request α} (hr : r.asks = true)
    (h : (c.serve r).value.1 = false) : c.Idles r := by
  have hserves := c.serves r
  generalize hanswer : c.serve r = answer at hserves h
  cases hserves with
  | passed => cases h
  | headless hwants hfb =>
    have hcalls : (c.complaint : List (Entry α)).filterMap Entry.call? = [] := by
      unfold complaint
      split <;> rfl
    exact ⟨by rw [hanswer, Traced.calls, hcalls], by rw [hanswer], by rw [hanswer], by rw [hanswer],
      by rw [hanswer]⟩
  | skipped hd =>
    exact ⟨by rw [hanswer]; rfl, by rw [hanswer], by rw [hanswer], by rw [hanswer],
      by rw [hanswer]; rfl⟩
  | reported hreports =>
    rw [(Request.asks_of_reports hreports c).1] at hr
    cases hr
  | detached => cases hr

section Run

variable (c : Compositor)

theorem value_serveAll_append (before after : List (Request α)) :
    (c.serveAll (before ++ after)).value = ((c.serveAll before).value.serveAll after).value := by
  induction before generalizing c with
  | nil => rfl
  | cons r before ih => exact ih (c.serve r).value.2.1

/-- The counters after a run. -/
theorem stats_serveAll (rs : List (Request α)) : (c.serveAll rs).value.stats =
    ⟨c.stats.composed + (c.passes rs).length,
      c.stats.skipped + (c.course rs).countP (fun s => s.2.isCompose && !s.1.dirty),
      c.stats.blitted + ((c.passes rs).flatMap fun s => s.2.visible).length⟩ := by
  induction rs generalizing c with
  | nil => rfl
  | cons r rs ih =>
    have hrest := ih (c.serve r).value.2.1
    rw [(c.serves r).stats_eq] at hrest
    refine hrest.trans ?_
    simp only [passes, course, List.filter_cons, List.countP_cons]
    cases (c.serve r).value.1 <;> cases r.isCompose && !c.dirty <;>
      simp [Nat.add_assoc, Nat.add_comm]

/-- The counters grow by no more than the requests of a run and the windows that come with them. -/
theorem stats_serveAll_le (rs : List (Request α)) :
    let stats := (c.serveAll rs).value.stats
    stats.composed + stats.skipped ≤ c.stats.composed + c.stats.skipped + rs.length ∧
      stats.blitted ≤ c.stats.blitted + (rs.flatMap (·.windows)).length := by
  induction rs generalizing c with
  | nil => exact ⟨Nat.le_refl _, Nat.le_refl _⟩
  | cons r rs ih =>
    obtain ⟨hcalls, hwindows⟩ := (c.serves r).stats_le
    obtain ⟨hrest, hmore⟩ := ih (c.serve r).value.2.1
    have hvalue : (c.serveAll (r :: rs)).value = ((c.serve r).value.2.1.serveAll rs).value := rfl
    rw [hvalue, List.length_cons, List.flatMap_cons, List.length_append]
    constructor <;> omega

/-- A run without a pass keeps a change on record. -/
theorem dirty_serveAll {rs : List (Request α)} (hd : c.dirty = true) (hpasses : c.passes rs = []) :
    (c.serveAll rs).value.dirty = true := by
  induction rs generalizing c with
  | nil => exact hd
  | cons r rs ih =>
    rw [passes, course, List.filter_cons] at hpasses
    cases hmade : (c.serve r).value.1 with
    | true =>
      rw [if_pos hmade] at hpasses
      cases hpasses
    | false =>
      rw [if_neg (Bool.eq_false_iff.1 hmade)] at hpasses
      refine ih (c.serve r).value.2.1 ?_ hpasses
      rw [(c.serves r).dirty_eq, hmade, hd, Bool.not_false, Bool.and_self, Bool.or_true]

/-- A run in which no framebuffer comes reports a missing one at most once. -/
theorem complaints_serveAll {rs : List (Request α)} (hrs : ∀ r ∈ rs, r.isAttach = false) :
    (c.serveAll rs).journal.countP isComplaint + c.warned.toNat =
      (c.serveAll rs).value.warned.toNat := by
  induction rs generalizing c with
  | nil => exact Nat.zero_add _
  | cons r rs ih =>
    obtain ⟨hr, htail⟩ := List.forall_mem_cons.1 hrs
    have hstep := (c.serves r).complaints_eq hr
    have hrest := ih (c.serve r).value.2.1 htail
    have hjournal : (c.serveAll (r :: rs)).journal =
        (c.serve r).journal ++ ((c.serve r).value.2.1.serveAll rs).journal := rfl
    rw [hjournal, List.countP_append]
    refine Eq.trans ?_ hrest
    omega

end Run

/-- Of the requests of a run, composing makes a pass just if the screen has changed and there is a
framebuffer, and presenting just if there is one. Where a pass was asked for and not made, nothing
is called and nothing painted, and the flag stays: a change that was reported is still on record
until the first pass. The counters tell the passes, the requests that found nothing changed, and
the windows that the passes blended. They grow by no more than the requests and the windows that
come with these, so 64 bits are enough for a run of fewer than `2 ^ 64` of both. As long as no
framebuffer comes, a missing one is reported at most once. -/
theorem passes_exactly_on_demand (c : Compositor) (rs : List (Request α)) :
    (∀ s ∈ c.course rs,
      (∀ ws, s.2 = .compose ws →
        ((s.1.serve s.2).value.1 = true ↔ s.1.dirty = true ∧ s.1.framebuffer ≠ none)) ∧
      (∀ ws, s.2 = .present ws → ((s.1.serve s.2).value.1 = true ↔ s.1.framebuffer ≠ none)) ∧
      ((s.1.serve s.2).value.1 = true → s.1.Shows s.2) ∧
      (s.2.asks = true → (s.1.serve s.2).value.1 = false → s.1.Idles s.2)) ∧
    (c.serveAll rs).value.stats =
      ⟨c.stats.composed + (c.passes rs).length,
        c.stats.skipped + (c.course rs).countP (fun s => s.2.isCompose && !s.1.dirty),
        c.stats.blitted + ((c.passes rs).flatMap fun s => s.2.visible).length⟩ ∧
    ((c.serveAll rs).value.stats.composed + (c.serveAll rs).value.stats.skipped ≤
        c.stats.composed + c.stats.skipped + rs.length ∧
      (c.serveAll rs).value.stats.blitted ≤
        c.stats.blitted + (rs.flatMap (·.windows)).length) ∧
    (∀ before r after, rs = before ++ r :: after → r.reports = true →
      ((c.serveAll before).value.serve r).value.2.1.passes after = [] →
      (c.serveAll rs).value.dirty = true ∧ ∀ ws : List (Window α),
        (c.serveAll rs).value.framebuffer ≠ none →
        ((c.serveAll rs).value.compose ws).value.1 = true) ∧
    (∀ before during after, rs = before ++ during ++ after →
      (∀ r ∈ during, r.isAttach = false) →
      ((c.serveAll before).value.serveAll during).journal.countP isComplaint ≤ 1) := by
  refine ⟨fun s _ => ⟨?_, ?_, shows_of_made, idles_of_not_made⟩, c.stats_serveAll rs,
    c.stats_serveAll_le rs, ?_, ?_⟩
  · intro ws hs
    rw [hs]
    exact s.1.made_compose_iff ws
  · intro ws hs
    rw [hs]
    exact s.1.made_present_iff ws
  · intro before r after hrs hr hpasses
    have hreported : ((c.serveAll before).value.serve r).value.2.1.dirty = true := by
      rw [((c.serveAll before).value.serves r).dirty_eq, hr, Bool.true_or]
    have hafter := dirty_serveAll _ hreported hpasses
    have hdirty : (c.serveAll rs).value.dirty = true := by
      rw [hrs, value_serveAll_append]
      exact hafter
    exact ⟨hdirty, fun ws hfb => ((c.serveAll rs).value.made_compose_iff ws).2 ⟨hdirty, hfb⟩⟩
  · intro before during after _ hduring
    have hcount := (c.serveAll before).value.complaints_serveAll hduring
    have hle := Bool.toNat_le ((c.serveAll before).value.serveAll during).value.warned
    omega

/-- A change while there is no framebuffer, one pass of each kind once there is one, and two
requests too many: one that finds nothing changed and one after the framebuffer is gone. -/
theorem passes_of_late_framebuffer :
    let fb : Framebuffer := ⟨2, 1, 3, #[1, 2, 3], by decide, by decide⟩
    let pane := Pane.new "w" { visible := true } (-1) 0 (.filled 2 1 0)
    let ws : List (Window Empty) :=
      [⟨⟨1⟩, .generic, pane, .fill⟩, ⟨⟨2⟩, .generic, { pane with flags.visible := false }, .fill⟩]
    let c : Compositor := { backing := .filled 1 1 0xFF102030 }
    let rs : List (Request Empty) :=
      [.compose ws, .present ws, .damage, .attach fb, .compose ws, .compose ws, .present ws,
        .detach, .present ws]
    (c.serveAll rs).value.stats = ⟨2, 1, 2⟩ ∧
      (c.serveAll (rs.take 3)).journal.countP isComplaint ≤ 1 ∧
      (c.serveAll (rs.take 4)).value.dirty = true := by
  intro fb pane ws c rs
  obtain ⟨-, hstats, -, -, hcomplaints⟩ := passes_exactly_on_demand c rs
  obtain ⟨-, -, -, hdirty, -⟩ := passes_exactly_on_demand c (rs.take 4)
  refine ⟨?_, ?_, ?_⟩
  · have hblitted : ((c.passes rs).flatMap fun s => s.2.visible).length = 2 := by decide +kernel
    have hskipped : (c.course rs).countP (fun s => s.2.isCompose && !s.1.dirty) = 1 := by
      decide +kernel
    have hlength : (c.passes rs).length = 2 := by decide +kernel
    rw [hstats, hblitted, hskipped, hlength]
  · exact hcomplaints [] (rs.take 3) (rs.drop 3) rfl (by decide)
  · exact (hdirty [.compose ws, .present ws] .damage [.attach fb] rfl rfl (by decide +kernel)).1

end Compositor

namespace Workspace

variable [WindowClient α] {m : Workspace α} {fb : Framebuffer}

/-- Over stock windows, with a framebuffer and a changed screen, it makes no difference whether each
window is blended right after it was rendered or once all of them are: the answer, the screen, the
windows, the counters and the journal are the same. -/
theorem refresh_eq_compose (hstock : m.Stocked) (hd : m.compositor.dirty = true)
    (hfb : m.compositor.framebuffer = some fb) : m.refresh = m.compose := by
  have hfilter := Window.filter_refreshed hstock
  have hpresent := Compositor.present_of_some hfb (m.registry.windows.map Window.refreshed)
  have hcompose := Compositor.compose_of_some hd hfb m.registry.windows
  rw [hfilter, List.length_map, Compositor.foldl_blendOnto, ← Compositor.Request.layers_compose]
    at hpresent
  refine Traced.ext' ?_ ?_
  · rw [refresh_eq, value_compose, hcompose, hpresent]
    rfl
  · have hjournal : m.compose.journal = (m.compositor.compose m.registry.windows).journal :=
      List.append_nil _
    rw [refresh_eq, hjournal, hcompose, Compositor.journal_present_of_some hfb,
      Window.flatMap_rendering]
    exact List.append_nil _

/-- Three stock windows, of which one is hidden and the other two lie over each other and over the
edge of the screen. -/
theorem refresh_eq_compose_overlapping :
    let fb : Framebuffer := ⟨2, 1, 3, #[1, 2, 3], by decide, by decide⟩
    let pane := { Pane.new "w" { visible := true } (-1) 0 (.filled 2 1 0) with
      background := .white, opacity := 0.5 }
    let ws : List (Window Empty) :=
      [⟨⟨1⟩, .generic, pane, .fill⟩, ⟨⟨2⟩, .generic, { pane with flags.visible := false }, .fill⟩,
        ⟨⟨3⟩, .debug, { pane with x := 0 }, .console {}⟩]
    let m : Workspace Empty := ⟨⟨8, ws⟩, { backing := .filled 1 1 0, framebuffer := some fb }⟩
    m.Stocked ∧ m.refresh = m.compose := by
  intro fb pane ws m
  have hstock : m.Stocked := by
    intro w hw
    simp only [m, ws, List.mem_cons, List.not_mem_nil, or_false] at hw
    rcases hw with rfl | rfl | rfl <;> rfl
  exact ⟨hstock, refresh_eq_compose hstock rfl rfl⟩

end Workspace

end TickDesktop
