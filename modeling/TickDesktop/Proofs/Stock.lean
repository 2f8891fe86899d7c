import TickDesktop.Window.Basic

/-!
# Stock windows

A stock window has one of the behaviors that come with the desktop, no client. Drawing changes the
pixels of a surface and never its extent, and every stock behavior starts its picture by filling the
whole surface. So the picture depends on the extent of the surface and on none of its old pixels,
and rendering a second time changes nothing. An update or a typed character that raises no flag and
asks for nothing leaves a stock window as it was.
-/
namespace TickDesktop

namespace Surface

/-- The width and the height. -/
def extent (s : Surface) : Nat × Nat := (s.width, s.height)

@[simp] theorem extent_fill (s : Surface) (p : Pixel) : (s.fill p).extent = s.extent := rfl

@[simp] theorem extent_paint (s : Surface) (box : Box) (f : Nat → Nat → Pixel → Pixel) :
    (s.paint box f).extent = s.extent := rfl

@[simp] theorem extent_put (s : Surface) (x y : Int) (p : Pixel) :
    (s.put x y p).extent = s.extent := by simp [extent]

@[simp] theorem extent_fillRect (s : Surface) (x y : Int) (width height : Nat) (p : Pixel) :
    (s.fillRect x y width height p).extent = s.extent := rfl

@[simp] theorem extent_drawRect (s : Surface) (x y : Int) (width height : Nat) (p : Pixel) :
    (s.drawRect x y width height p).extent = s.extent := by
  unfold drawRect
  split <;> simp

theorem extent_foldl_put {β : Type} (s : Surface) (points : List β) (x y : β → Int)
    (p : β → Pixel) :
    (points.foldl (fun s q => s.put (x q) (y q) (p q)) s).extent = s.extent := by
  induction points generalizing s with
  | nil => rfl
  | cons q points ih => exact (ih (s.put (x q) (y q) (p q))).trans (extent_put ..)

@[simp] theorem extent_putAll (s : Surface) (points : List ((Int × Int) × Color)) :
    (s.putAll points).extent = s.extent := extent_foldl_put ..

theorem extent_fold {n : Nat} {f : (i : Nat) → i < n → Surface → Surface}
    (hf : ∀ i h s, (f i h s).extent = s.extent) (s : Surface) :
    (n.fold f s).extent = s.extent := by
  induction n with
  | zero => rfl
  | succ n ih =>
    rw [Nat.fold_succ, hf]
    exact ih fun i _ s => hf i _ s

@[simp] theorem extent_drawGlyph (s : Surface) (g : Glyph) (x y : Int) (p : Pixel) :
    (s.drawGlyph g x y p).extent = s.extent := by
  refine extent_fold (fun row _ s => extent_fold (fun col _ s => ?_) s) s
  split <;> simp

@[simp] theorem extent_drawText (s : Surface) (font : Font) (x y : Int) (text : List Char)
    (p : Pixel) : (s.drawText font x y text p).extent = s.extent := by
  induction text generalizing s x with
  | nil => rfl
  | cons c text ih =>
    rw [drawText]
    split
    · rfl
    · rw [ih, extent_drawGlyph]

/-- Filling forgets all of a surface but its extent. -/
theorem fill_congr {s t : Surface} (h : s.extent = t.extent) (p : Pixel) : s.fill p = t.fill p := by
  obtain ⟨hw, hh⟩ := Prod.mk.inj h
  rw [fill, fill, hw, hh]

end Surface

@[simp] theorem Console.extent_drawRows (s : Surface) (p : Pixel) (y : Int)
    (rows : List (List Char)) : (drawRows s p y rows).extent = s.extent := by
  induction rows generalizing s y with
  | nil => rfl
  | cons row rows ih => rw [drawRows, ih, Surface.extent_drawText]

/-- A console that was brought back into range by a rendering paints the same picture again. -/
theorem Console.render_settled (c : Console) (p : Pane) :
    ({ c with scroll := min c.scroll (c.furthest p.surface.height) } : Console).render p =
      c.render p := by
  have hscroll : min (min c.scroll (c.furthest p.surface.height)) (c.furthest p.surface.height) =
      min c.scroll (c.furthest p.surface.height) := by omega
  simp only [render, furthest] at *
  rw [hscroll]

/-- A desktop without clients has stock windows only. -/
instance : WindowClient Empty where
  outline := Surface.sides
  update := nofun
  render := nofun
  typed := nofun

namespace Behavior

variable {α : Type} [WindowClient α] {b : Behavior α}

theorem client?_render (hb : b.client? = none) (id : WindowId) (p : Pane) :
    (b.render id p).1.client? = none := by
  cases b with
  | custom c => cases hb
  | _ => rfl

theorem client?_update (hb : b.client? = none) (id : WindowId) (p : Pane) (ctx : FrameContext) :
    (b.update id p ctx).2.1.client? = none := by
  cases b with
  | custom c => cases hb
  | _ => rfl

theorem client?_typed (hb : b.client? = none) (id : WindowId) (p : Pane) (ch : Char) :
    (b.typed id p ch).1.client? = none := by
  cases b with
  | custom c => cases hb
  | _ => rfl

/-- Rendering a stock behavior changes nothing of the pane but the pixels of its surface. -/
theorem render_frame (hb : b.client? = none) (id : WindowId) (p : Pane) :
    ∃ s : Surface, s.extent = p.surface.extent ∧ (b.render id p).2 = { p with surface := s } := by
  cases b with
  | fill => exact ⟨_, Surface.extent_fill .., rfl⟩
  | splash s =>
    simp only [render, Splash.render]
    split
    · exact ⟨_, Surface.extent_fill .., rfl⟩
    · exact ⟨_, by rw [Surface.extent_paint, Surface.extent_fill], rfl⟩
  | clock c => exact ⟨_, by simp, rfl⟩
  | modal panel => exact ⟨_, by simp, rfl⟩
  | dialog panel => exact ⟨_, by simp, rfl⟩
  | console c =>
    refine ⟨_, ?_, rfl⟩
    dsimp only
    split <;> simp
  | custom c => cases hb

/-- What a stock behavior paints does not depend on what its surface showed before. -/
theorem render_congr (hb : b.client? = none) (id : WindowId) (p : Pane) {t : Surface}
    (ht : t.extent = p.surface.extent) :
    b.render id { p with surface := t } = b.render id p := by
  obtain ⟨hw, hh⟩ := Prod.mk.inj ht
  cases b with
  | fill => simp only [render, Pane.paint, Surface.fill_congr ht]
  | splash s =>
    simp only [render, Splash.render, Pane.paint]
    split <;> simp only [Surface.fill_congr ht, hw, hh]
  | clock c => simp only [render, ClockFace.render, Pane.paint, Surface.fill_congr ht, hw, hh]
  | modal panel => simp only [render, Panel.render, Pane.paint, Surface.fill_congr ht, hw, hh]
  | dialog panel => simp only [render, Panel.render, Pane.paint, Surface.fill_congr ht, hw, hh]
  | console c => simp only [render, Console.render, Pane.paint, Surface.fill_congr ht, hh]
  | custom c => cases hb

/-- Rendering a stock behavior a second time changes neither the behavior nor the pane. -/
theorem render_render (hb : b.client? = none) (id : WindowId) (p : Pane) :
    (b.render id p).1.render id (b.render id p).2 = b.render id p := by
  obtain ⟨s, hs, hp⟩ := render_frame hb id p
  -- only a console changes when it is rendered: it may come back into range
  have hagain : (b.render id p).1.render id p = b.render id p := by
    cases b with
    | console c =>
      exact congrArg (fun r : Console × Pane => ((console r.1 : Behavior α), r.2))
        (c.render_settled p)
    | custom c => cases hb
    | fill => rfl
    | splash s => rfl
    | clock c => rfl
    | modal panel => rfl
    | dialog panel => rfl
  rw [hp, render_congr (client?_render hb id p) id p hs, hagain]

/-- A stock behavior that was updated, stays and raised no flag is as it was, and so is its pane. -/
theorem update_of_quiet (hb : b.client? = none) {id : WindowId} {p : Pane} {ctx : FrameContext}
    (hstay : (b.update id p ctx).1 = .stay) (hquiet : (b.update id p ctx).2.2.dirty = false) :
    (b.update id p ctx).2 = (b, p) := by
  cases b with
  | splash s =>
    simp only [update, Splash.update] at hstay hquiet
    by_cases ha : p.background.a = 0
    · simp [ha] at hstay
    · simp [ha] at hquiet
  | clock c =>
    simp only [update, ClockFace.update] at hquiet ⊢
    cases hlast : c.lastTick with
    | none => simp [hlast] at hquiet
    | some last =>
      by_cases hrate : c.rate ≤ ctx.tick - last
      · simp [hlast, hrate] at hquiet
      · simp [hrate]
  | custom c => cases hb
  | fill => rfl
  | modal panel => rfl
  | dialog panel => rfl
  | console c => rfl

/-- A stock behavior that took a character and raised no flag is as it was, and so is its pane. -/
theorem typed_of_quiet (hb : b.client? = none) {id : WindowId} {p : Pane} {ch : Char}
    (hquiet : (b.typed id p ch).2.dirty = false) : b.typed id p ch = (b, p) := by
  cases b with
  | console c =>
    simp only [typed, Console.type] at hquiet ⊢
    by_cases hroom : c.input.toList.length < Console.maxLength
    · simp [hroom] at hquiet
    · simp [hroom]
  | custom c => cases hb
  | fill => rfl
  | splash s => rfl
  | clock c => rfl
  | modal panel => rfl
  | dialog panel => rfl

end Behavior

namespace Window

variable {α : Type}

/-- The window has a behavior that comes with the desktop. -/
def IsStock (w : Window α) : Prop := w.behavior.client? = none

@[simp] theorem id_clean (w : Window α) : w.clean.id = w.id := rfl

variable [WindowClient α]

/-- The window after it has painted its surface anew. -/
def rendered (w : Window α) : Window α := w.render.value

/-- The window after one frame. -/
def updated (w : Window α) (ctx : FrameContext) : Window α := (w.update ctx).value.2

/-- What the window asks for in one frame. -/
def verdict (w : Window α) (ctx : FrameContext) : Verdict := (w.update ctx).value.1

/-- Rendering the window changes nothing of its pane but the surface. -/
def PaintsOnly (w : Window α) : Prop :=
  w.rendered.pane = { w.pane with surface := w.rendered.pane.surface }

theorem rendered_eq (w : Window α) : w.rendered =
    ⟨w.id, w.archetype, (w.behavior.render w.id w.pane).2, (w.behavior.render w.id w.pane).1⟩ := rfl

theorem update_eq (w : Window α) (ctx : FrameContext) : (w.update ctx).value =
    (w.verdict ctx, w.updated ctx) := rfl

@[simp] theorem id_rendered (w : Window α) : w.rendered.id = w.id := rfl

@[simp] theorem id_updated (w : Window α) (ctx : FrameContext) : (w.updated ctx).id = w.id := rfl

@[simp] theorem id_typed (w : Window α) (ch : Char) : (w.typed ch).value.id = w.id := rfl

namespace IsStock

variable {w : Window α}

protected theorem rendered (h : w.IsStock) : w.rendered.IsStock :=
  Behavior.client?_render h w.id w.pane

protected theorem updated (h : w.IsStock) (ctx : FrameContext) : (w.updated ctx).IsStock :=
  Behavior.client?_update h w.id w.pane ctx

protected theorem typed (h : w.IsStock) (ch : Char) : (w.typed ch).value.IsStock :=
  Behavior.client?_typed h w.id w.pane ch

theorem paintsOnly (h : w.IsStock) : w.PaintsOnly := by
  obtain ⟨s, -, hp⟩ := Behavior.render_frame h w.id w.pane
  rw [PaintsOnly, rendered_eq, hp]

theorem rendered_rendered (h : w.IsStock) : w.rendered.rendered = w.rendered := by
  have hb := Behavior.render_render h w.id w.pane
  rw [rendered_eq w.rendered, rendered_eq w, hb]

/-- A stock window that was updated, stays and raised no flag is as it was. -/
theorem updated_of_quiet (h : w.IsStock) {ctx : FrameContext} (hstay : w.verdict ctx = .stay)
    (hquiet : (w.updated ctx).pane.dirty = false) : w.updated ctx = w := by
  have hb := Behavior.update_of_quiet h hstay hquiet
  change Window.mk w.id w.archetype (w.behavior.update w.id w.pane ctx).2.2
    (w.behavior.update w.id w.pane ctx).2.1 = w
  rw [hb]

/-- A stock window that took a character and raised no flag is as it was. -/
theorem typed_of_quiet (h : w.IsStock) {ch : Char}
    (hquiet : (w.typed ch).value.pane.dirty = false) : (w.typed ch).value = w := by
  have hb := Behavior.typed_of_quiet h hquiet
  change Window.mk w.id w.archetype (w.behavior.typed w.id w.pane ch).2
    (w.behavior.typed w.id w.pane ch).1 = w
  rw [hb]

end IsStock

end Window

end TickDesktop
