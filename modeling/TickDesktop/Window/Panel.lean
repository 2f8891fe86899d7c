import TickDesktop.Draw.Text
import TickDesktop.Window.Pane

/-!
# Panels

A panel is a bordered box with the window's title in a bar at the top.
-/
namespace TickDesktop

/-- The colors of a panel. -/
structure Panel where
  border : Color := .steelBlue
  bar : Color := .steelBlue
  text : Color := .white

namespace Panel

/-- The space around the title. -/
def titlePad : Nat := 2

/-- The height of the title bar. -/
def barHeight : Nat := Glyph.height + 2 * titlePad

/-- Paint the background, the title bar with the title, and the border. -/
def render (panel : Panel) (p : Pane) : Pane :=
  p.paint fun surface =>
    let width := surface.width
    let height := surface.height
    (((surface.fill p.background.toPixel).fillRect
      0 0 width (min barHeight height) panel.bar.toPixel).drawText
      Font.ascii (titlePad + 2) titlePad p.title.toList panel.text.toPixel).drawRect
      0 0 width height panel.border.toPixel

end Panel

end TickDesktop
