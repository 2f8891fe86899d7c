import TickDesktop.Draw.Font
import TickDesktop.Draw.Rect

/-!
# Text on a surface

A glyph paints its lit pixels and nothing else. A line of text puts its glyphs side by side and
stops at the right edge of the surface.
-/
namespace TickDesktop

/-- The width and height of a line of text. -/
def textSize (text : List Char) : Nat × Nat := (text.length * Glyph.width, Glyph.height)

namespace Surface

/-- Paint the lit pixels of a glyph at `(x, y)`. -/
def drawGlyph (s : Surface) (g : Glyph) (x y : Int) (p : Pixel) : Surface :=
  Glyph.height.fold (fun row _ s =>
    Glyph.width.fold (fun col _ s =>
      if g.lit row col then s.put (saturate (x + col)) (saturate (y + row)) p else s) s) s

/-- Paint a line of text whose first glyph is at `(x, y)`. -/
def drawText (s : Surface) (font : Font) (x y : Int) : List Char → Pixel → Surface
  | [], _ => s
  | c :: text, p =>
    if s.width ≤ x then s
    else (s.drawGlyph (font c) x y p).drawText font (x + Glyph.width) y text p

end Surface

end TickDesktop
