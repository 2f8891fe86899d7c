/-!
# Colors

A pixel packs four bytes, alpha in the top byte, then red, green and blue. A color holds the same
four bytes apart; packing and unpacking undo each other.
-/
namespace TickDesktop

/-- A packed pixel `0xAARRGGBB`. -/
abbrev Pixel := UInt32

namespace Pixel

/-- The alpha byte, `0` for a clear pixel and `255` for an opaque one. -/
@[inline] def alpha (p : Pixel) : UInt32 := p / 0x1000000

/-- The red byte. -/
@[inline] def red (p : Pixel) : UInt32 := p / 0x10000 % 0x100

/-- The green byte. -/
@[inline] def green (p : Pixel) : UInt32 := p / 0x100 % 0x100

/-- The blue byte. -/
@[inline] def blue (p : Pixel) : UInt32 := p % 0x100

/-- The pixel of four bytes. -/
@[inline] def pack (a r g b : UInt32) : Pixel := a * 0x1000000 + r * 0x10000 + g * 0x100 + b

/-- Opaque black. -/
def black : Pixel := 0xFF000000

theorem alpha_lt (p : Pixel) : p.alpha.toNat < 256 := by
  have := p.toNat_lt
  simp only [alpha, UInt32.toNat_div, UInt32.reduceToNat]
  omega

end Pixel

/-- A color with its alpha. -/
structure Color where
  r : UInt8
  g : UInt8
  b : UInt8
  a : UInt8
  deriving DecidableEq

namespace Color

/-- An opaque color. -/
def rgb (r g b : UInt8) : Color := ⟨r, g, b, 255⟩

/-- The color of a pixel. -/
def ofPixel (p : Pixel) : Color :=
  ⟨p.red.toUInt8, p.green.toUInt8, p.blue.toUInt8, p.alpha.toUInt8⟩

/-- The pixel of a color. -/
def toPixel (c : Color) : Pixel := Pixel.pack c.a.toUInt32 c.r.toUInt32 c.g.toUInt32 c.b.toUInt32

/-- The color with another alpha. -/
def withAlpha (c : Color) (a : UInt8) : Color := { c with a }

theorem toNat_toPixel (c : Color) : c.toPixel.toNat =
    c.a.toNat * 0x1000000 + c.r.toNat * 0x10000 + c.g.toNat * 0x100 + c.b.toNat := by
  have := c.a.toNat_lt; have := c.r.toNat_lt; have := c.g.toNat_lt; have := c.b.toNat_lt
  simp only [toPixel, Pixel.pack, UInt32.toNat_add, UInt32.toNat_mul, UInt8.toNat_toUInt32,
    UInt32.reduceToNat]
  omega

@[simp] theorem toPixel_ofPixel (p : Pixel) : (ofPixel p).toPixel = p := by
  have := p.toNat_lt
  rw [← UInt32.toNat_inj, toNat_toPixel]
  simp only [ofPixel, Pixel.alpha, Pixel.red, Pixel.green, Pixel.blue, UInt32.toNat_toUInt8,
    UInt32.toNat_div, UInt32.toNat_mod, UInt32.reduceToNat]
  omega

@[simp] theorem ofPixel_toPixel (c : Color) : ofPixel c.toPixel = c := by
  have h := toNat_toPixel c
  rcases c with ⟨r, g, b, a⟩
  have := a.toNat_lt; have := r.toNat_lt; have := g.toNat_lt; have := b.toNat_lt
  simp only [ofPixel, Pixel.alpha, Pixel.red, Pixel.green, Pixel.blue, Color.mk.injEq,
    ← UInt8.toNat_inj, UInt32.toNat_toUInt8, UInt32.toNat_div, UInt32.toNat_mod, h,
    UInt32.reduceToNat]
  omega

/-! ## Named colors -/

def black : Color := rgb 0 0 0
def white : Color := rgb 255 255 255
def green : Color := rgb 0 255 0
def magenta : Color := rgb 255 0 255
def steelBlue : Color := rgb 0x46 0x82 0xB4
def deepBlue : Color := rgb 0x10 0x18 0x40
def transparent : Color := ⟨0, 0, 0, 0⟩

end Color

end TickDesktop
