/-!
# The bitmap font

A glyph is eight rows of eight pixels, packed into one word: bit `8 * row + col` tells whether the
pixel is lit, so the lowest byte is the top row and the lowest bit of a byte its left end. A font
gives a glyph to every character.
-/
namespace TickDesktop

/-- Eight rows of eight pixels. -/
abbrev Glyph := UInt64

namespace Glyph

/-- The number of columns. -/
def width : Nat := 8

/-- The number of rows. -/
def height : Nat := 8

/-- The glyph with the given row bytes, top row first. -/
def ofRows (rows : List UInt8) : Glyph :=
  rows.foldr (fun r g => g * 256 + r.toUInt64) 0

/-- The row bytes of a glyph, top row first. -/
def rows (g : Glyph) : List UInt8 :=
  (List.range height).map fun row => (g >>> (8 * row.toUInt64)).toUInt8

/-- Whether the pixel in a row and column is lit. -/
def lit (g : Glyph) (row col : Nat) : Bool := g.toNat.testBit (8 * row + col)

end Glyph

/-- A choice of glyph for every character. -/
abbrev Font := Char → Glyph

namespace Font

/-- The glyphs of the printable ASCII characters, from the space up to the tilde. -/
def printable : Array Glyph :=
  #[0x0000000000000000, 0x00180018183C3C18, 0x0000000000003636, 0x0036367F367F3636,
   0x000C1F301E033E0C, 0x0063660C18336300, 0x006E333B6E1C361C, 0x0000000000030606,
   0x00180C0606060C18, 0x00060C1818180C06, 0x0000663CFF3C6600, 0x00000C0C3F0C0C00,
   0x060C0C0000000000, 0x000000003F000000, 0x000C0C0000000000, 0x000103060C183060,
   0x003E676F7B73633E, 0x003F0C0C0C0C0E0C, 0x003F33061C30331E, 0x001E33301C30331E,
   0x0078307F33363C38, 0x001E3330301F033F, 0x001E33331F03061C, 0x000C0C0C1830333F,
   0x001E33331E33331E, 0x000E18303E33331E, 0x000C0C00000C0C00, 0x060C0C00000C0C00,
   0x00180C0603060C18, 0x00003F00003F0000, 0x00060C1830180C06, 0x000C000C1830331E,
   0x001E037B7B7B633E, 0x0033333F33331E0C, 0x003F66663E66663F, 0x003C66030303663C,
   0x001F36666666361F, 0x007F46161E16467F, 0x000F06161E16467F, 0x007C66730303663C,
   0x003333333F333333, 0x001E0C0C0C0C0C1E, 0x001E333330303078, 0x006766361E366667,
   0x007F66460606060F, 0x0063636B7F7F7763, 0x006363737B6F6763, 0x001C36636363361C,
   0x000F06063E66663F, 0x00381E3B3333331E, 0x006766363E66663F, 0x001E33380E07331E,
   0x001E0C0C0C0C2D3F, 0x003F333333333333, 0x000C1E3333333333, 0x0063777F6B636363,
   0x0063361C1C366363, 0x001E0C0C1E333333, 0x007F664C1831637F, 0x001E06060606061E,
   0x00406030180C0603, 0x001E18181818181E, 0x0000000063361C08, 0xFF00000000000000,
   0x0000000000180C0C, 0x006E333E301E0000, 0x003B66663E060607, 0x001E3303331E0000,
   0x006E33333E303038, 0x001E033F331E0000, 0x000F06060F06361C, 0x1F303E33336E0000,
   0x006766666E360607, 0x001E0C0C0C0E000C, 0x1E33333030300030, 0x0067361E36660607,
   0x001E0C0C0C0C0C0E, 0x00636B7F7F330000, 0x00333333331F0000, 0x001E3333331E0000,
   0x0F063E66663B0000, 0x78303E33336E0000, 0x000F06666E3B0000, 0x001F301E033E0000,
   0x00182C0C0C3E0C08, 0x006E333333330000, 0x000C1E3333330000, 0x00367F7F6B630000,
   0x0063361C36630000, 0x1F303E3333330000, 0x003F260C193F0000, 0x00380C0C070C0C38,
   0x0018181800181818, 0x00070C0C380C0C07, 0x0000000000003B6E]

/-- The place of a character's glyph. A character outside printable ASCII shares the glyph of the
question mark. -/
def place (c : Char) : Nat := if 32 ≤ c.toNat ∧ c.toNat ≤ 126 then c.toNat - 32 else 31

theorem place_lt (c : Char) : place c < printable.size := by
  have : printable.size = 95 := rfl
  unfold place
  split <;> omega

/-- The built-in font. -/
def ascii : Font := fun c =>
  have := place_lt c
  printable[place c]

end Font

end TickDesktop
