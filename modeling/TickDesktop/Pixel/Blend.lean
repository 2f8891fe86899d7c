import TickDesktop.Pixel.Color

/-!
# Source over blending

Each channel becomes `source * a + destination * (1 - a)` in single precision, cut down to a whole
number. The result is always opaque: what is on the screen carries no transparency forward.
-/
namespace TickDesktop

/-- A number limited to `[low, high]`. What compares with neither bound, as not-a-number does, stays
as it is. -/
@[inline] def limit (low high x : Float32) : Float32 :=
  if x < low then low else if high < x then high else x

/-- A byte as a fraction of `255`. -/
@[inline] def fraction (byte : UInt32) : Float32 := byte.toFloat32 / 255

namespace Pixel

/-- One channel of a blend, given the weights of source and destination. -/
@[inline] def mix (source destination : UInt32) (weight rest : Float32) : UInt32 :=
  let v := (source.toFloat32 * weight + destination.toFloat32 * rest).toUInt32
  if v < 255 then v else 255

/-- The source over the destination with the given coverage, alpha bytes left aside. -/
@[inline] def blend (source destination : Pixel) (coverage : Float32) : Pixel :=
  let weight := limit 0 1 coverage
  let rest := 1 - weight
  pack 255 (mix source.red destination.red weight rest)
    (mix source.green destination.green weight rest)
    (mix source.blue destination.blue weight rest)

/-- The source over the destination, covered by the source's own alpha. -/
def sourceOver (source destination : Pixel) : Pixel :=
  blend source destination (fraction source.alpha)

/-- The pixel with its alpha byte scaled by an opacity. -/
def withOpacity (p : Pixel) (opacity : Float32) : Pixel :=
  let a := p.alpha.toFloat32 * limit 0 1 opacity
  pack a.toUInt32 p.red p.green p.blue

/-- A window's pixel over what is on the screen, under the opacity of the whole window. A clear
pixel leaves the screen untouched. -/
@[inline] def layer (p destination : Pixel) (opacity : Float32) : Pixel :=
  if p.alpha = 0 then destination else blend p destination (fraction p.alpha * opacity)

end Pixel

end TickDesktop
