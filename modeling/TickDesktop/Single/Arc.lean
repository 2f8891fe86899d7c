/-!
# Sine and cosine of an arc

An arc between zero and a little over one turn is brought to within an eighth of a turn of a
quarter point by taking off whole quarters in double precision. There both functions are short
polynomials; which of the two is used, and its sign, follow from the quarter.
-/
namespace TickDesktop.Single

/-- Half of pi in double precision. -/
def quarterTurn : Float := Float.ofBits 0x3FF921FB54442D18

/-- Sine near zero: an odd polynomial. -/
def sineNearZero (x : Float) : Float :=
  let z := x * x
  let w := z * z
  let r := Float.ofBits 0xBF2A00F9E2CAE774 + z * Float.ofBits 0x3EC6CD878C3B46A7
  let s := z * x
  (x + s * (Float.ofBits 0xBFC5555554CBAC77 + z * Float.ofBits 0x3F811110896EFBB2)) + s * w * r

/-- Cosine near zero: an even polynomial. -/
def cosineNearZero (x : Float) : Float :=
  let z := x * x
  let w := z * z
  let r := Float.ofBits 0xBF56C087E80F1E27 + z * Float.ofBits 0x3EF99342E0EE5069
  ((1.0 + z * Float.ofBits 0xBFDFFFFFFD0C5E81) + w * Float.ofBits 0x3FA55553E1053A42) + w * z * r

/-- The quarter nearest to an arc; the bounds are odd multiples of an eighth of a turn. -/
def quarter (arc : Float32) : Nat :=
  let bits := arc.toBits
  if bits ≤ 0x3F490FDA then 0
  else if bits ≤ 0x4016CBE3 then 1
  else if bits ≤ 0x407B53D1 then 2
  else if bits ≤ 0x40AFEDDF then 3
  else 4

/-- What is left of an arc beyond its nearest quarter. -/
def beyondQuarter (arc : Float32) : Float :=
  arc.toFloat - (quarter arc).toFloat * quarterTurn

/-- The sine of an arc from zero to nine eighths of a turn. -/
def sine (arc : Float32) : Float32 :=
  let y := beyondQuarter arc
  Float.toFloat32 <| match quarter arc % 4 with
    | 0 => sineNearZero y
    | 1 => cosineNearZero y
    | 2 => sineNearZero (-y)
    | _ => -cosineNearZero y

/-- The cosine of an arc from zero to nine eighths of a turn. -/
def cosine (arc : Float32) : Float32 :=
  let y := beyondQuarter arc
  Float.toFloat32 <| match quarter arc % 4 with
    | 0 => cosineNearZero y
    | 1 => sineNearZero (-y)
    | 2 => -cosineNearZero y
    | _ => sineNearZero y

end TickDesktop.Single
