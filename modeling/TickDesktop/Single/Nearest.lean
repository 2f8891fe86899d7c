/-!
# The nearest single precision number

A finite single precision number is `m * 2 ^ e` with `m < 2 ^ 24` and `-149 ≤ e ≤ 104`. Its bit
pattern, read as a natural number, grows with the number, and consecutive patterns belong to
consecutive numbers. So rounding a fraction is rounding to the grid of its exponent, and a
significand that rounds up to `2 ^ 24` carries into the next exponent by itself.
-/
namespace TickDesktop.Single

/-- `n / d` rounded to the nearest natural number, a half to the even one. -/
def roundHalfEven (n d : Nat) : Nat :=
  let q := n / d
  let r := n % d
  if d < 2 * r ∨ (2 * r = d ∧ q % 2 = 1) then q + 1 else q

/-- The pattern of positive infinity. -/
def infinityBits : Nat := 0x7F800000

/-- The numerator and denominator of `n / d` in units of `2 ^ e`. -/
def inUnits (n d : Nat) : Int → Nat × Nat
  | .ofNat e => (n, d * Nat.pow 2 e)
  | .negSucc e => (n * Nat.pow 2 (e + 1), d)

/-- The exponent of the grid on which `n / d` is rounded: the significand gets 24 bits unless the
number is too small for that. -/
def gridExponent (n d : Nat) : Int :=
  let e : Int := (n.log2 : Int) - d.log2 - 23
  let (n', d') := inUnits n d e
  max (if n' < d' * 0x800000 then e - 1 else e) (-149)

/-- The pattern of the number nearest to `n / d`, a tie going to the even significand. Fractions
beyond the largest finite number give infinity. -/
def nearestBits (n d : Nat) : Nat :=
  if n = 0 then 0
  else
    let e := gridExponent n d
    let (n', d') := inUnits n d e
    min ((e + 149).toNat * 0x800000 + roundHalfEven n' d') infinityBits

/-- The number with the pattern, and its negative when `negative` is set. -/
def ofMagnitude (negative : Bool) (bits : Nat) : Float32 :=
  Float32.ofBits (UInt32.ofNat (if negative then 0x80000000 + bits else bits))

/-- The significand and exponent of a finite magnitude pattern. -/
def significand (bits : Nat) : Nat × Int :=
  let field : Nat := bits / 0x800000
  let m : Nat := bits % 0x800000
  if field = 0 then (m, -149) else (m + 0x800000, (field : Int) - 150)

end TickDesktop.Single
