import TickDesktop.Single.Nearest
import TickDesktop.Text.Numeral

/-!
# Reading decimals

A decimal has an optional sign, digits with an optional point among them, and an optional exponent
after `e` or `E` with a sign of its own. At least one digit stands around the point, and at least
one in an exponent. It denotes the single precision number nearest to it.
-/
namespace TickDesktop.Single

/-- A decimal number: `digits * 10 ^ exponent`, negated when `negative` is set. -/
structure Decimal where
  negative : Bool
  digits : Nat
  exponent : Int
  deriving DecidableEq

/-- Whether the character is one of `0` to `9`. -/
def isDigit (c : Char) : Bool := (Text.digitValue? 10 c).isSome

/-- The integer after an exponent mark. -/
def exponent? : List Char → Option Int
  | '-' :: s => (Text.natural? 10 s).map fun n => -(n : Int)
  | '+' :: s => (Text.natural? 10 s).map fun n => (n : Int)
  | s => (Text.natural? 10 s).map fun n => (n : Int)

/-- A decimal without its sign. -/
def unsignedDecimal? (negative : Bool) (s : List Char) : Option Decimal := do
  let whole := s.takeWhile isDigit
  let rest := s.dropWhile isDigit
  let (fraction, rest) := match rest with
    | '.' :: r => (r.takeWhile isDigit, r.dropWhile isDigit)
    | r => ([], r)
  let n ← Text.natural? 10 (whole ++ fraction)
  let e ← match rest with
    | [] => some 0
    | c :: r => if c = 'e' ∨ c = 'E' then exponent? r else none
  return ⟨negative, n, e - fraction.length⟩

/-- The decimal that a text writes. -/
def Decimal.ofChars? : List Char → Option Decimal
  | '-' :: s => unsignedDecimal? true s
  | '+' :: s => unsignedDecimal? false s
  | s => unsignedDecimal? false s

/-- The pattern of the number nearest to `n * 10 ^ e`. Beyond 60 decimal places on either side of
the point the answer is known without the power: infinity above, zero below. -/
def decimalBits (n : Nat) (e : Int) : Nat :=
  if n = 0 then 0
  else
    let places : Int := (Text.digits 10 n).length + e
    if 60 < places then infinityBits
    else if places < -60 then 0
    else match e with
      | .ofNat k => nearestBits (n * Nat.pow 10 k) 1
      | .negSucc k => nearestBits n (Nat.pow 10 (k + 1))

/-- The finite single precision number nearest to what the text writes. -/
def read? (s : List Char) : Option Float32 := do
  let d ← Decimal.ofChars? s
  let bits := decimalBits d.digits d.exponent
  if bits < infinityBits then some (ofMagnitude d.negative bits) else none

end TickDesktop.Single
