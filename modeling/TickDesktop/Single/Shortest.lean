import TickDesktop.Single.Reading

/-!
# The shortest decimal

The text of a single precision number has the fewest digits that read back as that number, and of
two such decimals the nearer one. It is written by position, however long that gets, and without a
point when the number is whole.
-/
namespace TickDesktop.Single

/-- The whole number of units of `10 ^ p` in `n / d`, and whether the part left over is at least
half a unit. -/
def unitsOf (n d : Nat) (p : Int) : Nat × Bool :=
  let (n', d') := match p with
    | .ofNat k => (n, d * Nat.pow 10 k)
    | .negSucc k => (n * Nat.pow 10 (k + 1), d)
  (n' / d', decide (d' ≤ 2 * (n' % d')))

/-- On the grid of multiples of `10 ^ p`, the neighbour of `n / d` that reads back as the pattern:
the nearer one if both do, and the upper one in a tie. -/
def onGrid? (bits n d : Nat) (p : Int) : Option Nat :=
  let (low, upper) := unitsOf n d p
  let reads (c : Nat) : Bool := decimalBits c p == bits
  match reads low, reads (low + 1) with
  | true, true => some (if upper then low + 1 else low)
  | true, false => some low
  | false, true => some (low + 1)
  | false, false => none

/-- The first grid with a hit, from the coarsest one on. -/
def search (bits n d : Nat) : Nat → Int → Nat × Int
  | 0, p => ((unitsOf n d p).1, p)
  | fuel + 1, p =>
    match onGrid? bits n d p with
    | some c => (c, p)
    | none => search bits n d fuel (p - 1)

/-- The digits and the decimal exponent of the shortest decimal of a finite pattern. -/
def shortestDigits (bits : Nat) : Nat × Int :=
  if bits = 0 then (0, 0)
  else
    let (m, e) := significand bits
    let (n, d) := match e with
      | .ofNat k => (m * Nat.pow 2 k, 1)
      | .negSucc k => (m, Nat.pow 2 (k + 1))
    -- the coarsest grid lies above the leading digit
    let top : Int := (Text.digits 10 (n / d)).length
    search bits n d 200 (if n < d then 0 else top)

/-- `n * 10 ^ e` by position: zeros on the right, or a point among the digits. -/
def positional (n : Nat) : Int → List Char
  | .ofNat k => Text.digits 10 n ++ List.replicate k '0'
  | .negSucc k =>
    let places := k + 1
    let ds := Text.zeroFill (places + 1) (Text.digits 10 n)
    ds.take (ds.length - places) ++ '.' :: ds.drop (ds.length - places)

/-- The text of a single precision number. -/
def text (x : Float32) : List Char :=
  let bits := x.toBits.toNat
  let magnitude := bits % 0x80000000
  let sign := if 0x80000000 ≤ bits then ['-'] else []
  if infinityBits < magnitude then ['N', 'a', 'N']
  else if magnitude = infinityBits then sign ++ ['i', 'n', 'f']
  else
    let (n, e) := shortestDigits magnitude
    sign ++ (if n = 0 then ['0'] else positional n e)

end TickDesktop.Single
