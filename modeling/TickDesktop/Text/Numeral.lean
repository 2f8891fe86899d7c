/-!
# Numerals

Reading and writing natural numbers and integers in a radix up to sixteen. A numeral has at least
one digit and any number of leading zeros; a sign is allowed only where the reader says so.
-/
namespace TickDesktop.Text

/-- The value of a digit below the radix, letters of either case standing for ten and more. -/
def digitValue? (radix : Nat) (c : Char) : Option Nat :=
  let n := c.toNat
  let v :=
    if 48 ≤ n ∧ n ≤ 57 then n - 48
    else if 97 ≤ n ∧ n ≤ 102 then n - 87
    else if 65 ≤ n ∧ n ≤ 70 then n - 55
    else 16
  if v < radix ∧ v < 16 then some v else none

/-- The digit of a value below sixteen, in lower case. -/
def digit (v : Nat) : Char := Char.ofNat (if v < 10 then 48 + v else 87 + v)

/-- The number that one or more digits denote. -/
def natural? (radix : Nat) (s : List Char) : Option Nat :=
  if s.isEmpty then none
  else s.foldlM (fun n c => (digitValue? radix c).map (n * radix + ·)) 0

/-- A numeral that may start with a plus sign. -/
def unsigned? (radix : Nat) : List Char → Option Nat
  | '+' :: s => natural? radix s
  | s => natural? radix s

/-- A numeral below `2 ^ 32` that may start with a plus sign. -/
def word? (radix : Nat) (s : List Char) : Option Nat :=
  (unsigned? radix s).filter (· < 0x100000000)

/-- A decimal numeral with an optional sign, from `-2 ^ 31` up to `2 ^ 31 - 1`. -/
def signedWord? (s : List Char) : Option Int :=
  let v? : Option Int := match s with
    | '-' :: s => (natural? 10 s).map fun n => -(n : Int)
    | '+' :: s => (natural? 10 s).map fun n => (n : Int)
    | s => (natural? 10 s).map fun n => (n : Int)
  v?.filter fun v => -0x80000000 ≤ v ∧ v < 0x80000000

/-- The digits of a number, most significant first. -/
def digits (radix n : Nat) : List Char :=
  if _h : radix ≤ n ∧ 2 ≤ radix then digits radix (n / radix) ++ [digit (n % radix)]
  else [digit n]
termination_by n
decreasing_by exact Nat.div_lt_self (by omega) (by omega)

/-- A number as a decimal numeral. -/
def decimal (n : Nat) : String := String.ofList (digits 10 n)

/-- An integer as a decimal numeral, with a minus sign when it is negative. -/
def signedDecimal : Int → String
  | .ofNat n => decimal n
  | .negSucc n => "-" ++ decimal (n + 1)

/-- A text widened to `width` characters by zeros in front. -/
def zeroFill (width : Nat) (s : List Char) : List Char :=
  List.replicate (width - s.length) '0' ++ s

/-- A number in lower case hexadecimal with at least `width` digits. -/
def hexadecimal (width n : Nat) : String := String.ofList (zeroFill width (digits 16 n))

/-- A number in upper case hexadecimal with at least `width` digits. -/
def upperHexadecimal (width n : Nat) : String :=
  String.ofList ((zeroFill width (digits 16 n)).map Char.toUpper)

/-- A text widened to `width` characters by spaces in front. -/
def padLeft (width : Nat) (s : String) : String :=
  String.ofList (List.replicate (width - s.length) ' ') ++ s

/-- A text widened to `width` characters by spaces behind. -/
def padRight (width : Nat) (s : String) : String :=
  s ++ String.ofList (List.replicate (width - s.length) ' ')

theorem digitValue?_lt {radix v : Nat} {c : Char} (h : digitValue? radix c = some v) :
    v < radix := by
  unfold digitValue? at h
  dsimp only at h
  split at h
  all_goals grind

theorem digitValue?_digit {radix v : Nat} (hv : v < radix) (h16 : v < 16) :
    digitValue? radix (digit v) = some v := by
  have hn : ∀ v < 16, (digit v).toNat = if v < 10 then 48 + v else 87 + v := by decide
  simp only [digitValue?, hn v h16]
  grind

theorem digits_ne_nil (radix n : Nat) : digits radix n ≠ [] := by
  unfold digits
  split <;> simp

/-- The digits of a number denote it. -/
theorem natural?_digits {radix : Nat} (h2 : 2 ≤ radix) (h16 : radix ≤ 16) (n : Nat) :
    natural? radix (digits radix n) = some n := by
  rw [natural?, if_neg (by simpa using digits_ne_nil radix n)]
  induction n using Nat.strongRecOn with
  | ind n ih =>
    rw [digits]
    split
    · next h =>
      have hr : n % radix < radix := Nat.mod_lt _ (by omega)
      rw [List.foldlM_append, ih (n / radix) (Nat.div_lt_self (by omega) (by omega))]
      simp [digitValue?_digit hr (by omega), Nat.div_add_mod']
    · next h =>
      simp [digitValue?_digit (show n < radix by omega) (by omega)]

end TickDesktop.Text
