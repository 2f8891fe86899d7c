/-!
# Keys

Keys arrive as decoded key codes. Only the codes of printable ASCII characters stand for one.
-/
namespace TickDesktop.Keyboard

/-- The first code that stands for a character, the space. -/
def firstPrintable : Nat := 32

/-- The last code that stands for a character, the tilde. -/
def lastPrintable : Nat := 126

/-- The character of a key code. -/
def charOf? (code : Nat) : Option Char :=
  if firstPrintable ≤ code ∧ code ≤ lastPrintable then some (Char.ofNat code) else none

theorem isSome_charOf? (code : Nat) :
    (charOf? code).isSome ↔ 32 ≤ code ∧ code ≤ 126 := by
  unfold charOf? firstPrintable lastPrintable
  split <;> simp_all

end TickDesktop.Keyboard
