import Mathlib.Algebra.Order.Field.Power
import Mathlib.Data.Rat.Cast.Order
import Mathlib.Tactic.FieldSimp
import Mathlib.Tactic.Linarith
import Mathlib.Tactic.Positivity
import TickDesktop.Single.Nearest

/-!
# Rounding a number that needs none

A fraction that is a single precision number already is rounded to the pattern of that number. The
exponent of the grid is found from the lengths of numerator and denominator with at most one step of
correction, and a number has only one exponent under which its significand has the right length.
-/
namespace TickDesktop.Single

/-- The number of a finite magnitude pattern. -/
def magnitude (bits : Nat) : ℚ := (significand bits).1 * 2 ^ (significand bits).2

/-- The significand of a finite pattern has 24 bits, or the exponent is the smallest one. Together
they give the pattern back. -/
theorem significand_spec {bits : Nat} (h : bits < infinityBits) :
    (significand bits).1 < 0x1000000 ∧
      (0x800000 ≤ (significand bits).1 ∨ (significand bits).2 = -149) ∧
      -149 ≤ (significand bits).2 ∧ (significand bits).2 ≤ 104 ∧
      ((significand bits).2 + 149).toNat * 0x800000 + (significand bits).1 = bits := by
  unfold infinityBits at h
  unfold significand
  dsimp only
  split
  · refine ⟨?_, ?_, ?_, ?_, ?_⟩ <;> omega
  · refine ⟨?_, ?_, ?_, ?_, ?_⟩ <;> omega

theorem roundHalfEven_mul {d : Nat} (hd : 0 < d) (m : Nat) : roundHalfEven (m * d) d = m := by
  rw [roundHalfEven, Nat.mul_div_cancel m hd, Nat.mul_mod_left]
  apply if_neg
  omega

/-- Counting in units of a power of two divides by that power. -/
theorem inUnits_spec (n : Nat) {d : Nat} (hd : 0 < d) (e : Int) :
    0 < (inUnits n d e).2 ∧
      ((inUnits n d e).1 : ℚ) = n / d / 2 ^ e * (inUnits n d e).2 := by
  have hd' : (d : ℚ) ≠ 0 := by positivity
  cases e with
  | ofNat k =>
    refine ⟨by simp [inUnits, hd], ?_⟩
    simp only [inUnits, Int.ofNat_eq_natCast, zpow_natCast, Nat.pow_eq]
    push_cast
    field_simp
  | negSucc k =>
    refine ⟨by simpa [inUnits] using hd, ?_⟩
    simp only [inUnits, zpow_negSucc, Nat.pow_eq]
    push_cast
    field_simp

/-- The lengths of numerator and denominator tell the size of a fraction up to a factor of two. -/
theorem between_logs {n d : Nat} (hn : n ≠ 0) (hd : d ≠ 0) :
    (2 : ℚ) ^ ((n.log2 : Int) - d.log2 - 1) ≤ n / d ∧
      (n : ℚ) / d < 2 ^ ((n.log2 : Int) - d.log2 + 1) := by
  have hpos : (0 : ℚ) < d := by positivity
  have hn₁ : (2 : ℚ) ^ n.log2 ≤ n := by exact_mod_cast Nat.log2_self_le hn
  have hn₂ : (n : ℚ) < 2 ^ (n.log2 + 1) := by exact_mod_cast Nat.lt_log2_self
  have hd₁ : (2 : ℚ) ^ d.log2 ≤ d := by exact_mod_cast Nat.log2_self_le hd
  have hd₂ : (d : ℚ) < 2 ^ (d.log2 + 1) := by exact_mod_cast Nat.lt_log2_self
  have hlow : (2 : ℚ) ^ ((n.log2 : Int) - d.log2 - 1) = 2 ^ n.log2 / 2 ^ (d.log2 + 1) := by
    rw [sub_sub, zpow_sub₀ two_ne_zero]
    norm_cast
  have hhigh : (2 : ℚ) ^ ((n.log2 : Int) - d.log2 + 1) = 2 ^ (n.log2 + 1) / 2 ^ d.log2 := by
    rw [sub_add_eq_add_sub, zpow_sub₀ two_ne_zero]
    norm_cast
  rw [hlow, hhigh]
  constructor
  · exact div_le_div₀ (by positivity) hn₁ hpos hd₂.le
  · exact div_lt_div₀ hn₂ hd₁ (by positivity) (by positivity)

/-- The exponent under which the significand of a fraction has 24 bits. -/
def leadingExponent (n d : Nat) : Int :=
  let e : Int := (n.log2 : Int) - d.log2 - 23
  let (n', d') := inUnits n d e
  if n' < d' * 0x800000 then e - 1 else e

theorem gridExponent_eq (n d : Nat) : gridExponent n d = max (leadingExponent n d) (-149) := rfl

theorem leadingExponent_spec {n d : Nat} (hn : n ≠ 0) (hd : d ≠ 0) :
    (2 : ℚ) ^ (leadingExponent n d + 23) ≤ n / d ∧
      (n : ℚ) / d < 2 ^ (leadingExponent n d + 24) := by
  obtain ⟨hlow, hhigh⟩ := between_logs hn hd
  set e : Int := (n.log2 : Int) - d.log2 - 23 with he
  obtain ⟨hd', hn'⟩ := inUnits_spec n (Nat.pos_of_ne_zero hd) e
  -- the units tell on which side of the middle power the fraction lies
  have hmiddle : (inUnits n d e).1 < (inUnits n d e).2 * 0x800000 ↔
      (n : ℚ) / d < 2 ^ (e + 23) := by
    rw [← Nat.cast_lt (α := ℚ), hn', zpow_add₀ two_ne_zero]
    have hunit : (0 : ℚ) < 2 ^ e := by positivity
    have hden : (0 : ℚ) < (inUnits n d e).2 := by exact_mod_cast hd'
    rw [mul_comm, Nat.cast_mul, mul_lt_mul_iff_right₀ hden, div_lt_iff₀ hunit, mul_comm]
    norm_num
  have hexp : leadingExponent n d =
      if (inUnits n d e).1 < (inUnits n d e).2 * 0x800000 then e - 1 else e := rfl
  rw [hexp]
  split
  · next h =>
    constructor
    · convert hlow using 2
      omega
    · convert hmiddle.1 h using 2
      omega
  · next h =>
    constructor
    · exact le_of_not_gt fun hlt => h (hmiddle.2 hlt)
    · convert hhigh using 2
      omega

/-- Only one exponent puts a number between the powers of two that bound a significand. -/
theorem exponent_unique {q : ℚ} {e e' : Int} (h : (2 : ℚ) ^ (e + 23) ≤ q) (hq : q < 2 ^ (e + 24))
    (h' : (2 : ℚ) ^ (e' + 23) ≤ q) (hq' : q < 2 ^ (e' + 24)) : e = e' := by
  have hlt := (zpow_lt_zpow_iff_right₀ (one_lt_two (α := ℚ))).1 (h.trans_lt hq')
  have hgt := (zpow_lt_zpow_iff_right₀ (one_lt_two (α := ℚ))).1 (h'.trans_lt hq)
  omega

/-- The grid of a number is the one on which its significand lies. -/
theorem gridExponent_of_magnitude {bits n d : Nat} (hbits : bits < infinityBits) (hn : n ≠ 0)
    (hd : d ≠ 0) (h : (n : ℚ) / d = magnitude bits) :
    gridExponent n d = (significand bits).2 := by
  obtain ⟨hm, hfull, he, -, -⟩ := significand_spec hbits
  obtain ⟨hlow, hhigh⟩ := leadingExponent_spec hn hd
  rw [gridExponent_eq]
  rw [h, magnitude] at hlow hhigh
  set m := (significand bits).1
  set e := (significand bits).2
  have hunit : (0 : ℚ) < 2 ^ e := by positivity
  have hupper : (m : ℚ) * 2 ^ e < 2 ^ (e + 24) := by
    rw [zpow_add₀ two_ne_zero, mul_comm]
    have hm' : (m : ℚ) < 2 ^ (24 : Int) := by exact_mod_cast hm
    exact mul_lt_mul_of_pos_left hm' hunit
  by_cases hleading : 0x800000 ≤ m
  · have hlower : (2 : ℚ) ^ (e + 23) ≤ m * 2 ^ e := by
      rw [zpow_add₀ two_ne_zero, mul_comm]
      have hm' : (2 : ℚ) ^ (23 : Int) ≤ m := by exact_mod_cast hleading
      exact mul_le_mul_of_nonneg_right hm' hunit.le
    have hexp := exponent_unique hlow hhigh hlower hupper
    omega
  · have hexp := (zpow_lt_zpow_iff_right₀ (one_lt_two (α := ℚ))).1 (hlow.trans_lt hupper)
    omega

theorem nearestBits_of_units {n d n' d' bits : Nat} {e : Int} (hn : n ≠ 0)
    (he : gridExponent n d = e) (hunits : inUnits n d e = (n', d'))
    (hbits : (e + 149).toNat * 0x800000 + roundHalfEven n' d' = bits)
    (hle : bits ≤ infinityBits) : nearestBits n d = bits := by
  rw [nearestBits, if_neg hn, he]
  simp only [hunits]
  rw [hbits]
  exact Nat.min_eq_left hle

/-- A fraction that is a number is rounded to the pattern of that number. -/
theorem nearestBits_of_magnitude {bits n d : Nat} (hbits : bits < infinityBits) (hd : d ≠ 0)
    (h : (n : ℚ) / d = magnitude bits) : nearestBits n d = bits := by
  obtain ⟨-, hfull, -, -, hback⟩ := significand_spec hbits
  have hunit : (2 : ℚ) ^ (significand bits).2 ≠ 0 := by positivity
  by_cases hn : n = 0
  · -- only the pattern zero belongs to the number zero
    have hm : (significand bits).1 = 0 := by
      rw [hn, Nat.cast_zero, zero_div, magnitude, eq_comm, mul_eq_zero] at h
      exact_mod_cast h.resolve_right hunit
    have hbits : bits = 0 := by omega
    rw [nearestBits, if_pos hn, hbits]
  · obtain ⟨hd', hn'⟩ := inUnits_spec n (Nat.pos_of_ne_zero hd) (significand bits).2
    rw [h, magnitude, mul_div_cancel_right₀ _ hunit] at hn'
    have hunits : inUnits n d (significand bits).2 =
        ((significand bits).1 * (inUnits n d (significand bits).2).2,
          (inUnits n d (significand bits).2).2) := by
      ext
      · exact_mod_cast hn'
      · simp
    apply nearestBits_of_units hn (gridExponent_of_magnitude hbits hn hd h) hunits _ hbits.le
    rw [roundHalfEven_mul hd', hback]

end TickDesktop.Single
