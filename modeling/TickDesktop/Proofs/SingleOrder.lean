import Mathlib
import TickDesktop.Pixel.Blend
import TickDesktop.Single.Nearest

/-!
# Patterns and order of single precision numbers

A number is finite just if the exponent field of its pattern is not full, and a finite pattern
survives being made a number. Finite numbers are compared in one of three ways, and comparing the
other way round gives the opposite answer. So a finite number is at most another one unless it is
greater, and limiting it to a range brings it into the range or leaves it as it is.
-/
namespace TickDesktop

namespace Single

open Float.Model Float.Model.UnpackedFloat

/-- The exponent field is full just for the patterns that are not finite. -/
theorem unpackExponent_eq_iff (b : BitVec Format.binary32.numBits) :
    unpackExponent b = -1#_ ↔ ¬ b.toNat % 0x80000000 < infinityBits := by
  have hfield : (unpackExponent b).toNat = b.toNat / 0x800000 % 256 := by
    rw [unpackExponent_def, BitVec.extractLsb'_toNat, Nat.shiftRight_eq_div_pow]
    rfl
  have hfull : unpackExponent b = -1#_ ↔ b.toNat / 0x800000 % 256 = 255 := by
    rw [← hfield, ← BitVec.toNat_inj]
    rfl
  rw [hfull]
  unfold infinityBits
  omega

/-- A number is finite just if its pattern without the sign lies below infinity. -/
theorem isFinite_iff (x : Float32) :
    x.isFinite = true ↔ x.toBits.toNat % 0x80000000 < infinityBits := by
  change (UnpackedFloat.unpack Format.binary32 x.toBits.toBitVec).isFinite = true ↔ _
  have hfull := unpackExponent_eq_iff x.toBits.toBitVec
  rw [UInt32.toNat_toBitVec] at hfull
  unfold UnpackedFloat.unpack
  dsimp only
  split
  · next h =>
    rw [hfull] at h
    split <;> simpa [UnpackedFloat.isFinite] using h
  · next h =>
    rw [hfull, not_not] at h
    split
    · split <;> simpa [UnpackedFloat.isFinite] using h
    · simpa [UnpackedFloat.isFinite] using h

/-- A finite pattern is kept as it is. -/
theorem toBits_ofBits {b : UInt32} (h : b.toNat % 0x80000000 < infinityBits) :
    (Float32.ofBits b).toBits = b := by
  have hnan : ¬ @isNaNBits Format.binary32 b.toBitVec := by
    simp only [isNaNBits, decide_eq_true_eq]
    exact fun hnan => (unpackExponent_eq_iff _).1 hnan.1 h
  have hpack := @pack_unpack Format.binary32 b.toBitVec
  rw [if_neg hnan] at hpack
  exact UInt32.toBitVec_inj.1 hpack

/-- Comparing the other way round gives the opposite answer. -/
theorem compare_swap (a b : UnpackedFloat) :
    b.compare a = (a.compare b).map Ordering.swap := by
  have hsize (e e' : Int) (m m' : Nat) : (compare e' e).then (compare m' m) =
      ((compare e e').then (compare m m')).swap := by
    rw [Ordering.swap_then, ← Std.OrientedCmp.eq_swap, ← Std.OrientedCmp.eq_swap]
  cases a with
  | notANumber => cases b <;> rfl
  | infinity s =>
    cases b with
    | infinity s' => cases s <;> cases s' <;> rfl
    | _ => cases s <;> rfl
  | zero s =>
    cases b with
    | notANumber => rfl
    | zero s' => rfl
    | infinity s' => cases s' <;> rfl
    | finite s' m' e' hm' => cases s' <;> rfl
  | finite s m e hm =>
    cases b with
    | notANumber => cases s <;> rfl
    | infinity s' => cases s <;> cases s' <;> rfl
    | zero s' => cases s <;> rfl
    | finite s' m' e' hm' =>
      cases s <;> cases s' <;> simp [UnpackedFloat.compare, hsize e e' m m']

theorem compare_isSome {a b : UnpackedFloat} (ha : a.isFinite = true) (hb : b.isFinite = true) :
    ∃ o, a.compare b = some o := by
  cases a with
  | notANumber => cases ha
  | infinity s => cases ha
  | zero s =>
    cases b with
    | notANumber => cases hb
    | infinity s' => cases hb
    | zero s' => exact ⟨_, rfl⟩
    | finite s' m' e' hm' => cases s' <;> exact ⟨_, rfl⟩
  | finite s m e hm =>
    cases b with
    | notANumber => cases hb
    | infinity s' => cases hb
    | zero s' => cases s <;> exact ⟨_, rfl⟩
    | finite s' m' e' hm' => cases s <;> cases s' <;> exact ⟨_, rfl⟩

theorem lt_iff_compare {x y : Float32} :
    x < y ↔ x.toModel.unpack.compare y.toModel.unpack = some .lt := by
  have hlt : x < y ↔ x.toModel.unpack.lt y.toModel.unpack = true := decide_eq_true_iff
  rw [hlt, UnpackedFloat.lt, beq_iff_eq]

/-- Of two finite numbers, one is at most the other unless it is greater. -/
theorem le_iff_not_lt {x y : Float32} (hx : x.isFinite = true) (hy : y.isFinite = true) :
    x ≤ y ↔ ¬ y < x := by
  obtain ⟨o, ho⟩ := compare_isSome hy hx
  have hswap := compare_swap y.toModel.unpack x.toModel.unpack
  rw [ho] at hswap
  have hle : x ≤ y ↔ x.toModel.unpack.le y.toModel.unpack = true := decide_eq_true_iff
  rw [hle, lt_iff_compare, UnpackedFloat.le, hswap, ho]
  cases o <;> decide

theorem le_refl {x : Float32} (hx : x.isFinite = true) : x ≤ x := by
  rw [le_iff_not_lt hx hx, lt_iff_compare]
  intro hlt
  have hswap := compare_swap x.toModel.unpack x.toModel.unpack
  rw [hlt] at hswap
  cases hswap

theorem isFinite_ofMagnitude (negative : Bool) {bits : Nat} (h : bits < infinityBits) :
    (ofMagnitude negative bits).isFinite = true := by
  unfold infinityBits at h
  have hpattern : (UInt32.ofNat (if negative then 0x80000000 + bits else bits)).toNat %
      0x80000000 = bits := by
    rw [UInt32.toNat_ofNat']
    split <;> omega
  rw [isFinite_iff, ofMagnitude, toBits_ofBits] <;>
  · rw [hpattern]
    exact h

end Single

/-- A number within the range is left as it is. -/
theorem limit_eq {low high x : Float32} (hlow : low.isFinite = true) (hhigh : high.isFinite = true)
    (hx : x.isFinite = true) (hlow_le : low ≤ x) (hle_high : x ≤ high) : limit low high x = x := by
  rw [Single.le_iff_not_lt hlow hx] at hlow_le
  rw [Single.le_iff_not_lt hx hhigh] at hle_high
  rw [limit, if_neg hlow_le, if_neg hle_high]

/-- A finite number is brought into the range. -/
theorem limit_mem {low high x : Float32} (hlow : low.isFinite = true)
    (hhigh : high.isFinite = true) (hx : x.isFinite = true) (hbounds : low ≤ high) :
    (limit low high x).isFinite = true ∧ low ≤ limit low high x ∧ limit low high x ≤ high := by
  unfold limit
  split
  · exact ⟨hlow, Single.le_refl hlow, hbounds⟩
  · next hlt =>
    split
    · exact ⟨hhigh, hbounds, Single.le_refl hhigh⟩
    · next hgt =>
      exact ⟨hx, (Single.le_iff_not_lt hlow hx).2 hlt, (Single.le_iff_not_lt hx hhigh).2 hgt⟩

end TickDesktop
