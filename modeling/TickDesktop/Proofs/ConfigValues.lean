import TickDesktop.Config.Value
import TickDesktop.Proofs.SingleText

/-!
# Values of a configuration read back

Each kind of value admits a range. What is read is always in the range, and what is in the range is
read back from its text. No text of a value has a blank in it, so a reader finds nothing to cut off.
-/
namespace TickDesktop

open Text

/-! ## Colors -/

/-- The eight digits of a pixel. -/
def pixelDigits (p : Pixel) : List Char := (zeroFill 8 (digits 16 p.toNat)).map Char.toUpper

/-- Letters of either case denote the same number. -/
theorem natural?_map_toUpper {radix : Nat} {s : List Char}
    (hs : ∀ c ∈ s, digitValue? radix c.toUpper = digitValue? radix c) :
    natural? radix (s.map Char.toUpper) = natural? radix s := by
  have hfold (start : Nat) :
      (s.map Char.toUpper).foldlM (fun n c => (digitValue? radix c).map (n * radix + ·)) start =
        s.foldlM (fun n c => (digitValue? radix c).map (n * radix + ·)) start := by
    induction s generalizing start with
    | nil => rfl
    | cons c s ih =>
      have hrest := ih fun d hd => hs d (List.mem_cons_of_mem c hd)
      rw [List.map_cons, List.foldlM_cons, List.foldlM_cons, hs c List.mem_cons_self]
      congr 1
      funext n
      exact hrest n
  rw [natural?, natural?, List.isEmpty_map, hfold]

theorem length_pixelDigits (p : Pixel) : (pixelDigits p).length = 8 := by
  have hlt := p.toNat_lt
  rw [pixelDigits, List.length_map]
  apply length_zeroFill
  by_cases h0 : p.toNat = 0
  · simp [h0, digits]
  · have h2 : 2 ≤ 16 := by omega
    have hpow := pow_length_digits_le h2 h0
    have hlen : 16 ^ (digits 16 p.toNat).length < 16 ^ 9 := by omega
    exact Nat.le_of_lt_succ ((Nat.pow_lt_pow_iff_right (by omega)).1 hlen)

/-- Every digit of a pixel is an upper case digit. -/
theorem forall_mem_pixelDigits {P : Char → Prop} (hP : ∀ v < 16, P (digit v).toUpper) (p : Pixel) :
    ∀ c ∈ pixelDigits p, P c := by
  intro c hc
  obtain ⟨d, hd, rfl⟩ := List.mem_map.1 hc
  have hdigits : ∀ d ∈ digits 16 p.toNat, P d.toUpper :=
    forall_mem_digits (P := (P ·.toUpper)) (by omega) hP p.toNat
  exact forall_mem_zeroFill (P := (P ·.toUpper)) (hP 0 (by omega)) hdigits 8 d hd

theorem word?_pixelDigits (p : Pixel) : word? 16 (pixelDigits p) = some p.toNat := by
  have hplus : ∀ v < 16, (digit v).toUpper ≠ '+' := by decide
  have hupper : ∀ c ∈ zeroFill 8 (digits 16 p.toNat),
      digitValue? 16 c.toUpper = digitValue? 16 c := by
    have hdigit : ∀ v < 16, digitValue? 16 (digit v).toUpper = digitValue? 16 (digit v) := by
      decide
    exact forall_mem_zeroFill (by decide) (forall_mem_digits (by omega) hdigit p.toNat) 8
  apply word?_of_natural? (forall_mem_pixelDigits hplus p) _ p.toNat_lt
  rw [pixelDigits, natural?_map_toUpper hupper, natural?_zeroFill (by omega)
    (digits_ne_nil 16 p.toNat)]
  exact natural?_digits (by omega) (by omega) p.toNat

theorem solid_color (p : Pixel) : Solid ('0' :: 'x' :: pixelDigits p) := by
  have hblank : ∀ v < 16, isBlank (digit v).toUpper = false := by decide
  have hmark : Solid ['0', 'x'] := .of_all (by decide)
  exact hmark.append (forall_mem_pixelDigits hblank p)

/-- The text of a color is read as the pixel of the color. -/
theorem color?_pixelDigits (p : Pixel) : Config.color? ('0' :: 'x' :: pixelDigits p) = some p := by
  rw [Config.color?, (solid_color p).trim_eq]
  change (word? 16 (pixelDigits p)).map _ = _
  rw [word?_pixelDigits, Option.map_some, length_pixelDigits, if_neg (by omega),
    UInt32.ofNat_toNat]

theorem toList_color (p : Pixel) : ("0x" ++ upperHexadecimal 8 p.toNat).toList =
    '0' :: 'x' :: pixelDigits p := by
  simp [upperHexadecimal, pixelDigits]

namespace Config.Kind

/-- The values that a configuration text can give. -/
def Admits : (k : Kind) → k.Value → Prop
  | extent, n => 1 ≤ n ∧ n ≤ 8192
  | rate, n => 1 ≤ n ∧ n ≤ 1000
  | slots, n => 1 ≤ n ∧ n ≤ 256
  | coordinate, v => -0x80000000 ≤ v ∧ v < 0x80000000
  | speed, x => x.isFinite = true ∧ 0 ≤ x ∧ x ≤ 100
  | threshold, _ | switch, _ | color, _ => True

/-- What is read is in the range. -/
theorem admits_of_read? {k : Kind} {s : List Char} {v : k.Value} (h : k.read? s = some v) :
    k.Admits v := by
  have hclamp {low high : Nat} (hle : low ≤ high) {n : Nat}
      (h : (number? s).map (clamp low high) = some n) : low ≤ n ∧ n ≤ high := by
    obtain ⟨m, -, rfl⟩ := Option.map_eq_some_iff.1 h
    unfold clamp
    omega
  cases k with
  | threshold | switch | color => trivial
  | extent => exact hclamp (by omega) h
  | rate => exact hclamp (by omega) h
  | slots => exact hclamp (by omega) h
  | coordinate =>
    obtain ⟨-, hrange⟩ := Option.filter_eq_some_iff.1 h
    exact of_decide_eq_true (p := -0x80000000 ≤ v ∧ v < 0x80000000) hrange
  | speed =>
    obtain ⟨x, hx, rfl⟩ := Option.map_eq_some_iff.1 h
    exact limit_mem rfl rfl (Single.isFinite_of_read? hx) (by decide +kernel)

/-- The text of a value has no blanks. -/
theorem solid_write {k : Kind} {v : k.Value} (h : k.Admits v) : Solid (k.write v).toList := by
  cases k with
  | threshold =>
    have hname (t : Log.Threshold) : Solid t.name.toList := by
      cases t with
      | off => exact .of_all (by decide)
      | upTo l => cases l <;> exact .of_all (by decide)
    exact hname v
  | extent => exact solid_decimal v
  | rate => exact solid_decimal v
  | slots => exact solid_decimal v
  | coordinate => exact solid_signedDecimal v
  | switch =>
    cases v with
    | false => exact .of_all (by decide)
    | true => exact .of_all (by decide)
  | speed =>
    rw [write, String.toList_ofList]
    exact Single.solid_text h.1
  | color =>
    rw [write, toList_color]
    exact solid_color v.toPixel

/-- A value in the range is read back. -/
theorem read?_write {k : Kind} {v : k.Value} (h : k.Admits v) :
    k.read? (k.write v).toList = some v := by
  have hnumber {n : Nat} (hn : n ≤ 8192) : number? (decimal n).toList = some n := by
    rw [number?, (solid_decimal n).trim_eq, decimal, String.toList_ofList]
    exact word?_digits (by omega)
  have hclamp {low high n : Nat} (hlow : low ≤ n) (hhigh : n ≤ high) : clamp low high n = n := by
    unfold clamp
    omega
  cases k with
  | threshold => exact Log.Threshold.ofName?_name v
  | extent =>
    obtain ⟨hlow, hhigh⟩ := h
    rw [read?, write, hnumber hhigh, Option.map_some, hclamp hlow hhigh]
  | rate =>
    obtain ⟨hlow, hhigh⟩ := h
    rw [read?, write, hnumber (hhigh.trans (by decide)), Option.map_some, hclamp hlow hhigh]
  | slots =>
    obtain ⟨hlow, hhigh⟩ := h
    rw [read?, write, hnumber (hhigh.trans (by decide)), Option.map_some, hclamp hlow hhigh]
  | coordinate =>
    rw [read?, write, (solid_signedDecimal v).trim_eq]
    exact signedWord?_signedDecimal h.1 h.2
  | switch =>
    cases v with
    | false => decide +kernel
    | true => decide +kernel
  | speed =>
    obtain ⟨hfinite, hlow, hhigh⟩ := h
    rw [read?, write, String.toList_ofList, (Single.solid_text hfinite).trim_eq,
      Single.read?_text hfinite, Option.map_some, limit_eq rfl rfl hfinite hlow hhigh]
  | color =>
    rw [read?, write, toList_color, color?_pixelDigits, Option.map_some, Color.ofPixel_toPixel]

end Config.Kind

end TickDesktop
