import TickDesktop.Proofs.ByteReader

/-!
# Spellings of a color

A color is spelled by hexadecimal digits after `0x` or `#`, or by a decimal number. The grammar here
is written from the digits up and says nothing about how a text is read. The reader accepts every
spelling and gives it its color. It accepts a little more: where it reads a whole number it lets a
plus sign stand before the digits, which counts as one of them wherever their count matters. It does
not where it reads a single digit.
-/
namespace TickDesktop

namespace Text

/-! ## Numerals -/

/-- A digit of a radix up to sixteen, in lower or upper case, and what it stands for. -/
def IsDigit (radix : Nat) (c : Char) (v : Nat) : Prop :=
  v < radix ∧ (c = digit v ∨ c = (digit v).toUpper)

/-- One or more digits and the number that they denote. -/
inductive Numeral (radix : Nat) : List Char → Nat → Prop
  | single {c : Char} {v : Nat} (hc : IsDigit radix c v) : Numeral radix [c] v
  | snoc {s : List Char} {n : Nat} {c : Char} {v : Nat} (hs : Numeral radix s n)
      (hc : IsDigit radix c v) : Numeral radix (s ++ [c]) (n * radix + v)

/-- A numeral that may have a plus sign before it. -/
def PlusNumeral (radix : Nat) (s : List Char) (n : Nat) : Prop :=
  Numeral radix s n ∨ ∃ t, s = '+' :: t ∧ Numeral radix t n

variable {radix n v : Nat} {s : List Char} {c : Char}

/-- A smaller radix has the first ones of the digits. -/
theorem digitValue?_eq_some_iff_lt :
    digitValue? radix c = some v ↔ digitValue? 16 c = some v ∧ v < radix := by
  unfold digitValue?
  dsimp only
  grind

theorem digitValue?_eq_some_iff (h16 : radix ≤ 16) :
    digitValue? radix c = some v ↔ IsDigit radix c v := by
  have hspelled : ∀ m < 128, ∀ w < 16, digitValue? 16 (Char.ofNat m) = some w →
      Char.ofNat m = digit w ∨ Char.ofNat m = (digit w).toUpper := by decide +kernel
  have hupper : ∀ w < 16, digitValue? 16 (digit w).toUpper = some w := by decide
  rw [digitValue?_eq_some_iff_lt, IsDigit, and_comm]
  refine and_congr_right fun hlt => ⟨fun h => ?_, ?_⟩
  · have hascii := Config.isAscii_of_digitValue? h
    rw [← Char.ofNat_toNat c] at h ⊢
    exact hspelled c.toNat hascii v (by omega) h
  · rintro (rfl | rfl)
    · exact digitValue?_digit (by omega) (by omega)
    · exact hupper v (by omega)

theorem natural?_singleton (radix : Nat) (c : Char) : natural? radix [c] = digitValue? radix c := by
  simp [natural?]

/-- One more digit at the end. -/
theorem natural?_concat (hs : s ≠ []) (radix : Nat) (c : Char) : natural? radix (s ++ [c]) =
    (natural? radix s).bind fun n => (digitValue? radix c).map (n * radix + ·) := by
  rw [natural?, natural?, if_neg (by simp), if_neg (by simpa using hs), List.foldlM_append]
  simp only [List.foldlM_cons, List.foldlM_nil, bind_pure, Option.bind_eq_bind]

theorem natural?_eq_some_iff (h16 : radix ≤ 16) :
    natural? radix s = some n ↔ Numeral radix s n := by
  constructor
  · intro h
    induction s using List.reverseRecOn generalizing n with
    | nil => cases h
    | append_singleton s c ih =>
      rcases eq_or_ne s [] with rfl | hs
      · rw [List.nil_append, natural?_singleton] at h
        exact .single ((digitValue?_eq_some_iff h16).1 h)
      · rw [natural?_concat hs] at h
        obtain ⟨m, hm, h⟩ := Option.bind_eq_some_iff.1 h
        obtain ⟨v, hv, rfl⟩ := Option.map_eq_some_iff.1 h
        exact .snoc (ih hm) ((digitValue?_eq_some_iff h16).1 hv)
  · intro h
    induction h with
    | single hc => rw [natural?_singleton, (digitValue?_eq_some_iff h16).2 hc]
    | @snoc s n c v hs hc ih =>
      have hne : s ≠ [] := by
        rintro rfl
        cases ih
      rw [natural?_concat hne, ih, (digitValue?_eq_some_iff h16).2 hc]
      rfl

/-- A numeral has nothing but digits. -/
theorem Numeral.isDigit_of_mem (h : Numeral radix s n) : ∀ c ∈ s, ∃ v, IsDigit radix c v := by
  induction h with
  | single hc => exact List.forall_mem_singleton.2 ⟨_, hc⟩
  | snoc hs hc ih => exact List.forall_mem_append.2 ⟨ih, List.forall_mem_singleton.2 ⟨_, hc⟩⟩

theorem Numeral.lt_pow (h : Numeral radix s n) : n < radix ^ s.length := by
  induction h with
  | single hc => simpa using hc.1
  | @snoc s n c v hs hc ih =>
    have hdigit := hc.1
    calc n * radix + v < (n + 1) * radix := by rw [Nat.succ_mul]; omega
      _ ≤ radix ^ s.length * radix := Nat.mul_le_mul_right radix ih
      _ = radix ^ (s ++ [c]).length := by rw [List.length_append, List.length_singleton, pow_succ]

theorem not_isDigit_plus (h16 : radix ≤ 16) : ¬ IsDigit radix '+' v := by
  rw [← digitValue?_eq_some_iff h16, digitValue?_eq_some_iff_lt]
  rintro ⟨h, -⟩
  cases h

theorem Numeral.plus_not_mem (h16 : radix ≤ 16) (h : Numeral radix s n) : '+' ∉ s := by
  intro hmem
  obtain ⟨v, hv⟩ := h.isDigit_of_mem _ hmem
  exact not_isDigit_plus h16 hv

theorem unsigned?_eq_some_iff (h16 : radix ≤ 16) :
    unsigned? radix s = some n ↔ PlusNumeral radix s n := by
  rw [PlusNumeral]
  by_cases hplus : ∃ t, s = '+' :: t
  · obtain ⟨t, rfl⟩ := hplus
    have hnot : ¬ Numeral radix ('+' :: t) n := fun h => h.plus_not_mem h16 List.mem_cons_self
    rw [unsigned?, natural?_eq_some_iff h16]
    simp [hnot]
  · have hnot : ¬ ∃ t, s = '+' :: t ∧ Numeral radix t n := by
      rintro ⟨t, ht, -⟩
      exact hplus ⟨t, ht⟩
    rw [unsigned?.eq_2 radix s fun t ht => hplus ⟨t, ht⟩, natural?_eq_some_iff h16,
      or_iff_left hnot]

theorem word?_eq_some_iff (h16 : radix ≤ 16) :
    word? radix s = some n ↔ PlusNumeral radix s n ∧ n < 2 ^ 32 := by
  rw [word?, Option.filter_eq_some_iff, unsigned?_eq_some_iff h16, decide_eq_true_iff]
  exact Iff.rfl

theorem map_word?_eq_some_iff (h16 : radix ≤ 16) {f : Nat → Pixel} {p : Pixel} :
    (word? radix s).map f = some p ↔ ∃ n, (PlusNumeral radix s n ∧ n < 2 ^ 32) ∧ f n = p := by
  simp only [Option.map_eq_some_iff, word?_eq_some_iff h16]

theorem PlusNumeral.lt_pow (hpos : 0 < radix) (h : PlusNumeral radix s n) :
    n < radix ^ s.length := by
  rcases h with h | ⟨t, rfl, h⟩
  · exact h.lt_pow
  · exact Nat.lt_of_lt_of_le h.lt_pow (Nat.pow_le_pow_right hpos (Nat.le_succ _))

/-- Without a plus sign in it, it is a numeral as it stands. -/
theorem numeral_iff_plusNumeral (h16 : radix ≤ 16) :
    Numeral radix s n ↔ PlusNumeral radix s n ∧ '+' ∉ s := by
  constructor
  · exact fun h => ⟨.inl h, h.plus_not_mem h16⟩
  · rintro ⟨h | ⟨t, rfl, -⟩, hplus⟩
    · exact h
    · exact absurd List.mem_cons_self hplus

end Text

namespace Config

open Text

/-! ## Colors -/

/-- The pixel of a number with an opaque alpha in place of its own. -/
def opaquePixel (n : Nat) : Pixel := ((Color.ofPixel (.ofNat n)).withAlpha 255).toPixel

/-- A spelling of a color, with what counts as a numeral left open. -/
inductive Spelling (Num : Nat → List Char → Nat → Prop) : List Char → Pixel → Prop
  | marked {x : Char} {hex : List Char} {n : Nat} (hx : x = 'x' ∨ x = 'X') (hn : Num 16 hex n)
      (hlt : n < 2 ^ 32) :
      Spelling Num ('0' :: x :: hex) (if hex.length ≤ 6 then opaquePixel n else .ofNat n)
  | channels {r g b : Char} {red green blue : Nat} (hr : IsDigit 16 r red)
      (hg : IsDigit 16 g green) (hb : IsDigit 16 b blue) :
      Spelling Num ['#', r, g, b]
        (Color.rgb (.ofNat (red * 17)) (.ofNat (green * 17)) (.ofNat (blue * 17))).toPixel
  | solid {hex : List Char} {n : Nat} (hn : Num 16 hex n) (hsix : hex.length = 6) :
      Spelling Num ('#' :: hex) (opaquePixel n)
  | whole {hex : List Char} {n : Nat} (hn : Num 16 hex n) (height : hex.length = 8) :
      Spelling Num ('#' :: hex) (.ofNat n)
  | decimal {s : List Char} {n : Nat} (hn : Num 10 s n) (hlt : n < 2 ^ 32) :
      Spelling Num s (.ofNat n)

theorem toNat_opaquePixel {n : Nat} (hn : n < 2 ^ 32) :
    (opaquePixel n).toNat = 0xFF000000 + n % 0x1000000 := by
  rw [opaquePixel, Color.toNat_toPixel]
  simp only [Color.withAlpha, Color.ofPixel, Pixel.red, Pixel.green, Pixel.blue,
    UInt32.toNat_toUInt8, UInt32.toNat_div, UInt32.toNat_mod, UInt32.toNat_ofNat_of_lt' hn,
    UInt32.reduceToNat, UInt8.reduceToNat]
  omega

/-- Setting the bits of the alpha makes a number opaque. -/
theorem ofNat_or_alpha {n : Nat} (hn : n < 2 ^ 32) :
    UInt32.ofNat (0xFF000000 ||| n) = opaquePixel n := by
  have hall : ∀ high < 256, 255 ||| high = 255 := by decide +kernel
  have hlow : n % 2 ^ 24 < 2 ^ 24 := Nat.mod_lt n (by decide)
  have hor : 2 ^ 24 * 255 ||| n = 2 ^ 24 * 255 + n % 2 ^ 24 := by
    calc 2 ^ 24 * 255 ||| n = 2 ^ 24 * 255 ||| (2 ^ 24 * (n / 2 ^ 24) + n % 2 ^ 24) := by
          rw [Nat.div_add_mod]
      _ = 2 ^ 24 * (255 ||| n / 2 ^ 24) ||| n % 2 ^ 24 := by
          rw [Nat.two_pow_add_eq_or_of_lt hlow, ← Nat.or_assoc]
          simp only [Nat.mul_comm (2 ^ 24), ← Nat.shiftLeft_eq, Nat.shiftLeft_or_distrib]
      _ = 2 ^ 24 * 255 + n % 2 ^ 24 := by
          rw [hall _ (by omega), Nat.two_pow_add_eq_or_of_lt hlow]
  have hlt : 0xFF000000 + n % 2 ^ 24 < 2 ^ 32 := by omega
  rw [← UInt32.toNat_inj, toNat_opaquePixel hn, show 0xFF000000 ||| n = _ from hor]
  exact UInt32.toNat_ofNat_of_lt' hlt

/-- Three channels of one digit each make an opaque color. -/
theorem ofNat_or_channels {r g b : Nat} (hr : r < 16) (hg : g < 16) (hb : b < 16) :
    UInt32.ofNat (0xFF000000 ||| (r * 17 * 0x10000 + g * 17 * 0x100 + b * 17)) =
      (Color.rgb (.ofNat (r * 17)) (.ofNat (g * 17)) (.ofNat (b * 17))).toPixel := by
  have hchannel {d : Nat} (hd : d < 16) : (UInt8.ofNat (d * 17)).toNat = d * 17 :=
    UInt8.toNat_ofNat_of_lt' (show d * 17 < 256 by omega)
  have hlow : r * 17 * 0x10000 + g * 17 * 0x100 + b * 17 < 0x1000000 := by omega
  rw [ofNat_or_alpha (by omega), ← UInt32.toNat_inj, toNat_opaquePixel (by omega),
    Nat.mod_eq_of_lt hlow, Color.toNat_toPixel]
  simp only [Color.rgb, hchannel hr, hchannel hg, hchannel hb, UInt8.reduceToNat]
  omega

/-! ## Reading -/

section Reading

variable {s t : List Char} {p : Pixel}

theorem color?_of_marked {x : Char} {hex : List Char} (hx : x = 'x' ∨ x = 'X')
    (h : trim s = '0' :: x :: hex) : color? s = (word? 16 hex).map fun n =>
      if hex.length ≤ 6 then UInt32.ofNat (0xFF000000 ||| n) else UInt32.ofNat n := by
  rcases hx with rfl | rfl
  · rw [color?, h]
    rfl
  · rw [color?, h]
    rfl

theorem color?_of_no_mark (hx : ∀ hex, trim s ≠ '0' :: 'x' :: hex)
    (hX : ∀ hex, trim s ≠ '0' :: 'X' :: hex) (hhash : ∀ hex, trim s ≠ '#' :: hex) :
    color? s = (word? 10 (trim s)).map UInt32.ofNat := by
  rw [color?]
  split
  · next hex h => exact absurd h (hx hex)
  · next hex h => exact absurd h (hX hex)
  · next hex h => exact absurd h (hhash hex)
  · rfl

theorem threeDigits?_eq_some_iff {r g b : Char} :
    threeDigits? (digitValue? 16 r) (digitValue? 16 g) (digitValue? 16 b) = some p ↔
      ∃ red green blue, (IsDigit 16 r red ∧ IsDigit 16 g green ∧ IsDigit 16 b blue) ∧
        (Color.rgb (.ofNat (red * 17)) (.ofNat (green * 17)) (.ofNat (blue * 17))).toPixel = p := by
  simp only [threeDigits?, Option.bind_eq_bind, Option.bind_eq_some_iff, Option.pure_def,
    Option.some_inj, digitValue?_eq_some_iff (Nat.le_refl 16)]
  constructor
  · rintro ⟨red, hr, green, hg, blue, hb, rfl⟩
    exact ⟨red, green, blue, ⟨hr, hg, hb⟩, (ofNat_or_channels hr.1 hg.1 hb.1).symm⟩
  · rintro ⟨red, green, blue, ⟨hr, hg, hb⟩, rfl⟩
    exact ⟨red, hr, green, hg, blue, hb, ofNat_or_channels hr.1 hg.1 hb.1⟩

/-- What is accepted is a spelling in which numerals may have a plus sign. -/
theorem spelling_of_color? (h : color? s = some p) : Spelling PlusNumeral (trim s) p := by
  have hsixteen : 16 ≤ 16 := Nat.le_refl 16
  by_cases hmark : ∃ x hex, (x = 'x' ∨ x = 'X') ∧ trim s = '0' :: x :: hex
  · obtain ⟨x, hex, hx, ht⟩ := hmark
    rw [color?_of_marked hx ht] at h
    obtain ⟨n, ⟨hn, hlt⟩, rfl⟩ := (map_word?_eq_some_iff hsixteen).1 h
    rw [ht, ofNat_or_alpha hlt]
    exact .marked hx hn hlt
  by_cases hhash : ∃ hex, trim s = '#' :: hex
  · obtain ⟨hex, ht⟩ := hhash
    by_cases hthree : hex.length = 3
    · obtain ⟨r, g, b, rfl⟩ := List.length_eq_three.1 hthree
      rw [color?_of_three ht] at h
      obtain ⟨red, green, blue, ⟨hr, hg, hb⟩, rfl⟩ := threeDigits?_eq_some_iff.1 h
      rw [ht]
      exact .channels hr hg hb
    · rw [color?_of_not_three ht hthree] at h
      split at h
      · obtain ⟨n, ⟨hn, hlt⟩, rfl⟩ := (map_word?_eq_some_iff hsixteen).1 h
        rw [ht, ofNat_or_alpha hlt]
        exact .solid hn ‹_›
      · rw [Option.ite_none_right_eq_some] at h
        obtain ⟨height, h⟩ := h
        obtain ⟨n, ⟨hn, -⟩, rfl⟩ := (map_word?_eq_some_iff hsixteen).1 h
        rw [ht]
        exact .whole hn height
  · rw [color?_of_no_mark (fun hex ht => hmark ⟨'x', hex, .inl rfl, ht⟩)
      (fun hex ht => hmark ⟨'X', hex, .inr rfl, ht⟩) fun hex ht => hhash ⟨hex, ht⟩] at h
    obtain ⟨n, ⟨hn, hlt⟩, rfl⟩ := (map_word?_eq_some_iff (by omega)).1 h
    exact .decimal hn hlt

/-- A decimal numeral has nothing but decimal digits and a plus sign, and so no mark of a color. -/
theorem isDecimal_of_mem {n : Nat} (h : PlusNumeral 10 t n) {c : Char} (hc : c ∈ t) :
    c = '+' ∨ (digitValue? 10 c).isSome := by
  have hdigit {u : List Char} (h : Numeral 10 u n) (hc : c ∈ u) : (digitValue? 10 c).isSome := by
    obtain ⟨v, hv⟩ := h.isDigit_of_mem c hc
    exact Option.isSome_of_eq_some ((digitValue?_eq_some_iff (by omega)).2 hv)
  rcases h with h | ⟨u, rfl, h⟩
  · exact .inr (hdigit h hc)
  · exact (List.mem_cons.1 hc).imp_right (hdigit h)

theorem color?_of_spelling (h : Spelling PlusNumeral (trim s) p) : color? s = some p := by
  have hsixteen : 16 ≤ 16 := Nat.le_refl 16
  generalize ht : trim s = t at h
  cases h with
  | marked hx hn hlt =>
    rw [color?_of_marked hx ht, ← ofNat_or_alpha hlt]
    exact (map_word?_eq_some_iff hsixteen).2 ⟨_, ⟨hn, hlt⟩, rfl⟩
  | channels hr hg hb =>
    rw [color?_of_three ht]
    exact threeDigits?_eq_some_iff.2 ⟨_, _, _, ⟨hr, hg, hb⟩, rfl⟩
  | solid hn hsix =>
    have hlt := hn.lt_pow (by omega)
    rw [hsix] at hlt
    rw [color?_of_not_three ht (by omega), if_pos hsix, ← ofNat_or_alpha (by omega)]
    exact (map_word?_eq_some_iff hsixteen).2 ⟨_, ⟨hn, by omega⟩, rfl⟩
  | whole hn height =>
    have hlt := hn.lt_pow (by omega)
    rw [height] at hlt
    rw [color?_of_not_three ht (by omega), if_neg (by omega), if_pos height]
    exact (map_word?_eq_some_iff hsixteen).2 ⟨_, ⟨hn, by omega⟩, rfl⟩
  | decimal hn hlt =>
    have hmem {c : Char} (hc : c ∈ trim s) := isDecimal_of_mem hn (ht ▸ hc)
    rw [color?_of_no_mark, ht]
    · exact (map_word?_eq_some_iff (by omega)).2 ⟨_, ⟨hn, hlt⟩, rfl⟩
    · intro hex hmark
      exact absurd (hmem (c := 'x') (by simp [hmark])) (by decide)
    · intro hex hmark
      exact absurd (hmem (c := 'X') (by simp [hmark])) (by decide)
    · intro hex hmark
      exact absurd (hmem (c := '#') (by simp [hmark])) (by decide)

theorem color?_eq_some_iff : color? s = some p ↔ Spelling PlusNumeral (trim s) p :=
  ⟨spelling_of_color?, color?_of_spelling⟩

/-- A spelling by digits is one in which numerals may have a plus sign and none has. -/
theorem spelling_numeral_iff :
    Spelling Numeral t p ↔ Spelling PlusNumeral t p ∧ '+' ∉ t := by
  have hsixteen : 16 ≤ 16 := Nat.le_refl 16
  have hten : 10 ≤ 16 := by omega
  have hdigit {c : Char} {v : Nat} (hc : IsDigit 16 c v) : '+' ≠ c := by
    rintro rfl
    exact not_isDigit_plus hsixteen hc
  constructor
  · intro h
    cases h with
    | @marked x hex n hx hn hlt =>
      refine ⟨.marked hx (.inl hn) hlt, ?_⟩
      have hmark : '+' ≠ x := by rcases hx with rfl | rfl <;> decide
      simp [hmark, hn.plus_not_mem hsixteen]
    | channels hr hg hb =>
      exact ⟨.channels hr hg hb, by simp [hdigit hr, hdigit hg, hdigit hb]⟩
    | solid hn hsix => exact ⟨.solid (.inl hn) hsix, by simp [hn.plus_not_mem hsixteen]⟩
    | whole hn height => exact ⟨.whole (.inl hn) height, by simp [hn.plus_not_mem hsixteen]⟩
    | decimal hn hlt => exact ⟨.decimal (.inl hn) hlt, hn.plus_not_mem hten⟩
  · rintro ⟨h, hplus⟩
    have hdigits {hex : List Char} {n : Nat} (hn : PlusNumeral 16 hex n) (hhex : '+' ∉ hex) :
        Numeral 16 hex n := (numeral_iff_plusNumeral hsixteen).2 ⟨hn, hhex⟩
    cases h with
    | marked hx hn hlt => exact .marked hx (hdigits hn fun hmem => hplus (by simp [hmem])) hlt
    | channels hr hg hb => exact .channels hr hg hb
    | solid hn hsix => exact .solid (hdigits hn fun hmem => hplus (by simp [hmem])) hsix
    | whole hn height => exact .whole (hdigits hn fun hmem => hplus (by simp [hmem])) height
    | decimal hn hlt => exact .decimal ((numeral_iff_plusNumeral hten).2 ⟨hn, hplus⟩) hlt

/-- A color is read from exactly the texts that spell one when a plus sign may stand before the
digits of a number, and it is the color that the text spells. Those without a plus sign are exactly
the spellings by digits. No text is cut inside a character. -/
theorem color_read_from_spelling (s : List Char) (p : Pixel) :
    (color? s = some p ↔ Spelling PlusNumeral (trim s) p) ∧
      (Spelling Numeral (trim s) p ↔ color? s = some p ∧ '+' ∉ trim s) ∧
      colorByBytes? s = some (color? s) := by
  refine ⟨color?_eq_some_iff, ?_, colorByBytes?_eq s⟩
  rw [color?_eq_some_iff]
  exact spelling_numeral_iff

/-- Texts with a plus sign are read as colors that no digits spell: a decimal number, six digits
that are not made opaque because the sign counts as a seventh, and five digits that pass for six. -/
theorem color_read_without_spelling :
    (color? "+255".toList = some 255 ∧ ∀ p, ¬ Spelling Numeral (trim "+255".toList) p) ∧
      (color? "0x+123456".toList = some 0x123456 ∧
        ∀ p, ¬ Spelling Numeral (trim "0x+123456".toList) p) ∧
      color? "#+12345".toList = some 0xFF012345 ∧
        ∀ p, ¬ Spelling Numeral (trim "#+12345".toList) p := by
  have hnot (t : List Char) (hplus : '+' ∈ t) (p : Pixel) : ¬ Spelling Numeral t p :=
    fun h => (spelling_numeral_iff.1 h).2 hplus
  exact ⟨⟨by decide, hnot _ (by decide)⟩, ⟨by decide, hnot _ (by decide)⟩, by decide,
    hnot _ (by decide)⟩

end Reading

end Config

end TickDesktop
