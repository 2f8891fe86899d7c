import TickDesktop.Proofs.Numerals
import TickDesktop.Proofs.Rounding
import TickDesktop.Proofs.SingleOrder
import TickDesktop.Single.Shortest

/-!
# The text of a number reads back

Every candidate that the search for the shortest decimal accepts was read back before, so the text
is right if the search ends with an accepted candidate. It does: on the grid of the smallest
exponent every number is met exactly, and the search gets there in time. Writing a decimal by
position and reading it gives a decimal of the same value.
-/
namespace TickDesktop.Single

open Text

/-! ## The size of a number -/

theorem magnitude_pos {bits : Nat} (hbits : bits < infinityBits) (h0 : bits ≠ 0) :
    0 < magnitude bits := by
  obtain ⟨-, hfull, -, -, hback⟩ := significand_spec hbits
  have hm : 0 < (significand bits).1 := by omega
  rw [magnitude]
  positivity

theorem le_magnitude {bits : Nat} (hbits : bits < infinityBits) (h0 : bits ≠ 0) :
    (2 : ℚ) ^ (-149 : Int) ≤ magnitude bits := by
  obtain ⟨-, hfull, he, -, hback⟩ := significand_spec hbits
  have hm : 1 ≤ (significand bits).1 := by omega
  have hm' : (1 : ℚ) ≤ (significand bits).1 := by exact_mod_cast hm
  have hpow := zpow_le_zpow_right₀ (one_le_two (α := ℚ)) he
  rw [magnitude]
  calc (2 : ℚ) ^ (-149 : Int) ≤ 2 ^ (significand bits).2 := hpow
    _ ≤ (significand bits).1 * 2 ^ (significand bits).2 :=
      le_mul_of_one_le_left (by positivity) hm'

theorem magnitude_lt {bits : Nat} (hbits : bits < infinityBits) :
    magnitude bits < 2 ^ (128 : Int) := by
  obtain ⟨hm, -, -, he, -⟩ := significand_spec hbits
  have hm' : ((significand bits).1 : ℚ) < 2 ^ (24 : Int) := by exact_mod_cast hm
  have hpow := zpow_le_zpow_right₀ (one_le_two (α := ℚ)) he
  rw [magnitude]
  calc (significand bits).1 * (2 : ℚ) ^ (significand bits).2
      < 2 ^ (24 : Int) * 2 ^ (significand bits).2 := by gcongr
    _ ≤ 2 ^ (24 : Int) * 2 ^ (104 : Int) := by gcongr
    _ = 2 ^ (128 : Int) := by norm_num

/-! ## Exact decimals -/

/-- The number of places tells the size of a decimal up to a factor of ten. -/
theorem between_places {n : Nat} (hn : n ≠ 0) (e : Int) :
    (n : ℚ) * 10 ^ e < 10 ^ ((digits 10 n).length + e) ∧
      (10 : ℚ) ^ ((digits 10 n).length + e) ≤ 10 * (n * 10 ^ e) := by
  have hunit : (0 : ℚ) < 10 ^ e := by positivity
  have h2 : 2 ≤ 10 := by omega
  have hlt : (n : ℚ) < 10 ^ (digits 10 n).length := by
    exact_mod_cast lt_pow_length_digits h2 n
  have hle : (10 : ℚ) ^ (digits 10 n).length ≤ 10 * n := by
    exact_mod_cast pow_length_digits_le h2 hn
  rw [zpow_add₀ (by norm_num), zpow_natCast, ← mul_assoc]
  constructor
  · gcongr
  · gcongr

/-- A decimal that is a number has neither too many places nor too few to be looked at. -/
theorem places_of_magnitude {bits n : Nat} {e : Int} (hbits : bits < infinityBits) (h0 : bits ≠ 0)
    (hn : n ≠ 0) (h : (n : ℚ) * 10 ^ e = magnitude bits) :
    -60 ≤ ((digits 10 n).length : Int) + e ∧ ((digits 10 n).length : Int) + e ≤ 60 := by
  obtain ⟨hlt, hle⟩ := between_places hn e
  rw [h] at hlt hle
  have hten : (1 : ℚ) < 10 := by norm_num
  constructor
  · apply le_of_lt
    rw [← zpow_lt_zpow_iff_right₀ hten]
    calc (10 : ℚ) ^ (-60 : Int) < 2 ^ (-149 : Int) := by norm_num
      _ ≤ magnitude bits := le_magnitude hbits h0
      _ < 10 ^ (((digits 10 n).length : Int) + e) := hlt
  · apply Int.le_of_lt_add_one
    rw [← zpow_lt_zpow_iff_right₀ hten]
    calc (10 : ℚ) ^ (((digits 10 n).length : Int) + e) ≤ 10 * magnitude bits := hle
      _ < 10 * 2 ^ (128 : Int) := by
        gcongr
        exact magnitude_lt hbits
      _ < 10 ^ (60 + 1 : Int) := by norm_num

/-- A decimal that is a number exactly is read as that number. -/
theorem decimalBits_of_magnitude {bits n : Nat} {e : Int} (hbits : bits < infinityBits)
    (h0 : bits ≠ 0) (h : (n : ℚ) * 10 ^ e = magnitude bits) : decimalBits n e = bits := by
  have hn : n ≠ 0 := by
    rintro rfl
    have hpos := magnitude_pos hbits h0
    rw [← h, Nat.cast_zero, zero_mul] at hpos
    exact lt_irrefl 0 hpos
  obtain ⟨hlow, hhigh⟩ := places_of_magnitude hbits h0 hn h
  cases e with
  | ofNat k =>
    have hread : decimalBits n (.ofNat k) = nearestBits (n * Nat.pow 10 k) 1 := by
      unfold decimalBits
      rw [if_neg hn, if_neg (Int.not_lt.2 hhigh), if_neg (Int.not_lt.2 hlow)]
    rw [hread]
    apply nearestBits_of_magnitude hbits one_ne_zero
    rw [← h]
    simp
  | negSucc k =>
    have hread : decimalBits n (.negSucc k) = nearestBits n (Nat.pow 10 (k + 1)) := by
      unfold decimalBits
      rw [if_neg hn, if_neg (Int.not_lt.2 hhigh), if_neg (Int.not_lt.2 hlow)]
    rw [hread]
    apply nearestBits_of_magnitude hbits (by simp)
    rw [← h, zpow_negSucc]
    simp [div_eq_mul_inv]

/-! ## The search -/

/-- What is accepted on a grid was read back. -/
theorem onGrid?_reads {bits n d c : Nat} {p : Int} (h : onGrid? bits n d p = some c) :
    decimalBits c p = bits := by
  unfold onGrid? at h
  dsimp only at h
  split at h
  · next hlow hhigh =>
    -- both neighbours read back, whichever is nearer
    obtain rfl := Option.some.inj h
    split
    · exact eq_of_beq hhigh
    · exact eq_of_beq hlow
  · next hlow hhigh =>
    obtain rfl := Option.some.inj h
    exact eq_of_beq hlow
  · next hlow hhigh =>
    obtain rfl := Option.some.inj h
    exact eq_of_beq hhigh
  · cases h

/-- A number that lies on a grid is met there. -/
theorem onGrid?_of_dvd {bits n d j : Nat} (hbits : bits < infinityBits) (h0 : bits ≠ 0)
    (hd : d ≠ 0) (hdvd : d ∣ n * 10 ^ (j + 1)) (h : (n : ℚ) / d = magnitude bits) :
    (onGrid? bits n d (.negSucc j)).isSome := by
  have hlow : decimalBits (unitsOf n d (.negSucc j)).1 (.negSucc j) = bits := by
    apply decimalBits_of_magnitude hbits h0
    have hd' : (d : ℚ) ≠ 0 := by exact_mod_cast hd
    change ((n * 10 ^ (j + 1) / d : Nat) : ℚ) * _ = _
    rw [Nat.cast_div hdvd hd', ← h, zpow_negSucc]
    push_cast
    field_simp
  unfold onGrid?
  dsimp only
  rw [hlow, beq_self_eq_true]
  split
  · rfl
  · rfl
  · next hfalse _ => cases hfalse
  · next hfalse _ => cases hfalse

/-- A search that meets a hit in time ends with one. -/
theorem search_reads {bits n d fuel : Nat} {p : Int}
    (hhit : ∃ k < fuel, (onGrid? bits n d (p - (k : Nat))).isSome) :
    decimalBits (search bits n d fuel p).1 (search bits n d fuel p).2 = bits := by
  induction fuel generalizing p with
  | zero =>
    obtain ⟨k, hk, -⟩ := hhit
    exact absurd hk (Nat.not_lt_zero k)
  | succ fuel ih =>
    unfold search
    cases hc : onGrid? bits n d p with
    | some c => exact onGrid?_reads hc
    | none =>
      obtain ⟨k, hk, hsome⟩ := hhit
      cases k with
      | zero => simp [hc] at hsome
      | succ k =>
        apply ih
        refine ⟨k, Nat.lt_of_succ_lt_succ hk, ?_⟩
        convert hsome using 3
        omega

/-- The whole part of a number has at most fifty digits. -/
theorem length_digits_div_le {bits n d : Nat} (hbits : bits < infinityBits) (hd : d ≠ 0)
    (hle : d ≤ n) (h : (n : ℚ) / d = magnitude bits) : (digits 10 (n / d)).length ≤ 50 := by
  have hquot : n / d ≠ 0 := (Nat.div_pos hle (Nat.pos_of_ne_zero hd)).ne'
  obtain ⟨-, hplaces⟩ := between_places hquot 0
  rw [add_zero, zpow_zero, mul_one, zpow_natCast] at hplaces
  have hfloor : ((n / d : Nat) : ℚ) ≤ magnitude bits := h ▸ Nat.cast_div_le
  apply Nat.le_of_lt_succ
  rw [← pow_lt_pow_iff_right₀ (show (1 : ℚ) < 10 by norm_num)]
  calc (10 : ℚ) ^ (digits 10 (n / d)).length ≤ 10 * (n / d : Nat) := hplaces
    _ ≤ 10 * magnitude bits := by gcongr
    _ < 10 * 2 ^ (128 : Int) := by
      gcongr
      exact magnitude_lt hbits
    _ < 10 ^ (50 + 1) := by norm_num

/-- The search starts near enough to the grid of the smallest exponent to get there. -/
theorem search_from_top {bits n d : Nat} (hbits : bits < infinityBits) (h0 : bits ≠ 0)
    (hd : d ≠ 0) (hdvd : d ∣ n * 10 ^ 149) (h : (n : ℚ) / d = magnitude bits) :
    let found := search bits n d 200 (if n < d then 0 else ((digits 10 (n / d)).length : Nat))
    decimalBits found.1 found.2 = bits := by
  have hhit : (onGrid? bits n d (-149)).isSome := onGrid?_of_dvd hbits h0 hd hdvd h
  apply search_reads
  split
  · refine ⟨149, by omega, ?_⟩
    simpa using hhit
  · next hlt =>
    have htop := length_digits_div_le hbits hd (Nat.le_of_not_lt hlt) h
    have hdiff (len : Nat) : (len : Int) - (len + 149 : Nat) = -149 := by omega
    refine ⟨(digits 10 (n / d)).length + 149, by omega, ?_⟩
    rwa [hdiff]

/-- The shortest decimal of a pattern is read as that pattern. -/
theorem shortestDigits_reads {bits : Nat} (hbits : bits < infinityBits) :
    decimalBits (shortestDigits bits).1 (shortestDigits bits).2 = bits := by
  by_cases h0 : bits = 0
  · subst h0
    rfl
  · obtain ⟨-, -, he, -, -⟩ := significand_spec hbits
    have hmagnitude : magnitude bits = (significand bits).1 * 2 ^ (significand bits).2 := rfl
    unfold shortestDigits
    rw [if_neg h0]
    rcases hsig : significand bits with ⟨m, e⟩
    rw [hsig] at he hmagnitude
    dsimp only at he hmagnitude ⊢
    cases e with
    | ofNat k =>
      apply search_from_top hbits h0 one_ne_zero (one_dvd _)
      rw [hmagnitude]
      simp
    | negSucc k =>
      have hk : k + 1 ≤ 149 := by omega
      have hdvd : 2 ^ (k + 1) ∣ m * 10 ^ 149 := by
        apply Dvd.dvd.mul_left
        exact (pow_dvd_pow 2 hk).trans (pow_dvd_pow_of_dvd (by norm_num) 149)
      apply search_from_top hbits h0 (by simp) hdvd
      rw [hmagnitude, zpow_negSucc]
      simp [div_eq_mul_inv]

/-! ## Writing by position -/

theorem isDigit_digit : ∀ v < 10, isDigit (digit v) = true := by decide

theorem isDigit_digits (n : Nat) : ∀ c ∈ digits 10 n, isDigit c = true :=
  forall_mem_digits (by omega) isDigit_digit n

theorem isDigit_zeroFill_digits (width n : Nat) :
    ∀ c ∈ zeroFill width (digits 10 n), isDigit c = true :=
  forall_mem_zeroFill (by decide) (isDigit_digits n) width

theorem unsignedDecimal?_whole {s : List Char} (hs : ∀ c ∈ s, isDigit c = true) {n : Nat}
    (hn : natural? 10 s = some n) (negative : Bool) :
    unsignedDecimal? negative s = some ⟨negative, n, 0⟩ := by
  have htake : s.takeWhile isDigit = s := List.takeWhile_eq_self_iff.2 hs
  have hdrop : s.dropWhile isDigit = [] := List.dropWhile_eq_nil_iff.2 hs
  simp [unsignedDecimal?, htake, hdrop, hn]

theorem unsignedDecimal?_point {whole fraction : List Char}
    (hwhole : ∀ c ∈ whole, isDigit c = true) (hfraction : ∀ c ∈ fraction, isDigit c = true)
    {n : Nat} (hn : natural? 10 (whole ++ fraction) = some n) (negative : Bool) :
    unsignedDecimal? negative (whole ++ '.' :: fraction) =
      some ⟨negative, n, -fraction.length⟩ := by
  have hpoint : isDigit '.' = false := by decide
  have htake : (whole ++ '.' :: fraction).takeWhile isDigit = whole := by
    rw [List.takeWhile_append_of_pos hwhole]
    simp [hpoint]
  have hdrop : (whole ++ '.' :: fraction).dropWhile isDigit = '.' :: fraction := by
    rw [List.dropWhile_append_of_pos hwhole]
    simp [hpoint]
  have htake' : fraction.takeWhile isDigit = fraction := List.takeWhile_eq_self_iff.2 hfraction
  have hdrop' : fraction.dropWhile isDigit = [] := List.dropWhile_eq_nil_iff.2 hfraction
  simp [unsignedDecimal?, htake, hdrop, htake', hdrop', hn]

/-- Zeros behind the digits and an exponent mean the same. -/
theorem decimalBits_mul_pow {n : Nat} (hn : n ≠ 0) (k : Nat) :
    decimalBits (n * 10 ^ k) 0 = decimalBits n (.ofNat k) := by
  have hmul : n * 10 ^ k ≠ 0 := by positivity
  unfold decimalBits
  rw [if_neg hmul, if_neg hn, digits_mul_pow (by omega) hn, List.length_append,
    List.length_replicate]
  have hplaces : (((digits 10 n).length + k : Nat) : Int) + 0 =
      (digits 10 n).length + Int.ofNat k := by simp
  dsimp only
  rw [hplaces]
  simp

/-- A decimal written by position is read as a decimal of the same value. -/
theorem unsignedDecimal?_positional {n : Nat} (hn : n ≠ 0) (e : Int) (negative : Bool) :
    ∃ n' e', unsignedDecimal? negative (positional n e) = some ⟨negative, n', e'⟩ ∧
      decimalBits n' e' = decimalBits n e := by
  cases e with
  | ofNat k =>
    refine ⟨n * 10 ^ k, 0, ?_, decimalBits_mul_pow hn k⟩
    have hdigits : positional n (.ofNat k) = digits 10 (n * 10 ^ k) :=
      (digits_mul_pow (by omega) hn k).symm
    rw [hdigits]
    exact unsignedDecimal?_whole (isDigit_digits _) (natural?_digits (by omega) (by omega) _) _
  | negSucc k =>
    refine ⟨n, .negSucc k, ?_, rfl⟩
    have hne := digits_ne_nil 10 n
    have hfill := isDigit_zeroFill_digits (k + 1 + 1) n
    have hlen := le_length_zeroFill (k + 1 + 1) (digits 10 n)
    unfold positional
    dsimp only
    generalize hds : zeroFill (k + 1 + 1) (digits 10 n) = ds at hfill hlen ⊢
    rw [unsignedDecimal?_point (n := n)]
    · have hplaces : (ds.drop (ds.length - (k + 1))).length = k + 1 := by
        rw [List.length_drop]
        omega
      rw [hplaces]
      rfl
    · exact fun c hc => hfill c (List.mem_of_mem_take hc)
    · exact fun c hc => hfill c (List.mem_of_mem_drop hc)
    · rw [List.take_append_drop, ← hds, natural?_zeroFill (by omega) hne]
      exact natural?_digits (by omega) (by omega) n

/-- A decimal written by position starts with a digit and has digits and points alone. -/
theorem positional_spec (n : Nat) (e : Int) :
    (∃ c rest, positional n e = c :: rest ∧ isDigit c = true) ∧
      ∀ c ∈ positional n e, isDigit c = true ∨ c = '.' := by
  have hdigits := isDigit_digits n
  cases e with
  | ofNat k =>
    obtain ⟨c, rest, heq⟩ := List.exists_cons_of_ne_nil (digits_ne_nil 10 n)
    refine ⟨⟨c, rest ++ List.replicate k '0', ?_, ?_⟩, fun d hd => .inl ?_⟩
    · rw [positional, heq, List.cons_append]
    · exact hdigits c (heq ▸ List.mem_cons_self)
    · rw [positional, List.mem_append, List.mem_replicate] at hd
      rcases hd with hd | ⟨-, rfl⟩
      · exact hdigits d hd
      · decide
  | negSucc k =>
    have hfill := isDigit_zeroFill_digits (k + 1 + 1) n
    have hlen := le_length_zeroFill (k + 1 + 1) (digits 10 n)
    unfold positional
    dsimp only
    generalize zeroFill (k + 1 + 1) (digits 10 n) = ds at hfill hlen ⊢
    have htake : ds.take (ds.length - (k + 1)) ≠ [] := by
      apply List.ne_nil_of_length_pos
      rw [List.length_take]
      omega
    obtain ⟨c, rest, heq⟩ := List.exists_cons_of_ne_nil htake
    refine ⟨⟨c, rest ++ '.' :: ds.drop (ds.length - (k + 1)), ?_, ?_⟩, fun d hd => ?_⟩
    · rw [heq, List.cons_append]
    · exact hfill c (List.mem_of_mem_take (heq ▸ List.mem_cons_self))
    · rw [List.mem_append, List.mem_cons] at hd
      rcases hd with hd | rfl | hd
      · exact .inl (hfill d (List.mem_of_mem_take hd))
      · exact .inr rfl
      · exact .inl (hfill d (List.mem_of_mem_drop hd))

/-! ## Texts -/

/-- The digits of a finite pattern, by position. -/
def digitsText (bits : Nat) : List Char :=
  if (shortestDigits bits).1 = 0 then ['0']
  else positional (shortestDigits bits).1 (shortestDigits bits).2

theorem text_of_isFinite {x : Float32} (hx : x.isFinite = true) : text x =
    (if 0x80000000 ≤ x.toBits.toNat then ['-'] else []) ++
      digitsText (x.toBits.toNat % 0x80000000) := by
  rw [isFinite_iff] at hx
  unfold text
  dsimp only
  rw [if_neg (by omega), if_neg (by omega), digitsText]

/-- The digits of a pattern are read as a decimal that denotes the pattern. -/
theorem unsignedDecimal?_digitsText {bits : Nat} (hbits : bits < infinityBits) (negative : Bool) :
    ∃ n e, unsignedDecimal? negative (digitsText bits) = some ⟨negative, n, e⟩ ∧
      decimalBits n e = bits := by
  have hreads := shortestDigits_reads hbits
  by_cases hn : (shortestDigits bits).1 = 0
  · refine ⟨0, 0, ?_, ?_⟩
    · rw [digitsText, if_pos hn]
      cases negative <;> decide
    · rw [hn] at hreads
      rw [← hreads]
      rfl
  · obtain ⟨n, e, hread, hsame⟩ :=
      unsignedDecimal?_positional hn (shortestDigits bits).2 negative
    refine ⟨n, e, ?_, hsame.trans hreads⟩
    rw [digitsText, if_neg hn, hread]

theorem digitsText_spec (bits : Nat) :
    (∃ c rest, digitsText bits = c :: rest ∧ isDigit c = true) ∧
      ∀ c ∈ digitsText bits, isDigit c = true ∨ c = '.' := by
  unfold digitsText
  split
  · exact ⟨⟨'0', [], rfl, by decide⟩, by simp; decide⟩
  · exact positional_spec _ _

/-- Without a sign in front the whole text is the decimal. -/
theorem ofChars?_of_isDigit {c : Char} (hc : isDigit c = true) (rest : List Char) :
    Decimal.ofChars? (c :: rest) = unsignedDecimal? false (c :: rest) := by
  have hminus : isDigit '-' = false := by decide
  have hplus : isDigit '+' = false := by decide
  unfold Decimal.ofChars?
  split
  · next h => simp_all
  · next h => simp_all
  · rfl

/-- The text of a finite number is read as that number. -/
theorem read?_text {x : Float32} (hx : x.isFinite = true) : read? (text x) = some x := by
  have hbits := (isFinite_iff x).1 hx
  have hlt := x.toBits.toNat_lt
  obtain ⟨c, rest, heq, hc⟩ := (digitsText_spec (x.toBits.toNat % 0x80000000)).1
  obtain ⟨n, e, hread, hsame⟩ :=
    unsignedDecimal?_digitsText hbits (decide (0x80000000 ≤ x.toBits.toNat))
  have hofChars : Decimal.ofChars? (text x) =
      some ⟨decide (0x80000000 ≤ x.toBits.toNat), n, e⟩ := by
    rw [text_of_isFinite hx, ← hread]
    by_cases hsign : 0x80000000 ≤ x.toBits.toNat
    · rw [if_pos hsign, decide_eq_true hsign]
      rfl
    · rw [if_neg hsign, decide_eq_false hsign, heq]
      exact ofChars?_of_isDigit hc rest
  have hpattern : (if decide (0x80000000 ≤ x.toBits.toNat) = true then
      0x80000000 + x.toBits.toNat % 0x80000000 else x.toBits.toNat % 0x80000000) =
        x.toBits.toNat := by
    simp only [decide_eq_true_eq]
    split <;> omega
  rw [read?, hofChars, Option.bind_eq_bind, Option.bind_some]
  dsimp only
  rw [hsame, if_pos hbits, ofMagnitude, hpattern, UInt32.ofNat_toNat, Float32.ofBits_toBits]

/-- A number that was read is finite. -/
theorem isFinite_of_read? {s : List Char} {x : Float32} (h : read? s = some x) :
    x.isFinite = true := by
  rw [read?, Option.bind_eq_bind, Option.bind_eq_some_iff] at h
  obtain ⟨d, -, h⟩ := h
  dsimp only at h
  split at h
  · next hbits =>
    obtain rfl := Option.some.inj h
    exact isFinite_ofMagnitude d.negative hbits
  · cases h

theorem isBlank_of_isDigit {c : Char} (h : isDigit c = true) : isBlank c = false := by
  have hrange : 48 ≤ c.toNat ∧ c.toNat ≤ 57 := by
    unfold isDigit digitValue? at h
    grind
  simp [isBlank]
  omega

theorem solid_text {x : Float32} (hx : x.isFinite = true) : Solid (text x) := by
  obtain ⟨⟨c, rest, heq, -⟩, hchars⟩ := digitsText_spec (x.toBits.toNat % 0x80000000)
  have hbody : ∀ c ∈ digitsText (x.toBits.toNat % 0x80000000), isBlank c = false := by
    intro d hd
    rcases hchars d hd with hdigit | rfl
    · exact isBlank_of_isDigit hdigit
    · decide
  rw [text_of_isFinite hx]
  refine ⟨by simp [heq], fun d hd => ?_⟩
  rw [List.mem_append] at hd
  rcases hd with hsign | hd
  · split at hsign
    · obtain rfl := List.mem_singleton.1 hsign
      decide
    · cases hsign
  · exact hbody d hd

end TickDesktop.Single
