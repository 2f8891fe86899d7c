import Mathlib.Algebra.Group.Nat.Defs
import TickDesktop.Text.Blank
import TickDesktop.Text.Numeral

/-!
# Numerals read back

The numeral of a number is as long as its size demands, and consists of digits alone. So it stays
what it is when a reader cuts blanks from its ends. Zeros in front of a numeral do not count, and
zeros behind it multiply the number by powers of the radix.
-/
namespace TickDesktop.Text

/-! ## Length -/

/-- A number has no more than its digits can hold. -/
theorem lt_pow_length_digits {radix : Nat} (h2 : 2 ≤ radix) (n : Nat) :
    n < radix ^ (digits radix n).length := by
  induction n using Nat.strongRecOn with
  | ind n ih =>
    rw [digits]
    split
    · next h =>
      have hdiv := ih (n / radix) (Nat.div_lt_self (by omega) (by omega))
      rw [List.length_append, List.length_singleton, Nat.pow_succ]
      exact (Nat.div_lt_iff_lt_mul (by omega)).1 hdiv
    · next h =>
      rw [List.length_singleton, Nat.pow_one]
      omega

/-- A number other than zero needs all its digits. -/
theorem pow_length_digits_le {radix n : Nat} (h2 : 2 ≤ radix) (hn : n ≠ 0) :
    radix ^ (digits radix n).length ≤ radix * n := by
  induction n using Nat.strongRecOn with
  | ind n ih =>
    rw [digits]
    split
    · next h =>
      have hdiv : n / radix ≠ 0 := by
        have := Nat.div_pos h.1 (by omega)
        omega
      have hle := ih (n / radix) (Nat.div_lt_self (by omega) (by omega)) hdiv
      rw [List.length_append, List.length_singleton, Nat.pow_succ, Nat.mul_comm]
      exact Nat.mul_le_mul_left radix (Nat.le_trans hle (Nat.mul_div_le n radix))
    · next h =>
      rw [List.length_singleton, Nat.pow_one]
      exact Nat.le_mul_of_pos_right radix (by omega)

/-- Multiplying by the radix puts a zero behind the numeral. -/
theorem digits_mul_pow {radix n : Nat} (h2 : 2 ≤ radix) (hn : n ≠ 0) (k : Nat) :
    digits radix (n * radix ^ k) = digits radix n ++ List.replicate k '0' := by
  induction k with
  | zero => simp
  | succ k ih =>
    have hpos : 0 < n * radix ^ k := Nat.mul_pos (by omega) (Nat.pow_pos (by omega))
    have hsucc : n * radix ^ (k + 1) = n * radix ^ k * radix := by
      rw [Nat.pow_succ, Nat.mul_assoc]
    have hle : radix ≤ n * radix ^ k * radix := Nat.le_mul_of_pos_left radix hpos
    rw [hsucc, digits, dif_pos ⟨hle, h2⟩, Nat.mul_div_cancel _ (by omega), ih,
      Nat.mul_mod_left, List.replicate_succ', List.append_assoc]
    rfl

/-! ## Reading -/

theorem natural?_zero_cons {radix : Nat} (h2 : 2 ≤ radix) {s : List Char} (hs : s ≠ []) :
    natural? radix ('0' :: s) = natural? radix s := by
  have hzero : digitValue? radix '0' = some 0 := by
    simp [digitValue?]
    omega
  simp [natural?, hs, hzero]

/-- Zeros in front of a numeral do not change what it denotes. -/
theorem natural?_zeroFill {radix : Nat} (h2 : 2 ≤ radix) {s : List Char} (hs : s ≠ [])
    (width : Nat) : natural? radix (zeroFill width s) = natural? radix s := by
  rw [zeroFill]
  induction width - s.length with
  | zero => rfl
  | succ k ih =>
    rw [List.replicate_succ, List.cons_append, natural?_zero_cons h2 (by simp [hs]), ih]

theorem length_zeroFill {width : Nat} {s : List Char} (h : s.length ≤ width) :
    (zeroFill width s).length = width := by
  rw [zeroFill, List.length_append, List.length_replicate]
  omega

theorem forall_mem_zeroFill {P : Char → Prop} {s : List Char} (h0 : P '0') (hs : ∀ c ∈ s, P c)
    (width : Nat) : ∀ c ∈ zeroFill width s, P c := by
  intro c hc
  rw [zeroFill, List.mem_append, List.mem_replicate] at hc
  rcases hc with ⟨-, rfl⟩ | hc
  · exact h0
  · exact hs c hc

theorem le_length_zeroFill (width : Nat) (s : List Char) : width ≤ (zeroFill width s).length := by
  rw [zeroFill, List.length_append, List.length_replicate]
  omega

/-- What holds of the digits below the radix holds of every character of a numeral. -/
theorem forall_mem_digits {radix : Nat} (h2 : 2 ≤ radix) {P : Char → Prop}
    (hP : ∀ v < radix, P (digit v)) (n : Nat) : ∀ c ∈ digits radix n, P c := by
  induction n using Nat.strongRecOn with
  | ind n ih =>
    rw [digits]
    split
    · next h =>
      intro c hc
      rw [List.mem_append, List.mem_singleton] at hc
      rcases hc with hc | rfl
      · exact ih (n / radix) (Nat.div_lt_self (by omega) (by omega)) c hc
      · exact hP _ (Nat.mod_lt n (by omega))
    · next h =>
      intro c hc
      rw [List.mem_singleton] at hc
      subst c
      exact hP n (by omega)

/-! ## Texts without blanks -/

/-- The text has characters, and none of them is blank. -/
structure Solid (s : List Char) : Prop where
  ne_nil : s ≠ []
  not_blank : ∀ c ∈ s, isBlank c = false

theorem trimStart_of_head {c : Char} (h : isBlank c = false) (s : List Char) :
    trimStart (c :: s) = c :: s := by
  simp [trimStart, h]

theorem trimEnd_of_last {c : Char} (h : isBlank c = false) (s : List Char) :
    trimEnd (s ++ [c]) = s ++ [c] := by
  simp [trimEnd, h]

theorem trim_space_cons (s : List Char) : trim (' ' :: s) = trim s := by
  have hspace : isBlank ' ' = true := by decide
  simp [trim, trimStart, hspace]

theorem trimEnd_append_space (s : List Char) : trimEnd (s ++ [' ']) = trimEnd s := by
  have hspace : isBlank ' ' = true := by decide
  simp [trimEnd, hspace]

namespace Solid

variable {s t : List Char}

theorem exists_head (hs : Solid s) : ∃ c rest, s = c :: rest ∧ isBlank c = false := by
  obtain ⟨c, rest, rfl⟩ := List.exists_cons_of_ne_nil hs.ne_nil
  exact ⟨c, rest, rfl, hs.not_blank c List.mem_cons_self⟩

theorem exists_last (hs : Solid s) : ∃ rest c, s = rest ++ [c] ∧ isBlank c = false := by
  obtain ⟨rest, c, rfl⟩ := (List.eq_nil_or_concat s).resolve_left hs.ne_nil
  exact ⟨rest, c, List.concat_eq_append, hs.not_blank c (by simp)⟩

theorem of_all (h : (!s.isEmpty && s.all (!isBlank ·)) = true) : Solid s := by
  simp only [Bool.and_eq_true, Bool.not_eq_true', List.all_eq_true, List.isEmpty_eq_false_iff] at h
  exact ⟨h.1, h.2⟩

theorem append (hs : Solid s) (ht : ∀ c ∈ t, isBlank c = false) : Solid (s ++ t) := by
  refine ⟨by simp [hs.ne_nil], fun c hc => ?_⟩
  rw [List.mem_append] at hc
  exact hc.elim (hs.not_blank c) (ht c)

/-- Between two texts without blanks there is nothing to cut off. -/
theorem trim_between (hs : Solid s) (ht : Solid t) (mid : List Char) :
    trim (s ++ mid ++ t) = s ++ mid ++ t := by
  obtain ⟨c, start, rfl, hc⟩ := hs.exists_head
  obtain ⟨stop, d, rfl, hd⟩ := ht.exists_last
  rw [trim, List.cons_append, List.cons_append, trimStart_of_head hc, ← List.append_assoc,
    ← List.cons_append, trimEnd_of_last hd]

theorem trim_eq (hs : Solid s) : trim s = s := by
  obtain ⟨c, rest, rfl, hc⟩ := hs.exists_head
  rw [trim, trimStart_of_head hc]
  obtain ⟨start, d, heq, hd⟩ := hs.exists_last
  rw [heq, trimEnd_of_last hd]

theorem trim_append_space (hs : Solid s) : trim (s ++ [' ']) = s := by
  obtain ⟨c, rest, rfl, hc⟩ := hs.exists_head
  rw [trim, List.cons_append, trimStart_of_head hc, ← List.cons_append, trimEnd_append_space]
  have htrim := hs.trim_eq
  rwa [trim, trimStart_of_head hc] at htrim

end Solid

theorem solid_digits {radix : Nat} (h2 : 2 ≤ radix) (h16 : radix ≤ 16) (n : Nat) :
    Solid (digits radix n) := by
  have hdigit : ∀ v < 16, isBlank (digit v) = false := by decide
  exact ⟨digits_ne_nil radix n, forall_mem_digits h2 (fun v hv => hdigit v (by omega)) n⟩

/-! ## Words -/

/-- No digit is a sign. -/
theorem ne_sign_of_mem_digits {radix : Nat} (h2 : 2 ≤ radix) (h16 : radix ≤ 16) (n : Nat) :
    ∀ c ∈ digits radix n, c ≠ '+' ∧ c ≠ '-' := by
  have hdigit : ∀ v < 16, digit v ≠ '+' ∧ digit v ≠ '-' := by decide
  exact forall_mem_digits h2 (fun v hv => hdigit v (by omega)) n

/-- A numeral without a plus sign is read as a word if its number is one. -/
theorem word?_of_natural? {radix n : Nat} {s : List Char} (hs : ∀ c ∈ s, c ≠ '+')
    (hn : natural? radix s = some n) (hlt : n < 0x100000000) : word? radix s = some n := by
  have hunsigned : unsigned? radix s = some n := by
    unfold unsigned?
    split
    · exact absurd rfl (hs '+' List.mem_cons_self)
    · exact hn
  simp [word?, hunsigned, hlt]

theorem word?_digits {n : Nat} (hn : n < 0x100000000) : word? 10 (digits 10 n) = some n :=
  word?_of_natural? (fun c hc => (ne_sign_of_mem_digits (by omega) (by omega) n c hc).1)
    (natural?_digits (by omega) (by omega) n) hn

theorem solid_decimal (n : Nat) : Solid (decimal n).toList := by
  rw [decimal, String.toList_ofList]
  exact solid_digits (by omega) (by omega) n

theorem toList_signedDecimal_negSucc (n : Nat) :
    (signedDecimal (.negSucc n)).toList = '-' :: digits 10 (n + 1) := by
  simp [signedDecimal, decimal]

theorem solid_signedDecimal (v : Int) : Solid (signedDecimal v).toList := by
  cases v with
  | ofNat n => exact solid_decimal n
  | negSucc n =>
    rw [toList_signedDecimal_negSucc]
    have hminus : Solid ['-'] := .of_all (by decide)
    exact hminus.append (solid_digits (by omega) (by omega) (n + 1)).not_blank

/-- A signed numeral is read back if it is in the range of a signed word. -/
theorem signedWord?_signedDecimal {v : Int} (hlow : -0x80000000 ≤ v) (hhigh : v < 0x80000000) :
    signedWord? (signedDecimal v).toList = some v := by
  have h2 : 2 ≤ 10 := by omega
  have h16 : 10 ≤ 16 := by omega
  cases v with
  | ofNat n =>
    have hread := natural?_digits h2 h16 n
    have hsign := ne_sign_of_mem_digits h2 h16 n
    rw [signedDecimal, decimal, String.toList_ofList]
    unfold signedWord?
    split
    · next h => exact absurd rfl (hsign '-' (h ▸ List.mem_cons_self)).2
    · next h => exact absurd rfl (hsign '+' (h ▸ List.mem_cons_self)).1
    · rw [hread]
      exact Option.filter_some_pos (decide_eq_true ⟨hlow, hhigh⟩)
  | negSucc n =>
    have hread := natural?_digits h2 h16 (n + 1)
    rw [toList_signedDecimal_negSucc, signedWord?, hread]
    exact Option.filter_some_pos (decide_eq_true ⟨hlow, hhigh⟩)

end TickDesktop.Text
