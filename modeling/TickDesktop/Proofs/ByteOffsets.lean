import Mathlib.Algebra.GroupWithZero.Nat
import TickDesktop.Text.Blank

/-!
# Byte offsets

A reader of text in UTF-8 that finds its way by byte offsets can cut a text only between two
characters: an offset that lies inside a character or past the end gives nothing. The offsets that
come from lengths of pieces of the text are those where a cut succeeds. In a text of characters of
one byte each, offsets and bytes go with the characters one by one.
-/
namespace TickDesktop.Text

/-- The number of bytes of a text in UTF-8. -/
def byteLength (s : List Char) : Nat := (s.map Char.utf8Size).sum

/-- A text cut in two at a byte offset. -/
def cut? : Nat → List Char → Option (List Char × List Char)
  | 0, s => some ([], s)
  | _ + 1, [] => none
  | n + 1, c :: s =>
    if c.utf8Size ≤ n + 1 then
      (cut? (n + 1 - c.utf8Size) s).map fun (before, after) => (c :: before, after)
    else none

/-- The piece of a text between two byte offsets. -/
def slice? (s : List Char) (low high : Nat) : Option (List Char) :=
  if low ≤ high then do
    let (_, s) ← cut? low s
    let (piece, _) ← cut? (high - low) s
    return piece
  else none

/-- The byte offset at which a character stands for the first time. -/
def offset? (c : Char) : List Char → Option Nat
  | [] => none
  | d :: s => if d = c then some 0 else (offset? c s).map (d.utf8Size + ·)

/-- The byte offset of the character with a number, counted from zero. -/
def offsetAt? : Nat → List Char → Option Nat
  | _, [] => none
  | 0, _ :: _ => some 0
  | n + 1, c :: s => (offsetAt? n s).map (c.utf8Size + ·)

variable {s before after piece : List Char} {c : Char}

@[simp] theorem byteLength_nil : byteLength [] = 0 := rfl

@[simp] theorem byteLength_cons (c : Char) (s : List Char) :
    byteLength (c :: s) = c.utf8Size + byteLength s := by
  rw [byteLength, List.map_cons, List.sum_cons, byteLength]

@[simp] theorem byteLength_append (s t : List Char) :
    byteLength (s ++ t) = byteLength s + byteLength t := by
  rw [byteLength, List.map_append, List.sum_append, byteLength, byteLength]

theorem cut?_cons {n : Nat} (h : c.utf8Size ≤ n) : cut? n (c :: s) =
    (cut? (n - c.utf8Size) s).map fun (before, after) => (c :: before, after) := by
  have hpos := c.utf8Size_pos
  obtain ⟨n, rfl⟩ : ∃ m, n = m + 1 := ⟨n - 1, by omega⟩
  rw [cut?, if_pos h]

/-- A cut succeeds at the length of what comes before it. -/
theorem cut?_byteLength (before after : List Char) :
    cut? (byteLength before) (before ++ after) = some (before, after) := by
  induction before with
  | nil => rw [byteLength_nil, cut?, List.nil_append]
  | cons c before ih =>
    have hrest : byteLength (c :: before) - c.utf8Size = byteLength before := by
      rw [byteLength_cons, Nat.add_sub_cancel_left]
    rw [List.cons_append, cut?_cons (by simp), hrest, ih, Option.map_some]

/-- A cut succeeds nowhere else. -/
theorem of_cut?_eq_some {n : Nat} (h : cut? n s = some (before, after)) :
    s = before ++ after ∧ byteLength before = n := by
  induction s generalizing n before with
  | nil =>
    cases n with
    | zero =>
      cases h
      exact ⟨rfl, rfl⟩
    | succ n => cases h
  | cons c s ih =>
    cases n with
    | zero =>
      cases h
      exact ⟨rfl, rfl⟩
    | succ n =>
      by_cases hle : c.utf8Size ≤ n + 1
      · rw [cut?_cons hle] at h
        obtain ⟨⟨before', after'⟩, hcut, heq⟩ := Option.map_eq_some_iff.1 h
        obtain ⟨rfl, rfl⟩ := Prod.mk.inj heq
        obtain ⟨rfl, hlength⟩ := ih hcut
        refine ⟨rfl, ?_⟩
        rw [byteLength_cons]
        omega
      · rw [cut?, if_neg hle] at h
        cases h

/-- A slice succeeds just between the lengths of what comes before its two ends. -/
theorem slice?_eq_some_iff {low high : Nat} : slice? s low high = some piece ↔
    ∃ before after, s = before ++ piece ++ after ∧ byteLength before = low ∧
      byteLength (before ++ piece) = high := by
  constructor
  · intro h
    obtain ⟨hle, h⟩ := Option.ite_none_right_eq_some.1 h
    obtain ⟨⟨before, rest⟩, hlow, h⟩ := Option.bind_eq_some_iff.1 h
    obtain ⟨⟨piece', after⟩, hhigh, heq⟩ := Option.bind_eq_some_iff.1 h
    obtain rfl : piece' = piece := Option.some.inj heq
    obtain ⟨rfl, hbefore⟩ := of_cut?_eq_some hlow
    obtain ⟨rfl, hpiece⟩ := of_cut?_eq_some hhigh
    refine ⟨before, after, (List.append_assoc ..).symm, hbefore, ?_⟩
    rw [byteLength_append]
    omega
  · rintro ⟨before, after, rfl, rfl, rfl⟩
    rw [slice?, if_pos (by simp), List.append_assoc, cut?_byteLength]
    dsimp only [bind, Option.bind]
    rw [byteLength_append, Nat.add_sub_cancel_left, cut?_byteLength]
    rfl

theorem slice?_front (s after : List Char) : slice? (s ++ after) 0 (byteLength s) = some s :=
  slice?_eq_some_iff.2 ⟨[], after, rfl, rfl, rfl⟩

theorem slice?_back (before s : List Char) :
    slice? (before ++ s) (byteLength before) (byteLength (before ++ s)) = some s :=
  slice?_eq_some_iff.2 ⟨before, [], by simp, rfl, rfl⟩

theorem offset?_of_not_mem (h : c ∉ s) : offset? c s = none := by
  induction s with
  | nil => rfl
  | cons d s ih =>
    rw [List.mem_cons, not_or] at h
    rw [offset?, if_neg (Ne.symm h.1), ih h.2, Option.map_none]

/-- A character is found at the length of what comes before it. -/
theorem offset?_append (h : c ∉ before) (after : List Char) :
    offset? c (before ++ c :: after) = some (byteLength before) := by
  induction before with
  | nil => exact if_pos rfl
  | cons d before ih =>
    rw [List.mem_cons, not_or] at h
    rw [List.cons_append, offset?, if_neg (Ne.symm h.1), ih h.2, Option.map_some, byteLength_cons]

/-- The character with a number stands at the length of as many characters. -/
theorem offsetAt?_eq (n : Nat) (s : List Char) :
    offsetAt? n s = if n < s.length then some (byteLength (s.take n)) else none := by
  induction s generalizing n with
  | nil => cases n <;> rfl
  | cons c s ih =>
    cases n with
    | zero => rfl
    | succ n =>
      rw [offsetAt?, ih, List.take_succ_cons, byteLength_cons, List.length_cons]
      split <;> simp_all

theorem utf8Size_of_lt (h : c.toNat < 0x80) : c.utf8Size = 1 := by
  rw [Char.utf8Size_eq_one_iff, UInt32.le_iff_toNat_le]
  exact Nat.le_of_lt_succ h

/-- The text consists of characters of one byte. -/
def isAscii (s : List Char) : Bool := s.all (·.toNat < 0x80)

/-- Such a text has as many bytes as characters. -/
theorem byteLength_of_isAscii (h : isAscii s = true) : byteLength s = s.length := by
  induction s with
  | nil => rfl
  | cons c s ih =>
    rw [isAscii, List.all_cons, Bool.and_eq_true_iff] at h
    rw [byteLength_cons, utf8Size_of_lt (of_decide_eq_true h.1), ih h.2, List.length_cons,
      Nat.add_comm]

/-- Its bytes are the codes of its characters. -/
theorem utf8Encode_of_isAscii (h : isAscii s = true) :
    s.utf8Encode = (s.map Char.toUInt8).toByteArray := by
  induction s with
  | nil => rfl
  | cons c s ih =>
    rw [isAscii, List.all_cons, Bool.and_eq_true_iff] at h
    rw [List.utf8Encode_cons, ih h.2, List.utf8Encode_singleton,
      String.utf8EncodeChar_eq_singleton (utf8Size_of_lt (of_decide_eq_true h.1)),
      ← List.toByteArray_append]
    rfl

/-- From its bytes the text is read back. -/
theorem fromUTF8?_of_isAscii (h : isAscii s = true) :
    String.fromUTF8? (s.map Char.toUInt8).toByteArray = some (.ofList s) := by
  rw [← utf8Encode_of_isAscii h, String.fromUTF8?, dif_pos ByteArray.isValidUTF8_utf8Encode]
  rfl

/-- An offset inside a character, one past the end, and a slice with both ends at characters. -/
example : slice? "#é1".toList 1 2 = none ∧ slice? "#é1".toList 1 5 = none ∧
    slice? "#é1".toList 1 3 = some ['é'] := by decide +kernel

end TickDesktop.Text
