import TickDesktop.Proofs.ByteOffsets
import TickDesktop.Proofs.LastAssignment

/-!
# Reading a configuration by byte offsets

The configuration can be read from UTF-8 text with byte offsets for all cuts: a header loses its
first and last byte, an assignment is cut before and after the byte of its equals sign, and a short
color into three single bytes. Such a reader stops when an offset is not one of a character. It
never does, whatever the text, and reads what the reader over characters does.
-/
namespace TickDesktop.Config

open Text

/-! ## Lines -/

/-- The meaning of a line, cut by byte offsets. -/
def Line.ofBytes? (line : List Char) : Option Line :=
  let s := trim line
  if s = [] ∨ s.head? = some '#' ∨ s.head? = some ';' then some .nothing
  else if s.head? = some '[' ∧ s.getLast? = some ']' then
    (slice? s 1 (byteLength s - 1)).map .header
  else match offset? '=' s with
    | none => some .nothing
    | some equals => do
      let key ← slice? s 0 equals
      let value ← slice? s (equals + 1) (byteLength s)
      return .setting (trim key) (trim value)

theorem slice?_header (name : List Char) :
    slice? ('[' :: name ++ [']']) 1 (byteLength ('[' :: name ++ [']']) - 1) = some name := by
  refine slice?_eq_some_iff.2 ⟨['['], [']'], rfl, rfl, ?_⟩
  have hclose : byteLength [']'] = 1 := rfl
  have hopen : '[' :: name ++ [']'] = ['['] ++ name ++ [']'] := rfl
  rw [hopen, byteLength_append _ [']'], hclose, Nat.add_sub_cancel]

/-- No line is cut inside a character. -/
theorem Line.ofBytes?_eq (line : List Char) : ofBytes? line = some (ofChars line) := by
  unfold ofBytes?
  dsimp only
  split
  · next hcomment =>
    have hnothing : ofChars line = .nothing := by
      rcases hcomment with hempty | hmark | hmark
      · rw [ofChars, hempty]
      · obtain ⟨s, hs⟩ := List.head?_eq_some_iff.1 hmark
        exact ofChars_of_comment (.inl hs)
      · obtain ⟨s, hs⟩ := List.head?_eq_some_iff.1 hmark
        exact ofChars_of_comment (.inr hs)
    rw [hnothing]
  · next hcomment =>
    split
    · next hheader =>
      obtain ⟨s, hs⟩ := List.head?_eq_some_iff.1 hheader.1
      have hlast := hheader.2
      rw [hs] at hlast
      -- a lone bracket does not close itself
      obtain ⟨name, rfl⟩ : ∃ name, s = name ++ [']'] := by
        rcases List.eq_nil_or_concat s with rfl | ⟨name, c, rfl⟩
        · cases hlast
        · rw [List.concat_eq_append, ← List.cons_append, List.getLast?_concat] at hlast
          exact ⟨name, by rw [List.concat_eq_append, Option.some.inj hlast]⟩
      have hname : IsHeader line name := hs
      rw [ofChars_eq_header_iff.2 hname, hs]
      exact congrArg (Option.map Line.header) (slice?_header name)
    · next hheader =>
      have hmark (s : List Char) : trim line ≠ '#' :: s ∧ trim line ≠ ';' :: s := by
        constructor <;> intro hs <;> simp [hs] at hcomment
      have hname (name : List Char) : ¬ IsHeader line name := by
        intro hs
        refine hheader ?_
        rw [show trim line = _ from hs]
        exact ⟨rfl, List.getLast?_concat⟩
      rw [ofChars_eq_settingOf hmark hname]
      by_cases hmem : '=' ∈ trim line
      · obtain ⟨before, after, hs, hbefore⟩ := List.eq_append_cons_of_mem hmem
        have hsetting := settingOf_eq_setting_iff.2 ⟨before, after, hs, hbefore, rfl, rfl⟩
        have hvalue := slice?_back (before ++ ['=']) after
        rw [List.append_assoc, List.singleton_append, byteLength_append] at hvalue
        rw [hsetting, hs, offset?_append hbefore]
        dsimp only
        rw [slice?_front]
        have hequals : byteLength ['='] = 1 := rfl
        rw [hequals] at hvalue
        rw [hvalue]
        rfl
      · rw [offset?_of_not_mem hmem, ofChars.settingOf, if_neg hmem]

/-! ## Colors -/

/-- What a digit stands for is a single byte. -/
theorem isAscii_of_digitValue? {radix v : Nat} {c : Char} (h : digitValue? radix c = some v) :
    c.toNat < 0x80 := by
  unfold digitValue? at h
  dsimp only at h
  grind

theorem isAscii_of_natural? {radix n : Nat} {s : List Char} (h : natural? radix s = some n) :
    isAscii s = true := by
  have hfold (start : Nat)
      (h : s.foldlM (fun n c => (digitValue? radix c).map (n * radix + ·)) start = some n) :
      isAscii s = true := by
    clear * - h
    induction s generalizing start with
    | nil => rfl
    | cons c s ih =>
      rw [List.foldlM_cons] at h
      obtain ⟨m, hm, hrest⟩ := Option.bind_eq_some_iff.1 h
      obtain ⟨v, hv, -⟩ := Option.map_eq_some_iff.1 hm
      rw [isAscii, List.all_cons, decide_eq_true (isAscii_of_digitValue? hv)]
      exact ih m hrest
  rw [natural?] at h
  split at h
  · cases h
  · exact hfold 0 h

theorem isAscii_of_word? {radix n : Nat} {s : List Char} (h : word? radix s = some n) :
    isAscii s = true := by
  obtain ⟨h, -⟩ := Option.filter_eq_some_iff.1 h
  unfold unsigned? at h
  split at h
  · next s =>
    rw [isAscii, List.all_cons]
    exact isAscii_of_natural? h
  · exact isAscii_of_natural? h

/-- A hexadecimal numeral below `2 ^ 8` that may start with a plus sign. -/
def byte? (s : List Char) : Option Nat := (unsigned? 16 s).filter (· < 0x100)

/-- A single character is such a numeral just if it is a digit. -/
theorem byte?_singleton (c : Char) : byte? [c] = digitValue? 16 c := by
  by_cases hplus : c = '+'
  · subst hplus
    rfl
  · have hnatural : unsigned? 16 [c] = digitValue? 16 c := by
      rw [unsigned?.eq_2 16 [c] fun s h => hplus (List.cons.inj h).1]
      simp [natural?]
    rw [byte?, hnatural]
    cases hv : digitValue? 16 c with
    | none => rfl
    | some v =>
      have hlt := digitValue?_lt hv
      exact Option.filter_some_pos (decide_eq_true (by omega))

/-- The color of three digits. -/
def threeDigits? (r g b : Option Nat) : Option Pixel := do
  let r ← r
  let g ← g
  let b ← b
  return UInt32.ofNat (0xFF000000 ||| (r * 17 * 0x10000 + g * 17 * 0x100 + b * 17))

/-- A color, cut by byte offsets. The outer option is about the cuts. -/
def colorByBytes? (s : List Char) : Option (Option Pixel) :=
  let opaqued (n : Nat) : Pixel := UInt32.ofNat (0xFF000000 ||| n)
  match trim s with
  | '0' :: 'x' :: hex | '0' :: 'X' :: hex =>
    some ((word? 16 hex).map fun n => if byteLength hex ≤ 6 then opaqued n else UInt32.ofNat n)
  | '#' :: hex =>
    if isAscii hex = false then some none
    else if byteLength hex = 3 then do
      let r ← slice? hex 0 1
      let g ← slice? hex 1 2
      let b ← slice? hex 2 3
      return threeDigits? (byte? r) (byte? g) (byte? b)
    else if byteLength hex = 6 then some ((word? 16 hex).map opaqued)
    else if byteLength hex = 8 then some ((word? 16 hex).map UInt32.ofNat)
    else some none
  | s => some ((word? 10 s).map UInt32.ofNat)

/-- A numeral has as many bytes as characters. -/
theorem map_word?_congr (short long : Nat → Pixel) (hex : List Char) :
    ((word? 16 hex).map fun n => if byteLength hex ≤ 6 then short n else long n) =
      (word? 16 hex).map fun n => if hex.length ≤ 6 then short n else long n := by
  cases h : word? 16 hex with
  | none => rfl
  | some n => rw [byteLength_of_isAscii (isAscii_of_word? h)]

theorem slice?_three {r g b : Char} (h : isAscii [r, g, b] = true) :
    slice? [r, g, b] 0 1 = some [r] ∧ slice? [r, g, b] 1 2 = some [g] ∧
      slice? [r, g, b] 2 3 = some [b] := by
  have hall := List.all_eq_true.1 h
  have hr : byteLength [r] = 1 := byteLength_of_isAscii (by simpa [isAscii] using hall r (by simp))
  have hrg : byteLength [r, g] = 2 :=
    byteLength_of_isAscii (by simp_all [isAscii])
  have hrgb : byteLength [r, g, b] = 3 := byteLength_of_isAscii h
  exact ⟨slice?_eq_some_iff.2 ⟨[], [g, b], rfl, rfl, hr⟩,
    slice?_eq_some_iff.2 ⟨[r], [b], rfl, hr, hrg⟩,
    slice?_eq_some_iff.2 ⟨[r, g], [], rfl, hrg, hrgb⟩⟩

theorem color?_of_three {s : List Char} {r g b : Char} (h : trim s = ['#', r, g, b]) :
    color? s = threeDigits? (digitValue? 16 r) (digitValue? 16 g) (digitValue? 16 b) := by
  rw [color?, h]
  rfl

theorem color?_of_not_three {s hex : List Char} (h : trim s = '#' :: hex) (hne : hex.length ≠ 3) :
    color? s = if hex.length = 6 then (word? 16 hex).map fun n => UInt32.ofNat (0xFF000000 ||| n)
      else if hex.length = 8 then (word? 16 hex).map UInt32.ofNat else none := by
  rw [color?, h]
  rcases hex with _ | ⟨a, _ | ⟨b, _ | ⟨c, _ | ⟨d, hex⟩⟩⟩⟩
  · rfl
  · rfl
  · rfl
  · exact absurd rfl hne
  · rfl

/-- After the mark of a color, no text with a character of several bytes is understood. -/
theorem color?_of_not_isAscii {s hex : List Char} (h : trim s = '#' :: hex)
    (hascii : isAscii hex = false) : color? s = none := by
  have hword : word? 16 hex = none := by
    rw [Option.eq_none_iff_forall_ne_some]
    intro n hn
    rw [isAscii_of_word? hn] at hascii
    cases hascii
  by_cases hthree : hex.length = 3
  · obtain ⟨r, g, b, rfl⟩ := List.length_eq_three.1 hthree
    rw [color?_of_three h, Option.eq_none_iff_forall_ne_some]
    intro p hp
    obtain ⟨r', hr, hp⟩ := Option.bind_eq_some_iff.1 hp
    obtain ⟨g', hg, hp⟩ := Option.bind_eq_some_iff.1 hp
    obtain ⟨b', hb, -⟩ := Option.bind_eq_some_iff.1 hp
    simp [isAscii, isAscii_of_digitValue? hr, isAscii_of_digitValue? hg,
      isAscii_of_digitValue? hb] at hascii
  · rw [color?_of_not_three h hthree, hword]
    simp

/-- No color is cut inside a character. -/
theorem colorByBytes?_eq (s : List Char) : colorByBytes? s = some (color? s) := by
  unfold colorByBytes?
  dsimp only
  split
  · next hex h =>
    rw [color?, h]
    exact congrArg some (map_word?_congr _ _ hex)
  · next hex h =>
    rw [color?, h]
    exact congrArg some (map_word?_congr _ _ hex)
  · next hex h =>
    cases hascii : isAscii hex with
    | false =>
      rw [if_pos rfl, color?_of_not_isAscii h hascii]
    | true =>
      rw [if_neg (by decide), byteLength_of_isAscii hascii]
      by_cases hthree : hex.length = 3
      · obtain ⟨r, g, b, rfl⟩ := List.length_eq_three.1 hthree
        obtain ⟨hr, hg, hb⟩ := slice?_three hascii
        rw [if_pos hthree, hr, hg, hb, color?_of_three h, ← byte?_singleton, ← byte?_singleton,
          ← byte?_singleton]
        rfl
      · rw [if_neg hthree, color?_of_not_three h hthree]
        split
        · rfl
        · split <;> rfl
  · next hx hX hhash =>
    rw [color?]
    split
    · next hex h => exact absurd h (hx hex)
    · next hex h => exact absurd h (hX hex)
    · next hex h => exact absurd h (hhash hex)
    · rfl

/-- A value, cut by byte offsets. -/
def Kind.readByBytes? : (k : Kind) → List Char → Option (Option k.Value)
  | color, s => (colorByBytes? s).map (·.map Color.ofPixel)
  | k, s => some (k.read? s)

theorem Kind.readByBytes?_eq (k : Kind) (s : List Char) : k.readByBytes? s = some (k.read? s) := by
  cases k with
  | color => rw [readByBytes?, colorByBytes?_eq, Option.map_some, read?]
  | _ => rfl

/-! ## Texts -/

/-- The header and the configuration after one more line, cut by byte offsets. -/
def readLine? : List Char × Config → List Char → Option (List Char × Config)
  | (header, c), line => do
    match ← Line.ofBytes? line with
    | .nothing => return (header, c)
    | .header name => return (name, c)
    | .setting key value =>
      match Field.named? header key with
      | none => return (header, c)
      | some f =>
        match ← f.kind.readByBytes? value with
        | none => return (header, c)
        | some v => return (header, f.set v c)

/-- The configuration that a text describes, read by byte offsets. There is none if a cut fails. -/
def parseByBytes? (text : String) : Option Config := do
  let (_, c) ← (lines text.toList).foldlM readLine? ([], {})
  return c

theorem readLine?_eq (header : List Char) (c : Config) (line : List Char) :
    readLine? (header, c) line =
      some (headerAfter header [line], (assignments header [line]).foldl assign c) := by
  rw [readLine?, Line.ofBytes?_eq, headerAfter, assignments]
  dsimp only [bind, Option.bind]
  cases Line.ofChars line with
  | nothing => rfl
  | header name => rfl
  | setting key value =>
    change _ = some (header, assign c ⟨header, key, value⟩)
    unfold assign
    dsimp only
    cases Field.named? header key with
    | none => rfl
    | some f =>
      dsimp only
      rw [Kind.readByBytes?_eq]
      dsimp only
      cases f.kind.read? value <;> rfl

/-- No cut fails, and the text is read as it is by characters. -/
theorem parseByBytes?_eq (text : String) : parseByBytes? text = some (parse text) := by
  have hfold (ls : List (List Char)) (header : List Char) (c : Config) :
      ls.foldlM readLine? (header, c) =
        some (headerAfter header ls, (assignments header ls).foldl assign c) := by
    induction ls generalizing header c with
    | nil => rfl
    | cons line ls ih =>
      have hheader := headerAfter_append header [line] ls
      have hassignments := assignments_append header [line] ls
      rw [List.singleton_append] at hheader hassignments
      rw [List.foldlM_cons, readLine?_eq, hheader, hassignments, List.foldl_append]
      exact ih _ _
  rw [parseByBytes?, hfold]
  rfl

end TickDesktop.Config
