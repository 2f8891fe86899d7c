import Mathlib.Data.Nat.Bitwise
import Mathlib.Tactic.Ring
import TickDesktop.Proofs.Areas
import TickDesktop.Proofs.Placing

/-!
# Lettering

A line of text paints the set bits of its glyphs, each glyph eight columns to the right of the one
before it. The glyphs come as rows of bytes, the lowest bit of a byte to the left, whichever source
they are taken from. Drawing stops at the right edge of the surface, holds coordinates beyond 32
bits at the last one there is, and leaves out what lies off the surface. Nothing of the text that
lies on the surface is lost by that, nothing else is painted, and the column of the next glyph
always fits.
-/
namespace TickDesktop

namespace Glyph

/-- The rows of a glyph as a source gives them, top row first. -/
abbrev Rows := Vector UInt8 height

theorem Rows.length_toList_le (rows : Rows) : rows.toList.length ≤ 8 := by
  rw [Vector.length_toList]
  exact Nat.le_refl 8

/-- The bit of a row that belongs to a column is set. -/
def Rows.IsSet (rows : Rows) (row : Fin height) (col : Fin width) : Prop :=
  rows[row].toNat.testBit col = true

/-- Packing one more row at the top. -/
theorem toNat_ofRows_cons {r : UInt8} {rs : List UInt8}
    (h : (ofRows rs).toNat < 2 ^ (8 * rs.length)) (hlength : rs.length < 8) :
    (ofRows (r :: rs)).toNat = 2 ^ 8 * (ofRows rs).toNat + r.toNat := by
  have hpow : 2 ^ (8 * rs.length) ≤ 2 ^ 56 := Nat.pow_le_pow_right (by omega) (by omega)
  have hr := r.toNat_lt
  change (ofRows rs * 256 + r.toUInt64).toNat = _
  rw [UInt64.toNat_add, UInt64.toNat_mul, UInt8.toNat_toUInt64]
  simp only [UInt64.reduceToNat]
  omega

/-- Eight rows fit into a glyph. -/
theorem toNat_ofRows_lt {rs : List UInt8} (hlength : rs.length ≤ 8) :
    (ofRows rs).toNat < 2 ^ (8 * rs.length) := by
  induction rs with
  | nil => decide
  | cons r rs ih =>
    rw [List.length_cons] at hlength ⊢
    have hrest := ih (by omega)
    have hr := r.toNat_lt
    rw [toNat_ofRows_cons hrest hlength, Nat.mul_add, Nat.pow_add]
    omega

/-- The lit pixels of a glyph are the set bits of the rows that it was packed from. -/
theorem lit_ofRows {rs : List UInt8} (hlength : rs.length ≤ 8) {row col : Nat} {r : UInt8}
    (hrow : rs[row]? = some r) (hcol : col < 8) :
    (ofRows rs).lit row col = r.toNat.testBit col := by
  induction rs generalizing row with
  | nil => simp at hrow
  | cons r' rs ih =>
    rw [List.length_cons] at hlength
    have hrest : (ofRows rs).toNat < 2 ^ (8 * rs.length) := toNat_ofRows_lt (by omega)
    have hpack := toNat_ofRows_cons (r := r') hrest hlength
    rw [lit, hpack, Nat.testBit_two_pow_mul_add _ r'.toNat_lt]
    cases row with
    | zero =>
      obtain rfl : r' = r := by simpa using hrow
      simp [hcol]
    | succ row =>
      have hbit : 8 * (row + 1) + col - 8 = 8 * row + col := by omega
      rw [if_neg (by omega), hbit]
      exact ih (by omega) (by simpa using hrow)

/-- A byte masked with the bit of a column. -/
theorem and_shiftLeft_ne_zero_iff (r : UInt8) {col : Nat} (hcol : col < 8) :
    r &&& (1 <<< col.toUInt8) ≠ 0 ↔ r.toNat.testBit col = true := by
  have hmask : (1 <<< col.toUInt8 : UInt8).toNat = 2 ^ col := by
    have hall : ∀ c < 8, (1 <<< c.toUInt8 : UInt8).toNat = 2 ^ c := by decide
    exact hall col hcol
  rw [ne_eq, ← UInt8.toNat_inj, UInt8.toNat_and, hmask, Nat.and_two_pow]
  cases r.toNat.testBit col <;> simp

end Glyph

/-- The font whose glyphs come from a source of rows. -/
def Font.ofSource (source : Char → Glyph.Rows) : Font := fun c => .ofRows (source c).toList

/-- The cells of the set bits of a glyph's rows at a place. -/
def Lights (rows : Glyph.Rows) (x y u v : Int) : Prop :=
  ∃ row col, rows.IsSet row col ∧ u = x + col ∧ v = y + row

/-- The cells of the set bits of a text's glyphs, one beside the other from a place on. -/
def Inks (source : Char → Glyph.Rows) (x y : Int) (text : List Char) (u v : Int) : Prop :=
  ∃ (i : Nat) (c : Char), text[i]? = some c ∧ Lights (source c) (x + Glyph.width * i) y u v

section Inks

variable {source : Char → Glyph.Rows} {x y u v : Int}

theorem not_inks_nil : ¬ Inks source x y [] u v := by simp [Inks]

theorem inks_cons_iff {c : Char} {text : List Char} : Inks source x y (c :: text) u v ↔
    Lights (source c) x y u v ∨ Inks source (x + Glyph.width) y text u v := by
  rw [Inks, ← Nat.or_exists_add_one]
  refine or_congr ?_ (exists_congr fun i => ?_)
  · simp
  · have hplace : x + Glyph.width * (i + 1 : Nat) = x + Glyph.width + Glyph.width * i := by
      push_cast
      ring
    simp only [List.getElem?_cons_succ, hplace]

/-- All of the text is to the right of its place. -/
theorem Inks.le {text : List Char} (h : Inks source x y text u v) : x ≤ u := by
  obtain ⟨i, c, -, row, col, -, rfl, -⟩ := h
  have hi := Int.mul_nonneg (Int.natCast_nonneg Glyph.width) (Int.natCast_nonneg i)
  omega

end Inks

namespace Surface

variable {s : Surface} {x y : Int}

/-- Painting the set bits of a glyph's rows: each bit is singled out by a mask. -/
def drawRows (s : Surface) (rows : Glyph.Rows) (x y : Int) (p : Pixel) : Surface :=
  Glyph.height.fold (fun row _ s =>
    Glyph.width.fold (fun col _ s =>
      if rows[row] &&& (1 <<< col.toUInt8) ≠ 0
      then s.put (saturate (x + col)) (saturate (y + row)) p else s) s) s

/-- Painting a line of text, in machine numbers. -/
def drawText? (s : Surface) (source : Char → Glyph.Rows) (x y : Int) :
    List Char → Pixel → Option Surface
  | [], _ => some s
  | c :: text, p => do
    let edge ← signed32? s.width
    if edge ≤ x then return s
    else
      let next ← signed32? (x + Glyph.width)
      (s.drawRows (source c) x y p).drawText? source next y text p

theorem drawRows_eq (s : Surface) (rows : Glyph.Rows) (x y : Int) (p : Pixel) :
    s.drawRows rows x y p = s.drawGlyph (.ofRows rows.toList) x y p := by
  have hbit {row col : Nat} (hrow : row < Glyph.height) (hcol : col < Glyph.width) :
      rows[row] &&& (1 <<< col.toUInt8) ≠ 0 ↔ (Glyph.ofRows rows.toList).lit row col = true := by
    rw [Glyph.and_shiftLeft_ne_zero_iff _ hcol,
      Glyph.lit_ofRows rows.length_toList_le (r := rows[row]) (by simp [hrow]) hcol]
  refine congrArg (Nat.fold Glyph.height · s) ?_
  funext row hrow s
  refine congrArg (Nat.fold Glyph.width · s) ?_
  funext col hcol s
  exact if_congr (hbit hrow hcol) rfl rfl

/-- The cells of a glyph, held at the last coordinate there is. -/
theorem painted_drawGlyph (s : Surface) (g : Glyph) (x y : Int) (p : Pixel) :
    Painted s (s.drawGlyph g x y p) (fun u v => ∃ row < Glyph.height, ∃ col < Glyph.width,
      g.lit row col = true ∧ u = saturate (x + col) ∧ v = saturate (y + row)) fun _ => p := by
  have hconst (old : Pixel) : (fun _ : Pixel => p) ((fun _ => p) old) = (fun _ => p) old := rfl
  refine Painted.fold hconst (fun row _ s => ?_) s
  refine Painted.fold hconst (fun col _ s => ?_) s
  by_cases hlit : g.lit row col = true
  · rw [if_pos hlit]
    exact (s.painted_modify _ _ _).congr fun px py _ _ => by simp [hlit]
  · rw [if_neg hlit]
    exact (Painted.refl s _).congr fun px py _ _ => by simp [hlit]

/-- On a surface whose sides are coordinates, holding them back makes no difference. -/
theorem painted_drawRows (hs : s.width ≤ 0x7FFFFFFF ∧ s.height ≤ 0x7FFFFFFF)
    (hx : -0x80000000 ≤ x) (hy : -0x80000000 ≤ y) (rows : Glyph.Rows) (p : Pixel) :
    Painted s (s.drawGlyph (.ofRows rows.toList) x y p) (Lights rows x y) fun _ => p := by
  refine (s.painted_drawGlyph _ x y p).congr fun px py hpx hpy => ?_
  have hlit (row : Fin Glyph.height) (col : Fin Glyph.width) :
      (Glyph.ofRows rows.toList).lit row col = true ↔ rows.IsSet row col := by
    rw [Glyph.lit_ofRows rows.length_toList_le (r := rows[row]) (by simp) col.isLt]
    rfl
  have hnear {a : Int} {px : Nat} (ha : -0x80000000 ≤ a) (hpx : px < 0x7FFFFFFF) (k : Nat) :
      (px : Int) = saturate (a + k) ↔ (px : Int) = a + k := by
    rw [saturate]
    omega
  constructor
  · rintro ⟨row, hrow, col, hcol, hset, hu, hv⟩
    exact ⟨⟨row, hrow⟩, ⟨col, hcol⟩, (hlit ⟨row, hrow⟩ ⟨col, hcol⟩).1 hset,
      (hnear hx (by omega) col).1 hu, (hnear hy (by omega) row).1 hv⟩
  · rintro ⟨row, col, hset, hu, hv⟩
    exact ⟨row, row.isLt, col, col.isLt, (hlit row col).2 hset, (hnear hx (by omega) col).2 hu,
      (hnear hy (by omega) row).2 hv⟩

/-- Stopping at the right edge loses nothing that lies on the surface. -/
theorem painted_drawText (source : Char → Glyph.Rows)
    (hs : s.width ≤ 0x7FFFFFFF ∧ s.height ≤ 0x7FFFFFFF) (hx : -0x80000000 ≤ x)
    (hy : -0x80000000 ≤ y) (text : List Char) (p : Pixel) :
    Painted s (s.drawText (.ofSource source) x y text p) (Inks source x y text) fun _ => p := by
  induction text generalizing s x with
  | nil => exact (Painted.refl s _).congr fun px py _ _ => iff_of_false id not_inks_nil
  | cons c text ih =>
    rw [drawText]
    by_cases hedge : (s.width : Int) ≤ x
    · rw [if_pos hedge]
      refine (Painted.refl s _).congr fun px py hpx _ => iff_of_false id fun hink => ?_
      have hright := hink.le
      omega
    · rw [if_neg hedge]
      have hfirst := painted_drawRows hs hx hy (source c) p
      obtain ⟨hwidth, hheight⟩ := Prod.mk.inj hfirst.extent
      have hrest := ih (s := s.drawGlyph (.ofRows (source c).toList) x y p)
        (x := x + Glyph.width) (by rwa [hwidth, hheight]) (by omega)
      refine (hfirst.trans hrest fun _ _ _ _ _ => rfl).congr fun px py _ _ => ?_
      exact inks_cons_iff.symm

/-- The column of the next glyph fits, since drawing stops at the right edge. -/
theorem drawText?_eq (source : Char → Glyph.Rows) (hs : s.width ≤ 0x7FFFFFFF - Glyph.width)
    (hx : -0x80000000 ≤ x) (y : Int) (text : List Char) (p : Pixel) :
    s.drawText? source x y text p = some (s.drawText (.ofSource source) x y text p) := by
  induction text generalizing s x with
  | nil => rfl
  | cons c text ih =>
    have hedge : signed32? s.width = some (s.width : Int) :=
      signed32?_of_mem (by omega) (by omega)
    rw [drawText?, drawText, hedge, Option.bind_eq_bind, Option.bind_some]
    by_cases hstop : (s.width : Int) ≤ x
    · rw [if_pos hstop, if_pos hstop]
      rfl
    · have hnext : signed32? (x + Glyph.width) = some (x + Glyph.width) :=
        signed32?_of_mem (by omega) (by simp only [Glyph.width] at hs ⊢; omega)
      have hsame := (Prod.mk.inj (s.extent_drawGlyph (.ofRows (source c).toList) x y p)).1
      rw [if_neg hstop, if_neg hstop, hnext, Option.bind_some, drawRows_eq]
      exact ih (by rwa [hsame]) (by omega)

/-- Whatever the glyphs, the place and the length of a text, it paints on a surface exactly the set
bits of its glyphs, as they lie in unbounded numbers, and leaves all else alone. The column that is
carried along fits into 32 bits to the end. -/
theorem text_painted_exactly (source : Char → Glyph.Rows)
    (hwidth : s.width ≤ 0x7FFFFFFF - Glyph.width) (hheight : s.height ≤ 0x7FFFFFFF)
    (hx : -0x80000000 ≤ x ∧ x ≤ 0x7FFFFFFF) (hy : -0x80000000 ≤ y ∧ y ≤ 0x7FFFFFFF)
    (text : List Char) (p : Pixel) :
    s.drawText? source x y text p = some (s.drawText (.ofSource source) x y text p) ∧
    Painted s (s.drawText (.ofSource source) x y text p) (Inks source x y text) fun _ => p :=
  ⟨drawText?_eq source hwidth hx.1 y text p,
    painted_drawText source ⟨by omega, hheight⟩ hx.1 hy.1 text p⟩

/-- A text that starts at the least coordinate there is and reaches the surface with its last
glyph. Each glyph is lit in two of its corners. -/
theorem text_painted_exactly_from_far_left :
    let s : Surface := .filled 9 9 0
    let source : Char → Glyph.Rows := fun _ => #v[0x01, 0, 0, 0, 0, 0, 0, 0x80]
    let text := List.replicate 0x10000001 'a'
    s.width ≤ 0x7FFFFFFF - Glyph.width ∧ s.height ≤ 0x7FFFFFFF ∧
      (s.drawText (.ofSource source) (-0x80000000) 1 text 5).get? 0 1 = some 5 ∧
      (s.drawText (.ofSource source) (-0x80000000) 1 text 5).get? 7 8 = some 5 ∧
      (s.drawText (.ofSource source) (-0x80000000) 1 text 5).get? 8 1 = some 0 := by
  intro s source text
  have hwidth : s.width ≤ 0x7FFFFFFF - Glyph.width := by decide
  have hheight : s.height ≤ 0x7FFFFFFF := by decide
  obtain ⟨-, hpaint⟩ := text_painted_exactly (x := -0x80000000) (y := 1) source hwidth hheight
    (by decide) (by decide) text 5
  have hlast : text[0x10000000]? = some 'a' := List.getElem?_replicate_of_lt (by omega)
  have hnone : text[0x10000001]? = none :=
    List.getElem?_eq_none (Nat.le_of_eq List.length_replicate)
  refine ⟨hwidth, hheight, ?_, ?_, ?_⟩
  · have hcorner : Lights (source 'a') 0 1 0 1 := by
      refine ⟨⟨0, by decide⟩, ⟨0, by decide⟩, ?_, by decide, by decide⟩
      show (0x01 : UInt8).toNat.testBit 0 = true
      decide
    exact (hpaint.inside 0 1 ⟨_, _, hlast, hcorner⟩).trans (by decide)
  · have hcorner : Lights (source 'a') 0 1 7 8 := by
      refine ⟨⟨7, by decide⟩, ⟨7, by decide⟩, ?_, by decide, by decide⟩
      show (0x80 : UInt8).toNat.testBit 7 = true
      decide
    exact (hpaint.inside 7 8 ⟨_, _, hlast, hcorner⟩).trans (by decide)
  · refine (hpaint.outside 8 1 ?_).trans (by decide)
    rintro ⟨i, c, hc, ⟨row, hrow⟩, col, hset, hu, hv⟩
    dsimp only at hv
    obtain rfl : row = 0 := by omega
    have hfirst : ∀ col < Glyph.width, (0x01 : UInt8).toNat.testBit col = true → col = 0 := by
      decide
    have hcol := hfirst col col.isLt hset
    obtain rfl : i = 0x10000001 := by
      simp only [Glyph.width] at hu
      omega
    rw [hnone] at hc
    cases hc

end Surface

end TickDesktop
