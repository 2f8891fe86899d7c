import Mathlib.Data.List.Nodup
import TickDesktop.Proofs.Pictures

/-!
# Areas of a surface

What a drawing does is said by the area that it paints and the rule for one pixel: each pixel of the
area goes through the rule once, and all else stays as it is. Two drawings with one rule paint their
areas together, unless the rule tells a pixel that it met before from one that it did not. A list of
cells that are visited one by one is an area, whatever the order.
-/
namespace TickDesktop

/-- A walk over a list of which every step succeeds. -/
theorem foldlM_eq_some {σ β : Type} {f : σ → β → Option σ} {g : σ → β → σ} {bs : List β}
    (h : ∀ b ∈ bs, ∀ a, f a b = some (g a b)) (a : σ) :
    bs.foldlM f a = some (bs.foldl g a) := by
  induction bs generalizing a with
  | nil => rfl
  | cons b bs ih =>
    rw [List.foldlM_cons, h b List.mem_cons_self, List.foldl_cons]
    exact ih (fun c hc => h c (List.mem_cons_of_mem b hc)) (g a b)

namespace Surface

/-- A surface with the pixels of an area taken through a rule, once each, and all else as it was. -/
structure Painted (s t : Surface) (area : Int → Int → Prop) (rule : Pixel → Pixel) : Prop where
  extent : t.extent = s.extent
  inside : ∀ u v, area u v → t.get? u v = (s.get? u v).map rule
  outside : ∀ u v, ¬ area u v → t.get? u v = s.get? u v

variable {s t r : Surface} {A B : Int → Int → Prop} {f : Pixel → Pixel}

/-- There are no pixels off the surface to look after. -/
theorem Painted.of_cells (hextent : t.extent = s.extent)
    (hin : ∀ px py : Nat, px < s.width → py < s.height → A px py →
      t.get? px py = (s.get? px py).map f)
    (hout : ∀ px py : Nat, px < s.width → py < s.height → ¬ A px py →
      t.get? px py = s.get? px py) : Painted s t A f := by
  obtain ⟨hwidth, hheight⟩ := Prod.mk.inj hextent
  have hcell (u v : Int) : (∃ px py : Nat, px < s.width ∧ py < s.height ∧ u = px ∧ v = py) ∨
      s.get? u v = none ∧ t.get? u v = none := by
    by_cases hon : 0 ≤ u ∧ 0 ≤ v ∧ u < s.width ∧ v < s.height
    · exact .inl ⟨u.toNat, v.toNat, by omega, by omega, by omega, by omega⟩
    · exact .inr ⟨(s.get?_eq_none_iff u v).2 hon, (t.get?_eq_none_iff u v).2 (by omega)⟩
  refine ⟨hextent, fun u v harea => ?_, fun u v harea => ?_⟩
  · obtain ⟨px, py, hpx, hpy, rfl, rfl⟩ | ⟨hs, ht⟩ := hcell u v
    · exact hin px py hpx hpy harea
    · rw [hs, ht, Option.map_none]
  · obtain ⟨px, py, hpx, hpy, rfl, rfl⟩ | ⟨hs, ht⟩ := hcell u v
    · exact hout px py hpx hpy harea
    · rw [hs, ht]

/-- Only what an area covers of the surface counts. -/
theorem Painted.congr (h : Painted s t A f)
    (hAB : ∀ px py : Nat, px < s.width → py < s.height → (A px py ↔ B px py)) :
    Painted s t B f :=
  .of_cells h.extent (fun px py hpx hpy hB => h.inside px py ((hAB px py hpx hpy).2 hB))
    fun px py hpx hpy hB => h.outside px py fun hA => hB ((hAB px py hpx hpy).1 hA)

/-- Area and rule determine the picture. -/
theorem Painted.unique (h : Painted s t A f) (h' : Painted s r A f) : t = r := by
  refine ext_get? (h.extent.trans h'.extent.symm) fun px py => ?_
  by_cases hA : A px py
  · rw [h.inside px py hA, h'.inside px py hA]
  · rw [h.outside px py hA, h'.outside px py hA]

theorem Painted.refl (s : Surface) (f : Pixel → Pixel) : Painted s s (fun _ _ => False) f :=
  ⟨rfl, fun _ _ hfalse => hfalse.elim, fun _ _ _ => rfl⟩

/-- Two areas are painted together if the rule does nothing more to what they share. -/
theorem Painted.trans (h : Painted s t A f) (h' : Painted t r B f)
    (hshared : ∀ u v, A u v → B u v → ∀ old, f (f old) = f old) :
    Painted s r (fun u v => A u v ∨ B u v) f := by
  refine ⟨h'.extent.trans h.extent, fun u v hAB => ?_, fun u v hAB => ?_⟩
  · by_cases hB : B u v
    · rw [h'.inside u v hB]
      by_cases hA : A u v
      · rw [h.inside u v hA, Option.map_map]
        exact Option.map_congr fun old _ => hshared u v hA hB old
      · rw [h.outside u v hA]
    · rw [h'.outside u v hB, h.inside u v (hAB.resolve_right hB)]
  · rw [not_or] at hAB
    rw [h'.outside u v hAB.2, h.outside u v hAB.1]

/-- Steps of a drawing after each other paint their areas together. -/
theorem Painted.fold (hf : ∀ old, f (f old) = f old) {n : Nat}
    {step : (i : Nat) → i < n → Surface → Surface} {A : Nat → Int → Int → Prop}
    (h : ∀ i hi t, Painted t (step i hi t) (A i) f) (s : Surface) :
    Painted s (n.fold step s) (fun u v => ∃ i < n, A i u v) f := by
  induction n with
  | zero => exact (Painted.refl s f).congr fun px py _ _ => by simp
  | succ n ih =>
    rw [Nat.fold_succ]
    have hfirst := ih fun i hi t => h i (Nat.lt_succ_of_lt hi) t
    refine (hfirst.trans (h n (Nat.lt_succ_self n) _) fun _ _ _ _ => hf).congr ?_
    intro px py _ _
    exact Nat.exists_lt_succ_right.symm

/-! ## Drawings -/

theorem painted_modify (s : Surface) (x y : Int) (f : Pixel → Pixel) :
    Painted s (s.modify x y f) (fun u v => u = x ∧ v = y) f :=
  ⟨by simp [extent], fun u v hcell => by rw [get?_modify, if_pos hcell],
    fun u v hcell => by rw [get?_modify, if_neg hcell]⟩

theorem painted_paint (s : Surface) {box : Box} (hcols : box.cols.hi ≤ s.width)
    (f : Pixel → Pixel) :
    Painted s (s.paint box fun _ _ => f)
      (fun u v => u.toNat ∈ box.cols ∧ v.toNat ∈ box.rows) f :=
  .of_cells rfl (fun px py _ _ hbox => by rw [get?_paint s _ hcols]; exact if_pos hbox)
    fun px py _ _ hbox => by rw [get?_paint s _ hcols]; exact if_neg hbox

/-- A rule that leaves some of the cells of a box alone paints the others. -/
theorem painted_paint_where (s : Surface) {box : Box} (hcols : box.cols.hi ≤ s.width)
    (A : Int → Int → Prop) [∀ u v, Decidable (A u v)] (f : Pixel → Pixel) :
    Painted s (s.paint box fun px py old => if A px py then f old else old)
      (fun u v => (u.toNat ∈ box.cols ∧ v.toNat ∈ box.rows) ∧ A u v) f := by
  refine .of_cells rfl (fun px py _ _ hin => ?_) fun px py _ _ hout => ?_
  · obtain ⟨hbox, harea⟩ := hin
    rw [Int.toNat_natCast, Int.toNat_natCast] at hbox
    simp only [get?_paint s _ hcols, if_pos hbox, if_pos harea]
  · rw [Int.toNat_natCast, Int.toNat_natCast] at hout
    rw [get?_paint s _ hcols]
    split
    · next hbox =>
      have harea : ¬ A px py := fun harea => hout ⟨hbox, harea⟩
      simp only [if_neg harea, Option.map_id']
    · rfl

/-- Cells visited one after the other, each of them once unless the rule does nothing more to a
pixel that it met before. -/
theorem painted_foldl (s : Surface) {cells : List (Int × Int)} {f : Pixel → Pixel}
    (h : cells.Nodup ∨ ∀ old, f (f old) = f old) :
    Painted s (cells.foldl (fun s q => s.modify q.1 q.2 f) s) (fun u v => (u, v) ∈ cells) f := by
  induction cells generalizing s with
  | nil => exact (Painted.refl s f).congr fun px py _ _ => by simp
  | cons q cells ih =>
    have hrest := ih (s.modify q.1 q.2 f) (h.imp_left fun h => h.of_cons)
    have hboth := (s.painted_modify q.1 q.2 f).trans hrest fun u v hq hmem => by
      obtain ⟨rfl, rfl⟩ := hq
      exact h.resolve_left fun hnodup => hnodup.notMem hmem
    exact hboth.congr fun px py _ _ => by simp [Prod.ext_iff]

/-- Cells visited one after the other, of which those outside of an area are passed over. -/
theorem painted_foldl_where (s : Surface) {cells : List (Int × Int)} {f : Pixel → Pixel}
    (A : Int → Int → Prop) [∀ u v, Decidable (A u v)]
    (h : cells.Nodup ∨ ∀ old, f (f old) = f old) :
    Painted s (cells.foldl (fun s q => if A q.1 q.2 then s.modify q.1 q.2 f else s) s)
      (fun u v => (u, v) ∈ cells ∧ A u v) f := by
  have hkept : (cells.filter fun q => A q.1 q.2).Nodup ∨ ∀ old, f (f old) = f old :=
    h.imp_left (·.filter _)
  have hvisited := s.painted_foldl hkept
  rw [List.foldl_filter] at hvisited
  simpa only [decide_eq_true_eq, List.mem_filter] using hvisited

theorem nodup_block (x y : Int) (width height : Nat) : (block x y width height).Nodup := by
  rw [block, List.nodup_flatMap]
  refine ⟨fun row _ => ?_, List.nodup_range.imp fun {row row'} hne q hq hq' => ?_⟩
  · exact List.nodup_range.map fun col col' heq => by
      have hcol := (Prod.mk.inj heq).1
      omega
  · obtain ⟨col, -, rfl⟩ := List.mem_map.1 hq
    obtain ⟨col', -, heq⟩ := List.mem_map.1 hq'
    have hrow := (Prod.mk.inj heq).2
    omega

end Surface

end TickDesktop
