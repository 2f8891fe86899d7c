import TickDesktop.Pixel.Color
import TickDesktop.Plane.Box

/-!
# Painting boxes

A plane is an array of pixels cut into rows of `stride` pixels each. Everything that changes a
rectangular part of a plane is `paintBox` with a rule for one pixel; its lookup lemma says that the
pixels of the box follow the rule and that all others keep their value.
-/
namespace TickDesktop

/-- Entry `i`, if there is one, goes through `f`. -/
@[inline] def paintAt (a : Array Pixel) (i : Nat) (f : Pixel → Pixel) : Array Pixel :=
  if h : i < a.size then a.set i (f a[i]) h else a

@[simp] theorem size_paintAt (a : Array Pixel) (i : Nat) (f : Pixel → Pixel) :
    (paintAt a i f).size = a.size := by
  unfold paintAt; split <;> simp

theorem getElem?_paintAt (a : Array Pixel) (i : Nat) (f : Pixel → Pixel) (j : Nat) :
    (paintAt a i f)[j]? = if i = j then a[j]?.map f else a[j]? := by
  unfold paintAt
  split
  · rw [Array.getElem?_set]
    split
    · next h => subst h; simp [*]
    · rfl
  · split
    · next h hij => subst hij; simp [h]
    · rfl

/-- Entry `start + k` goes through `f k`, for each `k < count`. -/
@[specialize] def paintRun (a : Array Pixel) (start count : Nat) (f : Nat → Pixel → Pixel) :
    Array Pixel :=
  count.fold (fun k _ a => paintAt a (start + k) (f k)) a

theorem paintRun_succ (a : Array Pixel) (start n : Nat) (f : Nat → Pixel → Pixel) :
    paintRun a start (n + 1) f = paintAt (paintRun a start n f) (start + n) (f n) := by
  simp [paintRun, Nat.fold_succ]

@[simp] theorem size_paintRun (a : Array Pixel) (start count : Nat) (f : Nat → Pixel → Pixel) :
    (paintRun a start count f).size = a.size := by
  induction count with
  | zero => rfl
  | succ n ih => rw [paintRun_succ, size_paintAt, ih]

theorem getElem?_paintRun (a : Array Pixel) (start count : Nat) (f : Nat → Pixel → Pixel)
    (i : Nat) :
    (paintRun a start count f)[i]? =
      if start ≤ i ∧ i < start + count then a[i]?.map (f (i - start)) else a[i]? := by
  induction count with
  | zero => rw [if_neg (by omega)]; rfl
  | succ n ih =>
    rw [paintRun_succ, getElem?_paintAt, ih]
    by_cases hi : start + n = i
    · rw [if_pos hi, if_neg (by omega), if_pos (by omega), show i - start = n by omega]
    · rw [if_neg hi]
      by_cases hin : start ≤ i ∧ i < start + n
      · rw [if_pos hin, if_pos (by omega)]
      · rw [if_neg hin, if_neg (by omega)]

/-- The pixel in column `x` and row `y` goes through `f x y`, for each cell of the box. A row of
the box that does not lie wholly in the array is left alone. -/
@[specialize] def paintBox (a : Array Pixel) (stride : Nat) (box : Box)
    (f : Nat → Nat → Pixel → Pixel) : Array Pixel :=
  if box.cols.lo < box.cols.hi then
    box.rows.count.fold (fun k _ a =>
      let y := box.rows.lo + k
      if y * stride + box.cols.hi ≤ a.size then
        paintRun a (y * stride + box.cols.lo) box.cols.count fun j => f (box.cols.lo + j) y
      else a) a
  else a

@[simp] theorem size_paintBox (a : Array Pixel) (stride : Nat) (box : Box)
    (f : Nat → Nat → Pixel → Pixel) : (paintBox a stride box f).size = a.size := by
  unfold paintBox
  split
  · induction box.rows.count with
    | zero => rfl
    | succ n ih =>
      rw [Nat.fold_succ]
      dsimp only
      split <;> simp [ih]
  · rfl

/-- What `paintBox` does to the pixel in column `x` and row `y`, the columns of the box lying
within the stride. -/
theorem getElem?_paintBox (a : Array Pixel) (stride : Nat) (box : Box)
    (f : Nat → Nat → Pixel → Pixel) {x y : Nat} (hx : x < stride) (hbox : box.cols.hi ≤ stride) :
    (paintBox a stride box f)[y * stride + x]? =
      if x ∈ box.cols ∧ y ∈ box.rows ∧ y * stride + box.cols.hi ≤ a.size
      then a[y * stride + x]?.map (f x y) else a[y * stride + x]? := by
  obtain ⟨⟨c0, c1⟩, ⟨r0, r1⟩⟩ := box
  simp only [Span.mem_def, paintBox, Span.count] at *
  by_cases hc : c0 < c1
  · rw [if_pos hc]
    have key : ∀ n, (Nat.fold n (fun k _ a =>
          if (r0 + k) * stride + c1 ≤ a.size then
            paintRun a ((r0 + k) * stride + c0) (c1 - c0) fun j => f (c0 + j) (r0 + k)
          else a) a).size = a.size ∧
        (Nat.fold n (fun k _ a =>
          if (r0 + k) * stride + c1 ≤ a.size then
            paintRun a ((r0 + k) * stride + c0) (c1 - c0) fun j => f (c0 + j) (r0 + k)
          else a) a)[y * stride + x]? =
          if (c0 ≤ x ∧ x < c1) ∧ (r0 ≤ y ∧ y < r0 + n) ∧ y * stride + c1 ≤ a.size
          then a[y * stride + x]?.map (f x y) else a[y * stride + x]? := by
      intro n
      induction n with
      | zero => refine ⟨rfl, ?_⟩; rw [if_neg (by omega)]; rfl
      | succ n ih =>
        obtain ⟨hs, ih⟩ := ih
        rw [Nat.fold_succ]
        refine ⟨by split <;> simp [hs], ?_⟩
        split
        · next hfit =>
          rw [hs] at hfit
          rw [getElem?_paintRun, ih]
          by_cases hy : y = r0 + n
          · subst hy
            by_cases hxc : c0 ≤ x ∧ x < c1
            · rw [if_pos (by omega), if_neg (by omega), if_pos (by omega),
                show c0 + ((r0 + n) * stride + x - ((r0 + n) * stride + c0)) = x by omega]
            · rw [if_neg (by omega), if_neg (by omega), if_neg (by omega)]
          · have hrow : ¬ ((r0 + n) * stride + c0 ≤ y * stride + x ∧
                y * stride + x < (r0 + n) * stride + c0 + (c1 - c0)) := by
              rcases Nat.lt_or_gt_of_ne hy with h | h
              · have := Nat.mul_le_mul_right stride (show y + 1 ≤ r0 + n by omega)
                rw [Nat.add_mul] at this; omega
              · have := Nat.mul_le_mul_right stride (show r0 + n + 1 ≤ y by omega)
                rw [Nat.add_mul] at this; omega
            rw [if_neg hrow]
            by_cases hin : (c0 ≤ x ∧ x < c1) ∧ (r0 ≤ y ∧ y < r0 + n) ∧ y * stride + c1 ≤ a.size
            · rw [if_pos hin, if_pos (by omega)]
            · rw [if_neg hin, if_neg (by omega)]
        · next hfit =>
          rw [hs] at hfit
          rw [ih]
          by_cases hy : y = r0 + n
          · subst hy; rw [if_neg (by omega), if_neg (by omega)]
          · by_cases hin : (c0 ≤ x ∧ x < c1) ∧ (r0 ≤ y ∧ y < r0 + n) ∧ y * stride + c1 ≤ a.size
            · rw [if_pos hin, if_pos (by omega)]
            · rw [if_neg hin, if_neg (by omega)]
    rw [(key (r1 - r0)).2]
    by_cases hin : (c0 ≤ x ∧ x < c1) ∧ (r0 ≤ y ∧ y < r1) ∧ y * stride + c1 ≤ a.size
    · rw [if_pos hin, if_pos (by omega)]
    · rw [if_neg hin, if_neg (by omega)]
  · rw [if_neg hc, if_neg (by omega)]

end TickDesktop
