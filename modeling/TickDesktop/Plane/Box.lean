/-!
# Spans and boxes

A span is a run of columns or rows, a box a span of each. Clipping keeps the cells of a span that
lie on a plane, however far outside it starts or ends.
-/
namespace TickDesktop

/-- The cells `lo, …, hi - 1`. -/
structure Span where
  lo : Nat
  hi : Nat
  deriving DecidableEq

namespace Span

instance : Membership Nat Span := ⟨fun s k => s.lo ≤ k ∧ k < s.hi⟩

theorem mem_def {s : Span} {k : Nat} : k ∈ s ↔ s.lo ≤ k ∧ k < s.hi := Iff.rfl

instance (k : Nat) (s : Span) : Decidable (k ∈ s) := decidable_of_iff _ mem_def.symm

/-- The number of cells. -/
def count (s : Span) : Nat := s.hi - s.lo

/-- The cells from `first` up to `last`, both included, that lie below `limit`. -/
def between (first last : Int) (limit : Nat) : Span :=
  ⟨(max first 0).toNat, (min (last + 1) limit).toNat⟩

/-- The cells below `limit` of the `length` cells that start at `start`. -/
def clip (start : Int) (length limit : Nat) : Span := between start (start + length - 1) limit

@[simp] theorem mem_between {first last : Int} {limit k : Nat} :
    k ∈ between first last limit ↔ first ≤ k ∧ (k : Int) ≤ last ∧ k < limit := by
  simp only [mem_def, between]
  omega

@[simp] theorem mem_clip {start : Int} {length limit k : Nat} :
    k ∈ clip start length limit ↔ start ≤ k ∧ (k : Int) < start + length ∧ k < limit := by
  simp only [clip, mem_between]
  omega

theorem hi_between_le (first last : Int) (limit : Nat) : (between first last limit).hi ≤ limit := by
  simp only [between]
  omega

theorem hi_clip_le (start : Int) (length limit : Nat) : (clip start length limit).hi ≤ limit :=
  hi_between_le ..

end Span

/-- The cells whose column and row lie in the given spans. -/
structure Box where
  cols : Span
  rows : Span
  deriving DecidableEq

namespace Box

/-- The part of a `width × height` rectangle at `(x, y)` that lies on an `across × down` plane. -/
def clip (x y : Int) (width height across down : Nat) : Box :=
  ⟨.clip x width across, .clip y height down⟩

end Box

end TickDesktop
