import TickDesktop.Plane.Surface

/-!
# Lines

A line is walked from one end to the other by a running error: the walk moves by one along the
longer axis in every step and along the other axis whenever the error says so.
-/
namespace TickDesktop

/-- The fixed part of a walk along a line: its end, the distances along both axes (the vertical one
negated) and the directions. -/
structure Segment where
  endX : Int
  endY : Int
  dx : Int
  dy : Int
  stepX : Int
  stepY : Int

/-- The walk from one point to another. -/
def Segment.ofEnds (x0 y0 x1 y1 : Int) : Segment where
  endX := x1
  endY := y1
  dx := (x1 - x0).natAbs
  dy := -(y1 - y0).natAbs
  stepX := if x0 < x1 then 1 else -1
  stepY := if y0 < y1 then 1 else -1

/-- Visit the points of a line in order, at most `fuel` of them, starting at `(x, y)` with a running
error. -/
@[specialize] def Segment.walk {β : Type} (l : Segment) (visit : β → Int → Int → β) :
    (fuel : Nat) → (x y err : Int) → β → β
  | 0, _, _, _, b => b
  | fuel + 1, x, y, err, b =>
    let b := visit b x y
    if x = l.endX ∧ y = l.endY then b
    else
      let e2 := 2 * err
      let (err, x) := if l.dy ≤ e2 then (err + l.dy, x + l.stepX) else (err, x)
      let (err, y) := if e2 ≤ l.dx then (err + l.dx, y + l.stepY) else (err, y)
      l.walk visit fuel x y err b

/-- Visit the points of a line from one end to the other. The walk ends at the far end; its length
bounds the number of steps. -/
@[inline] def foldLine {β : Type} (x0 y0 x1 y1 : Int) (visit : β → Int → Int → β) (b : β) : β :=
  let l := Segment.ofEnds x0 y0 x1 y1
  l.walk visit ((l.dx - l.dy).toNat + 1) x0 y0 (l.dx + l.dy) b

/-- The points of a line from one end to the other. -/
def linePoints (x0 y0 x1 y1 : Int) : List (Int × Int) :=
  (foldLine x0 y0 x1 y1 (fun ps x y => (x, y) :: ps) []).reverse

/-- Draw a line between two points. -/
def Surface.drawLine (s : Surface) (x0 y0 x1 y1 : Int) (p : Pixel) : Surface :=
  foldLine x0 y0 x1 y1 (fun s x y => s.put x y p) s

end TickDesktop
