import TickDesktop.Plane.Surface
import TickDesktop.Timing

/-!
# Panes

A pane is what every window has, whatever it shows: a title, flags, a place on the screen and a
private surface to paint on.
-/
namespace TickDesktop

/-- The properties of a window that are either on or off. -/
structure WindowFlags where
  visible : Bool := false
  fadeOut : Bool := false
  topmost : Bool := false
  interactive : Bool := false
  modal : Bool := false
  deriving DecidableEq

namespace WindowFlags

/-- The flags of a number's lowest five bits. -/
def ofBits (n : Nat) : WindowFlags :=
  ⟨n.testBit 0, n.testBit 1, n.testBit 2, n.testBit 3, n.testBit 4⟩

/-- The number with a bit for each flag. -/
def bits (f : WindowFlags) : Nat :=
  f.visible.toNat + 2 * f.fadeOut.toNat + 4 * f.topmost.toNat + 8 * f.interactive.toNat +
    16 * f.modal.toNat

@[simp] theorem ofBits_bits (f : WindowFlags) : ofBits f.bits = f := by
  obtain ⟨_ | _, _ | _, _ | _, _ | _, _ | _⟩ := f <;> decide

/-- The names of the flags that are on. -/
def text (f : WindowFlags) : String :=
  let named := [(f.visible, "VISIBLE"), (f.fadeOut, "FADE_OUT"), (f.topmost, "TOPMOST"),
    (f.interactive, "INTERACTIVE"), (f.modal, "MODAL")]
  match named.filter (·.1) with
  | [] => "0x0"
  | fs => " | ".intercalate (fs.map (·.2))

end WindowFlags

/-- Where a window is and how large. -/
structure Geometry where
  x : Int
  y : Int
  width : Nat
  height : Nat

/-- What an update of a window asks for. -/
inductive Verdict where
  | stay
  /-- The window is removed and destroyed once the pass is over. -/
  | destroy
  deriving DecidableEq

/-- The state common to all windows. -/
structure Pane where
  title : String
  flags : WindowFlags
  x : Int
  y : Int
  background : Color
  /-- The opacity of the whole window, on top of the alpha of its pixels. -/
  opacity : Float32
  /-- Whether the window has changed since it was last shown. -/
  dirty : Bool
  /-- Who had the window registered. -/
  owner : Option String
  surface : Surface

namespace Pane

/-- The pane of a fresh window: black, opaque, not shown yet, owned by nobody. -/
def new (title : String) (flags : WindowFlags) (x y : Int) (surface : Surface) : Pane where
  title := title
  flags := flags
  x := x
  y := y
  background := .black
  opacity := 1
  dirty := true
  owner := none
  surface := surface

/-- The pane after its surface went through `f`. -/
@[inline] def paint (p : Pane) (f : Surface → Surface) : Pane := { p with surface := f p.surface }

end Pane

end TickDesktop
