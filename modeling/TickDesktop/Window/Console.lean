import TickDesktop.Draw.Text
import TickDesktop.Window.Pane

/-!
# The debug console

The console keeps the newest messages. A message equal to the newest one is counted instead of being
kept again. Below the messages stands the line that is being typed.
-/
namespace TickDesktop

/-- A kept message, and how often it came again right after. -/
structure ConsoleLine where
  text : String
  repeats : UInt32
  deriving DecidableEq

/-- The state of a console. -/
structure Console where
  /-- The kept messages, oldest first. -/
  lines : List ConsoleLine := []
  /-- The line being typed. -/
  input : String := ""
  /-- How many of the newest messages are scrolled out of sight. -/
  scroll : Nat := 0
  foreground : Color := .white
  background : Color := .rgb 0x11 0x11 0x11

namespace Console

/-- How many messages are kept. -/
def maxLines : Nat := 32

/-- How many characters of a message, and of the line being typed, are kept. -/
def maxLength : Nat := 127

/-- The first characters of a message, as many as are kept. -/
def truncate (s : String) : String := String.ofList (s.toList.take maxLength)

/-- The next count, which stays at the largest word. -/
def bump (n : UInt32) : UInt32 := if n = 0xFFFFFFFF then n else n + 1

/-- Keep a message. The result tells whether it was kept as a line of its own. -/
def push (c : Console) (message : String) : Bool × Console :=
  let text := truncate message
  let fresh : Bool × Console :=
    (true, { c with
      lines := (if c.lines.length = maxLines then c.lines.drop 1 else c.lines) ++ [⟨text, 0⟩] })
  match c.lines.getLast? with
  | some last =>
    if last.text = text then
      (false, { c with lines := c.lines.dropLast ++ [{ last with repeats := bump last.repeats }] })
    else fresh
  | none => fresh

/-- The height of a row. -/
def rowHeight : Nat := 8

/-- The margin above the first row. -/
def marginY : Nat := 2

/-- The margin to the left of every row. -/
def marginX : Nat := 4

/-- How many messages fit into a window of a height, with one row left for the line being typed.
What lies below the margin is worked out in signed numbers of 32 bits, which wrap around. -/
def rowsIn (height : Nat) : Nat :=
  let room := ((height : Int) - marginY).bmod 0x100000000
  (max (room.tdiv rowHeight - 1) 1).toNat

/-- The furthest that a window of a height can be scrolled. -/
def furthest (c : Console) (height : Nat) : Nat := c.lines.length - rowsIn height

/-- Scroll towards older messages. -/
def scrollUp (c : Console) (n height : Nat) : Console :=
  { c with scroll := min (c.scroll + n) (c.furthest height) }

/-- Scroll towards newer messages. -/
def scrollDown (c : Console) (n : Nat) : Console := { c with scroll := c.scroll - n }

/-- Scroll to the oldest message. -/
def scrollTop (c : Console) (height : Nat) : Console := { c with scroll := c.furthest height }

/-- Scroll to the newest message. -/
def scrollBottom (c : Console) : Console := { c with scroll := 0 }

/-- Scroll up by one window. -/
def pageUp (c : Console) (height : Nat) : Console := c.scrollUp (rowsIn height) height

/-- Scroll down by one window. -/
def pageDown (c : Console) (height : Nat) : Console := c.scrollDown (rowsIn height)

/-- Take back the last character typed. -/
def backspace (c : Console) : Console :=
  { c with input := String.ofList c.input.toList.dropLast }

/-- Type a character. The result tells whether there was room for it. -/
def type (c : Console) (ch : Char) : Bool × Console :=
  if c.input.toList.length < maxLength then (true, { c with input := c.input.push ch })
  else (false, c)

/-- Hand in the typed line: it becomes a message and is given back. -/
def submit (c : Console) : String × Console :=
  let line := c.input
  (line, { ({ c with input := "" }.push line).2 with scroll := 0 })

/-- The row of a message, with its count when it came more than once. -/
def rowText (l : ConsoleLine) : List Char :=
  if l.repeats = 0 then l.text.toList
  else l.text.toList ++ " (x".toList ++ Text.digits 10 (l.repeats + 1).toNat ++ [')']

/-- The messages in sight. -/
def shown (c : Console) (height : Nat) : List ConsoleLine :=
  let count := min c.lines.length (rowsIn height)
  (c.lines.drop (c.lines.length - count - c.scroll)).take count

/-- Draw rows of text from a height on. -/
def drawRows (s : Surface) (p : Pixel) : Int → List (List Char) → Surface
  | _, [] => s
  | y, row :: rows => drawRows (s.drawText Font.ascii marginX y row p) p (y + rowHeight) rows

/-- What stands before the line being typed. -/
def prompt : List Char := ['>', ' ']

/-- Paint the messages in sight and, in an interactive window, the line being typed with its cursor.
A window scrolled too far comes back into range. -/
def render (c : Console) (p : Pane) : Console × Pane :=
  let height := p.surface.height
  let c := { c with scroll := min c.scroll (c.furthest height) }
  let ink := c.foreground.toPixel
  let rows := (c.shown height).map rowText
  let y : Int := marginY + rowHeight * rows.length
  let typed := c.input.toList
  let inputX : Int := marginX + prompt.length * Glyph.width
  (c, p.paint fun surface =>
    let s := drawRows (surface.fill c.background.toPixel) ink marginY rows
    if p.flags.interactive then
      ((s.drawText Font.ascii marginX y prompt ink).drawText Font.ascii inputX y typed
        ink).drawGlyph (Font.ascii '_') (inputX + typed.length * Glyph.width) y ink
    else s)

end Console

end TickDesktop
