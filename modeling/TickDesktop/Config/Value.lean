import TickDesktop.Config.Basic
import TickDesktop.Pixel.Blend
import TickDesktop.Single.Shortest
import TickDesktop.Text.Blank

/-!
# Values in a configuration

Each kind of value has a type, a reader that takes a text from a configuration and gives no value
for a text it does not understand, and a writer. Numbers out of range are brought to the nearest
bound when they are read.
-/
namespace TickDesktop.Config

/-- The number in a range that is nearest to `n`. -/
def clamp (low high n : Nat) : Nat := max low (min n high)

/-- A color: hexadecimal digits after `0x`, three, six or eight of them after `#`, or a decimal
number. Up to six digits leave out the alpha and mean an opaque color; each of three digits stands
for both digits of a channel. -/
def color? (s : List Char) : Option Pixel :=
  let opaqued (n : Nat) : Pixel := UInt32.ofNat (0xFF000000 ||| n)
  match Text.trim s with
  | '0' :: 'x' :: hex | '0' :: 'X' :: hex =>
    (Text.word? 16 hex).map fun n => if hex.length ≤ 6 then opaqued n else UInt32.ofNat n
  | '#' :: hex =>
    match hex with
    | [r, g, b] => do
      let r ← Text.digitValue? 16 r
      let g ← Text.digitValue? 16 g
      let b ← Text.digitValue? 16 b
      return opaqued (r * 17 * 0x10000 + g * 17 * 0x100 + b * 17)
    | hex =>
      if hex.length = 6 then (Text.word? 16 hex).map opaqued
      else if hex.length = 8 then (Text.word? 16 hex).map UInt32.ofNat
      else none
  | s => (Text.word? 10 s).map UInt32.ofNat

/-- The spellings of a switch that is on. -/
def onWords : List String :=
  ["true", "True", "TRUE", "yes", "Yes", "YES", "1", "on", "On", "ON"]

/-- A switch. Every text that does not spell "on" means off. -/
def switch (s : List Char) : Bool := onWords.any fun w => w.toList = Text.trim s

/-- A whole number of 32 bits. -/
def number? (s : List Char) : Option Nat := Text.word? 10 (Text.trim s)

/-- What a setting is measured in. -/
inductive Kind where
  | threshold
  | extent
  | rate
  | slots
  | coordinate
  | switch
  | speed
  | color
  deriving DecidableEq

namespace Kind

/-- The values of a kind. -/
abbrev Value : Kind → Type
  | threshold => Log.Threshold
  | extent | rate | slots => Nat
  | coordinate => Int
  | switch => Bool
  | speed => Float32
  | color => Color

/-- The value that a text stands for. -/
def read? : (k : Kind) → List Char → Option k.Value
  | threshold, s => Log.Threshold.ofName? s
  | extent, s => (number? s).map (clamp 1 8192)
  | rate, s => (number? s).map (clamp 1 1000)
  | slots, s => (number? s).map (clamp 1 256)
  | coordinate, s => Text.signedWord? (Text.trim s)
  | switch, s => some (Config.switch s)
  | speed, s => (Single.read? (Text.trim s)).map (limit 0 100)
  | color, s => (color? s).map Color.ofPixel

/-- The text of a value. -/
def write : (k : Kind) → k.Value → String
  | threshold, t => t.name
  | extent, n | rate, n | slots, n => Text.decimal n
  | coordinate, v => Text.signedDecimal v
  | switch, b => if b then "true" else "false"
  | speed, x => String.ofList (Single.text x)
  | color, c => "0x" ++ Text.upperHexadecimal 8 c.toPixel.toNat

end Kind

end TickDesktop.Config
