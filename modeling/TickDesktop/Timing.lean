/-!
# Time

A hardware counter ticks at a fixed frequency. Its reading in milliseconds, taken once per frame,
gives the context of that frame: how many whole frames have passed since boot, and how many seconds
since the previous reading and since boot.
-/
namespace TickDesktop

/-- A counter driven by the timer interrupt. It wraps at `2 ^ 64`. -/
structure Timer where
  hz : Nat
  ticks : UInt64

namespace Timer

/-- A counter that has not ticked yet. -/
def new (hz : Nat) : Timer := ⟨hz, 0⟩

/-- The counter after a number of ticks. -/
def advance (c : Timer) (n : UInt64) : Timer := { c with ticks := c.ticks + n }

/-- The reading in whole milliseconds, cut to 64 bits. A frequency of zero counts as one. -/
def milliseconds (c : Timer) : Nat := c.ticks.toNat * 1000 / max c.hz 1 % 0x10000000000000000

end Timer

/-- The number of whole frames in a time, cut to 64 bits. -/
def wholeFrames (ms rate : Nat) : Nat := ms * rate / 1000 % 0x10000000000000000

/-- A time in seconds, in single precision. -/
def seconds (ms : Nat) : Float32 := ms.toUInt64.toFloat32 / 1000

/-- What every update of a frame is told. -/
structure FrameContext where
  /-- Whole frames since boot. -/
  tick : Nat
  /-- Seconds since the previous frame. -/
  delta : Float32
  /-- Seconds since boot. -/
  uptime : Float32

/-- Turns readings in milliseconds into contexts. -/
structure FrameClock where
  rate : Nat
  lastMs : Nat

namespace FrameClock

/-- A clock that starts at a reading. A rate of zero counts as one. -/
def start (now rate : Nat) : FrameClock := ⟨max rate 1, now⟩

/-- The context of a frame at a reading. A reading that goes back counts as no time at all and
becomes the new reference. -/
def sample (c : FrameClock) (now : Nat) : FrameContext × FrameClock :=
  (⟨wholeFrames now c.rate, seconds (now - c.lastMs), seconds now⟩, { c with lastMs := now })

end FrameClock

end TickDesktop
