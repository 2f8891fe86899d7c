import TickDesktop.Config.Text
import TickDesktop.Draw.Line
import TickDesktop.Draw.Round
import TickDesktop.SessionSlot
import TickDesktop.Proofs.Composition
import TickDesktop.Proofs.Requests
import TickDesktop.Proofs.Bench
import TickDesktop.Proofs.Numbering
import TickDesktop.Proofs.Freshness
import TickDesktop.Proofs.Settling
import TickDesktop.Proofs.SessionRun
import TickDesktop.Proofs.Lifecycle
import TickDesktop.Proofs.Frames
import TickDesktop.Proofs.SchedulerRun
import TickDesktop.Proofs.Stopping
import TickDesktop.Proofs.SessionMoves
import TickDesktop.Proofs.Numerals
import TickDesktop.Proofs.Rounding
import TickDesktop.Proofs.SingleText
import TickDesktop.Proofs.Teardown
import TickDesktop.Proofs.SingleOrder
import TickDesktop.Proofs.ConfigValues
import TickDesktop.Proofs.ConfigRoundTrip
import TickDesktop.Proofs.LastAssignment
import TickDesktop.Proofs.ByteOffsets
import TickDesktop.Proofs.FrameCount
import TickDesktop.Proofs.ByteReader
import TickDesktop.Proofs.ConfigBounds
import TickDesktop.Proofs.WindowOrigins
import TickDesktop.Proofs.ClockDrift
import TickDesktop.Proofs.ClockText
import TickDesktop.Proofs.NamedWindows
import TickDesktop.Proofs.Fading
import TickDesktop.Proofs.Sweep
import TickDesktop.Proofs.Receivers
import TickDesktop.Proofs.Deeds
import TickDesktop.Proofs.Refusals
import TickDesktop.Proofs.Handover
import TickDesktop.Proofs.Placing
import TickDesktop.Proofs.Passes
import TickDesktop.Proofs.Pictures
import TickDesktop.Proofs.ElapsedTime
import TickDesktop.Proofs.FurthestFrame
import TickDesktop.Proofs.ConsoleHistory
import TickDesktop.Proofs.ConsoleView
import TickDesktop.Proofs.Areas
import TickDesktop.Proofs.Rectangles
import TickDesktop.Proofs.LineWalk
import TickDesktop.Proofs.ColorSpelling
import TickDesktop.Proofs.RepeatCount
import TickDesktop.Proofs.Discs
import TickDesktop.Proofs.Lettering
import TickDesktop.Proofs.Keystrokes
import TickDesktop.Proofs.Centering
