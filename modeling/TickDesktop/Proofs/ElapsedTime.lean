import Mathlib.Algebra.GroupWithZero.Nat
import TickDesktop.Proofs.FrameCount

/-!
# No time is lost

A counter of at least a thousand ticks per second is read in whole milliseconds, and milliseconds
are counted in whole frames of at most a thousand per second. Neither number outgrows 64 bits, so
both are exactly the quotients that they stand for. A clock that takes a reading for each frame
measures every frame from the reading before: over readings that never go back, the times of the
frames add up to the time from the first reading to the last, and after a reading that goes back the
clock measures as if it had just been started.
-/
namespace TickDesktop

/-! ## Readings of a counter -/

namespace Timer

/-- The reading of a counter of a frequency after a number of ticks. -/
def reading (hz : Nat) (ticks : UInt64) : Nat := milliseconds ⟨hz, ticks⟩

variable {hz : Nat}

theorem reading_lt (hz : Nat) (ticks : UInt64) : reading hz ticks < 2 ^ 64 :=
  Nat.mod_lt _ (by decide)

/-- No reading is cut. -/
theorem quotient_lt (hhz : 1000 ≤ hz) (ticks : UInt64) : ticks.toNat * 1000 / hz < 2 ^ 64 := by
  have hticks := ticks.toNat_lt
  have hproduct : ticks.toNat * 1000 ≤ hz * ticks.toNat := by
    rw [Nat.mul_comm hz]
    exact Nat.mul_le_mul_left ticks.toNat hhz
  exact Nat.lt_of_le_of_lt (Nat.div_le_of_le_mul hproduct) hticks

theorem reading_eq (hhz : 1000 ≤ hz) (ticks : UInt64) :
    reading hz ticks = ticks.toNat * 1000 / hz := by
  rw [reading, milliseconds, Nat.max_eq_left (Nat.le_trans (by decide) hhz)]
  exact Nat.mod_eq_of_lt (quotient_lt hhz ticks)

theorem reading_mono (hhz : 1000 ≤ hz) {ticks ticks' : UInt64} (h : ticks ≤ ticks') :
    reading hz ticks ≤ reading hz ticks' := by
  rw [reading_eq hhz, reading_eq hhz]
  exact Nat.div_le_div_right (Nat.mul_le_mul_right 1000 (UInt64.le_iff_toNat_le.1 h))

end Timer

/-- The frames of two times together are those of both, or one more. -/
theorem wholeFrames_add {a b rate : Nat} (h : a + b < 0x10000000000000000) (hrate : rate ≤ 1000) :
    wholeFrames a rate + wholeFrames b rate ≤ wholeFrames (a + b) rate ∧
      wholeFrames (a + b) rate ≤ wholeFrames a rate + wholeFrames b rate + 1 := by
  rw [wholeFrames_eq (by omega) hrate, wholeFrames_eq (by omega) hrate, wholeFrames_eq h hrate,
    Nat.add_mul]
  omega

/-! ## Runs of a clock -/

namespace FrameClock

/-- The clock after several readings. -/
def after (c : FrameClock) (readings : List Nat) : FrameClock :=
  readings.foldl (fun c now => (c.sample now).2) c

/-- The contexts of the frames at several readings. -/
def contexts (c : FrameClock) : List Nat → List FrameContext
  | [] => []
  | now :: later => (c.sample now).1 :: (c.sample now).2.contexts later

/-- The milliseconds that the frames at several readings are told to have taken. -/
def deltas (c : FrameClock) : List Nat → List Nat
  | [] => []
  | now :: later => (now - c.lastMs) :: (c.sample now).2.deltas later

variable {c : FrameClock} {readings : List Nat}

theorem lastMs_after (c : FrameClock) (readings : List Nat) :
    (c.after readings).lastMs = readings.getLastD c.lastMs := by
  induction readings generalizing c with
  | nil => rfl
  | cons now later ih =>
    rw [List.getLastD_cons]
    exact ih (c.sample now).2

@[simp] theorem rate_after (c : FrameClock) (readings : List Nat) :
    (c.after readings).rate = c.rate := by
  induction readings generalizing c with
  | nil => rfl
  | cons now later ih => exact ih (c.sample now).2

theorem map_delta_contexts (c : FrameClock) (readings : List Nat) :
    (c.contexts readings).map (·.delta) = (c.deltas readings).map seconds := by
  induction readings generalizing c with
  | nil => rfl
  | cons now later ih => exact congrArg (seconds (now - c.lastMs) :: ·) (ih (c.sample now).2)

theorem map_tick_contexts (c : FrameClock) (readings : List Nat) :
    (c.contexts readings).map (·.tick) = readings.map (wholeFrames · c.rate) := by
  induction readings generalizing c with
  | nil => rfl
  | cons now later ih => exact congrArg (wholeFrames now c.rate :: ·) (ih (c.sample now).2)

theorem deltas_append (c : FrameClock) (before later : List Nat) :
    c.deltas (before ++ later) = c.deltas before ++ (c.after before).deltas later := by
  induction before generalizing c with
  | nil => rfl
  | cons now before ih => exact congrArg ((now - c.lastMs) :: ·) (ih (c.sample now).2)

/-- Over readings that never go back, no time is dropped and none is counted twice. -/
theorem sum_deltas (h : (c.lastMs :: readings).Pairwise (· ≤ ·)) :
    c.lastMs + (c.deltas readings).sum = readings.getLastD c.lastMs := by
  induction readings generalizing c with
  | nil => rfl
  | cons now later ih =>
    obtain ⟨hfirst, hlater⟩ := List.pairwise_cons.1 h
    have hnow : c.lastMs ≤ now := hfirst now List.mem_cons_self
    have hrest : now + ((c.sample now).2.deltas later).sum = later.getLastD now :=
      ih (c := (c.sample now).2) hlater
    rw [deltas, List.sum_cons, List.getLastD_cons, ← hrest]
    omega

/-- At a reading that goes back no time has passed, and the clock starts again from there. -/
theorem deltas_back (c : FrameClock) (before : List Nat) {back : Nat}
    (h : back ≤ before.getLastD c.lastMs) (later : List Nat) :
    c.deltas (before ++ back :: later) =
      c.deltas before ++ 0 :: ({ c with lastMs := back } : FrameClock).deltas later := by
  rw [← lastMs_after] at h
  have hstart : ((c.after before).sample back).2 = { c with lastMs := back } := by
    rw [sample, rate_after]
  rw [deltas_append, deltas, hstart, Nat.sub_eq_zero_of_le h]

/-- Frames at readings that never go back are numbered in order. -/
theorem sorted_contexts (hrate : c.rate ≤ 1000) (hsorted : readings.Pairwise (· ≤ ·))
    (hbounded : ∀ now ∈ readings, now < 0x10000000000000000) :
    (c.contexts readings).Pairwise fun f g => f.tick ≤ g.tick := by
  have hticks : ((c.contexts readings).map (·.tick)).Pairwise (· ≤ ·) := by
    rw [map_tick_contexts, List.pairwise_map]
    exact hsorted.imp_of_mem fun _ hmem hle => wholeFrames_mono hle (hbounded _ hmem) hrate
  exact List.pairwise_map.1 hticks

theorem getLastD_map_reading (hz : Nat) (first : UInt64) (ticks : List UInt64) :
    (ticks.map (Timer.reading hz)).getLastD (Timer.reading hz first) =
      Timer.reading hz (ticks.getLastD first) := by
  rw [List.getLastD_eq_getLast?, List.getLast?_map, List.getLastD_eq_getLast?, Option.getD_map]

/-- Readings of a counter of at least a thousand ticks per second are exact and in order, and so are
counts of at most a thousand frames per second, which also add up but for one frame. Whatever
readings a clock takes, each frame is told the time since the reading before. Over counts that never
go back the frames are numbered in order and their times add up to all the time that has passed. A
reading that goes back adds none, and the times after it are those of a clock started there. -/
theorem no_time_lost (hz rate : Nat) (hhz : 1000 ≤ hz) (hrate : rate ≤ 1000) :
    (∀ t : UInt64, t.toNat * 1000 / hz < 2 ^ 64 ∧
      Timer.reading hz t = t.toNat * 1000 / hz) ∧
    (∀ t t' : UInt64, t ≤ t' → Timer.reading hz t ≤ Timer.reading hz t') ∧
    (∀ ms < 2 ^ 64, ms * rate / 1000 < 2 ^ 64 ∧ wholeFrames ms rate = ms * rate / 1000) ∧
    (∀ ms ms', ms ≤ ms' → ms' < 2 ^ 64 → wholeFrames ms rate ≤ wholeFrames ms' rate) ∧
    (∀ a b, a + b < 2 ^ 64 →
      wholeFrames a rate + wholeFrames b rate ≤ wholeFrames (a + b) rate ∧
        wholeFrames (a + b) rate ≤ wholeFrames a rate + wholeFrames b rate + 1) ∧
    ∀ (first : UInt64) (ticks : List UInt64),
      let clock := start (Timer.reading hz first) rate
      let frames := clock.contexts (ticks.map (Timer.reading hz))
      let deltas := clock.deltas (ticks.map (Timer.reading hz))
      frames.map (·.delta) = deltas.map seconds ∧
      ((first :: ticks).Pairwise (· ≤ ·) →
        (frames.Pairwise fun f g => f.tick ≤ g.tick) ∧
          Timer.reading hz first + deltas.sum = Timer.reading hz (ticks.getLastD first)) ∧
      ∀ before back later, ticks = before ++ back :: later →
        Timer.reading hz back ≤ Timer.reading hz (before.getLastD first) →
        deltas = clock.deltas (before.map (Timer.reading hz)) ++
          0 :: (start (Timer.reading hz back) rate).deltas (later.map (Timer.reading hz)) := by
  refine ⟨fun t => ⟨Timer.quotient_lt hhz t, Timer.reading_eq hhz t⟩,
    fun t t' => Timer.reading_mono hhz, fun ms hms => ?_,
    fun ms ms' hle hms' => wholeFrames_mono hle hms' hrate,
    fun a b hab => wholeFrames_add hab hrate,
    fun first ticks => ⟨map_delta_contexts _ _, fun hsorted => ⟨?_, ?_⟩, ?_⟩⟩
  · have hexact := wholeFrames_eq hms hrate
    exact ⟨hexact ▸ Nat.mod_lt _ (by decide), hexact⟩
  · refine sorted_contexts (Nat.max_le.2 ⟨hrate, by decide⟩) ?_ ?_
    · exact List.pairwise_map.2 ((List.pairwise_cons.1 hsorted).2.imp (Timer.reading_mono hhz))
    · intro now hnow
      obtain ⟨t, -, rfl⟩ := List.mem_map.1 hnow
      exact Timer.reading_lt hz t
  · have hreadings : ((first :: ticks).map (Timer.reading hz)).Pairwise (· ≤ ·) :=
      List.pairwise_map.2 (hsorted.imp (Timer.reading_mono hhz))
    rw [← getLastD_map_reading]
    exact sum_deltas (c := start (Timer.reading hz first) rate) hreadings
  · rintro before back later rfl hback
    rw [← getLastD_map_reading] at hback
    rw [List.map_append, List.map_cons]
    exact deltas_back _ _ hback _

/-- A counter of 1193 ticks per second, up to its last count and with a count that goes back. -/
theorem no_time_lost_up_to_last_count :
    let clock := start (Timer.reading 1193 7) 60
    let forth : List UInt64 := [1000, 1000, 50000, 0xFFFFFFFFFFFFFFFF]
    let back : List UInt64 := [1000, 400, 50000]
    1000 ≤ 1193 ∧ 60 ≤ 1000 ∧ (7 :: forth).Pairwise (· ≤ ·) ∧
      Timer.reading 1193 400 ≤ Timer.reading 1193 1000 ∧
      Timer.reading 1193 7 + (clock.deltas (forth.map (Timer.reading 1193))).sum =
        15462484554660143851 ∧
      clock.deltas (back.map (Timer.reading 1193)) = [833, 0, 41576] := by
  intro clock forth back
  have hsorted : (7 :: forth).Pairwise (· ≤ ·) := by decide
  have hle : Timer.reading 1193 400 ≤ Timer.reading 1193 1000 := by decide
  obtain ⟨-, -, -, -, -, hruns⟩ := no_time_lost 1193 60 (by decide) (by decide)
  obtain ⟨-, hforth, -⟩ := hruns 7 forth
  obtain ⟨-, -, hback⟩ := hruns 7 back
  refine ⟨by decide, by decide, hsorted, hle, ?_, ?_⟩
  · exact (hforth hsorted).2.trans (by decide)
  · exact (hback [1000] 400 [50000] rfl hle).trans (by decide)

end FrameClock

end TickDesktop
