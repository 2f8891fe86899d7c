import TickDesktop.Timing
import TickDesktop.Window.ClockFace

/-!
# Counting frames and seconds

Milliseconds are counted in whole frames, and a clock overlay counts frames in whole seconds. It
carries the frames left over on to the next second, so all it knows at any frame is how many whole
seconds of frames lie between the first frame it saw and this one. Rounding down twice loses or
gains at most one second over any stretch of time.
-/
namespace TickDesktop

/-- At up to a thousand frames per second, no count of frames is cut. -/
theorem wholeFrames_eq {ms rate : Nat} (hms : ms < 0x10000000000000000) (hrate : rate ≤ 1000) :
    wholeFrames ms rate = ms * rate / 1000 := by
  have hproduct : ms * rate ≤ ms * 1000 := Nat.mul_le_mul_left ms hrate
  exact Nat.mod_eq_of_lt (by omega)

theorem wholeFrames_mono {ms ms' rate : Nat} (h : ms ≤ ms') (hms : ms' < 0x10000000000000000)
    (hrate : rate ≤ 1000) : wholeFrames ms rate ≤ wholeFrames ms' rate := by
  rw [wholeFrames_eq (Nat.lt_of_le_of_lt h hms) hrate, wholeFrames_eq hms hrate]
  exact Nat.div_le_div_right (Nat.mul_le_mul_right rate h)

/-- The whole seconds of the frames between two readings are those of the time between them, or one
more. -/
theorem seconds_between {first now rate : Nat} (h : first ≤ now) (hrate : 0 < rate) :
    (now - first) / 1000 ≤ (now * rate / 1000 - first * rate / 1000) / rate ∧
      (now * rate / 1000 - first * rate / 1000) / rate ≤ (now - first) / 1000 + 1 := by
  obtain ⟨time, rfl⟩ := Nat.exists_eq_add_of_le h
  rw [Nat.add_sub_cancel_left, Nat.add_mul]
  -- the frames of the time itself, which the frames counted exceed by at most one
  have hframes : time * rate / 1000 ≤ (first * rate + time * rate) / 1000 - first * rate / 1000 ∧
      (first * rate + time * rate) / 1000 - first * rate / 1000 ≤ time * rate / 1000 + 1 := by
    omega
  have hseconds : time * rate / 1000 / rate = time / 1000 := by
    rw [Nat.div_div_eq_div_mul, Nat.mul_comm 1000 rate, ← Nat.div_div_eq_div_mul,
      Nat.mul_div_cancel time hrate]
  have hmore : (time * rate / 1000 + 1) / rate ≤ time / 1000 + 1 := by
    calc (time * rate / 1000 + 1) / rate
        ≤ (time * rate / 1000 + rate) / rate := Nat.div_le_div_right (by omega)
      _ = time / 1000 + 1 := by rw [Nat.add_div_right _ hrate, hseconds]
  exact ⟨hseconds ▸ Nat.div_le_div_right hframes.1,
    Nat.le_trans (Nat.div_le_div_right hframes.2) hmore⟩

namespace ClockFace

/-- A clock that has not seen a frame yet. -/
structure Unstarted (c : ClockFace) : Prop where
  elapsed : c.elapsed = 0
  lastTick : c.lastTick = none

/-- A clock has counted the whole seconds between two frames, and has its mark on the last frame
that completed one. -/
structure Counted (c : ClockFace) (first last : Nat) : Prop where
  le : first ≤ last
  elapsed : c.elapsed = (last - first) / c.rate
  lastTick : c.lastTick = some (first + c.elapsed * c.rate)

theorem unstarted_new (rate : Nat) (foreground border : Color) :
    (new rate foreground border).Unstarted := ⟨rfl, rfl⟩

theorem unstarted_reset (c : ClockFace) : c.reset.Unstarted := ⟨rfl, rfl⟩

variable {c : ClockFace}

@[simp] theorem rate_update (c : ClockFace) (p : Pane) (tick : Nat) :
    (c.update p tick).1.rate = c.rate := by
  unfold update
  split
  · rfl
  · dsimp only
    split <;> rfl

/-- The first frame starts the count. -/
theorem Unstarted.update (h : c.Unstarted) (p : Pane) (tick : Nat) :
    (c.update p tick).1.Counted tick tick := by
  have hupdate : (c.update p tick).1 = { c with lastTick := some tick } := by
    rw [ClockFace.update, h.lastTick]
  rw [hupdate]
  refine ⟨Nat.le_refl tick, ?_, ?_⟩
  · simp [h.elapsed]
  · simp [h.elapsed]

/-- Every further frame takes the count up to itself. -/
theorem Counted.update {first last : Nat} (h : c.Counted first last) (hrate : 0 < c.rate)
    (p : Pane) {tick : Nat} (htick : last ≤ tick) :
    (c.update p tick).1.Counted first tick := by
  have hle := h.le
  have hmark : c.elapsed * c.rate ≤ last - first := h.elapsed ▸ Nat.div_mul_le_self _ _
  have hsince : tick - (first + c.elapsed * c.rate) = tick - first - c.elapsed * c.rate := by omega
  -- what is counted now comes on top of what was counted before
  have hwhole : c.elapsed + (tick - (first + c.elapsed * c.rate)) / c.rate =
      (tick - first) / c.rate := by
    have hback : tick - first = tick - first - c.elapsed * c.rate + c.elapsed * c.rate := by omega
    rw [hsince, hback, Nat.add_mul_div_right _ _ hrate, Nat.add_sub_cancel, Nat.add_comm]
  rw [ClockFace.update, h.lastTick]
  dsimp only
  split
  · refine ⟨Nat.le_trans hle htick, hwhole, ?_⟩
    rw [Nat.add_mul, ← Nat.add_assoc]
  · next hshort =>
    rw [Nat.div_eq_of_lt (Nat.lt_of_not_le hshort), Nat.add_zero] at hwhole
    exact ⟨Nat.le_trans hle htick, hwhole, h.lastTick⟩

end ClockFace

end TickDesktop
