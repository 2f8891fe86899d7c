import Mathlib.Algebra.Group.Nat.Defs
import Mathlib.Data.List.DropRight
import Mathlib.Data.List.Induction
import TickDesktop.Proofs.FrameCount
import TickDesktop.Proofs.Placing
import TickDesktop.Window.Basic

/-!
# Counting up to the furthest frame

A clock overlay may see frames in any order, the same one twice or one that lies before others that
it has seen. It counts the whole seconds between the first frame and the furthest one: a frame that
goes back leaves the clock as it is, and any other takes the count up to itself. No number on the
way is greater than the frame that is counted, so 64 bits are enough for all of them.
-/
namespace TickDesktop

namespace ClockFace

/-- What can happen to a clock overlay. -/
inductive Act where
  | frame (p : Pane) (tick : UInt64)
  | reset

/-- The frame that an act brings, if it does. -/
def Act.tick? : Act → Option Nat
  | frame _ tick => some tick.toNat
  | reset => none

def obey (c : ClockFace) : Act → ClockFace
  | .frame p tick => (c.update p tick.toNat).1
  | .reset => c.reset

/-- The clock after several acts. -/
def obeyAll (c : ClockFace) (acts : List Act) : ClockFace := acts.foldl obey c

/-- The frames since the clock was last set back. -/
def ticksOf (acts : List Act) : List Nat :=
  (acts.rtakeWhile (·.tick?.isSome)).filterMap Act.tick?

/-- One frame in numbers of 64 bits. It fails at the first number that does not fit, and at a
division by zero. -/
def update? (c : ClockFace) (p : Pane) (tick : Nat) : Option (ClockFace × Pane) :=
  match c.lastTick with
  | none => some ({ c with lastTick := some tick }, { p with dirty := true })
  | some last =>
    if c.rate ≤ tick - last then do
      let whole ← if c.rate = 0 then none else some ((tick - last) / c.rate)
      let elapsed ← address? (c.elapsed + whole)
      let mark ← address? (last + (← address? (whole * c.rate)))
      return ({ c with elapsed := elapsed, lastTick := some mark }, { p with dirty := true })
    else some (c, p)

@[simp] theorem ticksOf_nil : ticksOf [] = [] := rfl

@[simp] theorem ticksOf_frame (acts : List Act) (p : Pane) (tick : UInt64) :
    ticksOf (acts ++ [.frame p tick]) = ticksOf acts ++ [tick.toNat] := by
  rw [ticksOf, List.rtakeWhile_concat_pos _ _ _ rfl, List.filterMap_append]
  rfl

@[simp] theorem ticksOf_reset (acts : List Act) : ticksOf (acts ++ [.reset]) = [] := by
  rw [ticksOf, List.rtakeWhile_concat_neg _ _ _ (by simp [Act.tick?])]
  rfl

@[simp] theorem obeyAll_concat (c : ClockFace) (acts : List Act) (a : Act) :
    c.obeyAll (acts ++ [a]) = (c.obeyAll acts).obey a := List.foldl_concat ..

@[simp] theorem rate_obeyAll (c : ClockFace) (acts : List Act) :
    (c.obeyAll acts).rate = c.rate := by
  induction acts using List.reverseRecOn with
  | nil => rfl
  | append_singleton acts a ih =>
    rw [obeyAll_concat, ← ih]
    cases a with
    | frame p tick => exact rate_update ..
    | reset => rfl

variable {c : ClockFace} {first last tick : Nat}

/-! ## One frame -/

/-- The mark is less than a second away from the frame that was counted last. -/
theorem Counted.lt_mark (h : c.Counted first last) (hrate : 0 < c.rate) :
    last < first + c.elapsed * c.rate + c.rate := by
  have hnext : last - first < (c.elapsed + 1) * c.rate := by
    rw [h.elapsed]
    exact (Nat.div_lt_iff_lt_mul hrate).1 (Nat.lt_succ_self _)
  rw [Nat.succ_mul] at hnext
  omega

theorem Counted.update_of_le (h : c.Counted first last) (hrate : 0 < c.rate) (p : Pane)
    (htick : tick ≤ last) : c.update p tick = (c, p) := by
  have hmark := h.lt_mark hrate
  rw [ClockFace.update, h.lastTick]
  exact if_neg (by omega)

theorem Counted.update_furthest (h : c.Counted first last) (hrate : 0 < c.rate) (p : Pane)
    (tick : Nat) : (c.update p tick).1.Counted first (max last tick) := by
  rcases Nat.le_total last tick with hforth | hback
  · rw [Nat.max_eq_right hforth]
    exact h.update hrate p hforth
  · rw [Nat.max_eq_left hback, h.update_of_le hrate p hback]
    exact h

/-- The clock asks to be shown just if it shows another second. -/
theorem Counted.pane_update (h : c.Counted first last) (hrate : 0 < c.rate) (p : Pane)
    (tick : Nat) : (c.update p tick).2 =
      { p with dirty := p.dirty || decide ((c.update p tick).1.elapsed ≠ c.elapsed) } := by
  rw [ClockFace.update, h.lastTick]
  dsimp only
  split
  · next hwhole =>
    have hpositive := Nat.div_pos hwhole hrate
    rw [decide_eq_true (Nat.ne_of_gt (Nat.lt_add_of_pos_right hpositive)), Bool.or_true]
  · simp

/-- No number that a frame brings in is greater than the frame. -/
theorem Counted.update?_eq (h : c.Counted first last) (hrate : 0 < c.rate) (p : Pane)
    (htick : tick < 2 ^ 64) : c.update? p tick = some (c.update p tick) := by
  rw [update?, ClockFace.update, h.lastTick]
  dsimp only
  split
  · next hwhole =>
    have hdiv := Nat.div_mul_le_self (tick - (first + c.elapsed * c.rate)) c.rate
    -- a second has at least one frame, so there are no more seconds than frames
    have helapsed := Nat.le_mul_of_pos_right c.elapsed hrate
    have hmore :=
      Nat.le_mul_of_pos_right ((tick - (first + c.elapsed * c.rate)) / c.rate) hrate
    rw [if_neg (Nat.ne_of_gt hrate), Option.bind_eq_bind, Option.bind_some,
      address?_of_le (by omega), address?_of_le (by omega)]
    dsimp only [bind, Option.bind]
    rw [address?_of_le (by omega)]
    rfl
  · rfl

/-! ## Many frames -/

/-- A clock has counted from the first of some frames to the furthest one. -/
def StandsAt (c : ClockFace) : List Nat → Prop
  | [] => c.Unstarted
  | first :: later => c.Counted first (later.foldl max first)

variable {ticks : List Nat}

theorem StandsAt.update (h : c.StandsAt ticks) (hrate : 0 < c.rate) (p : Pane) (tick : Nat) :
    (c.update p tick).1.StandsAt (ticks ++ [tick]) := by
  cases ticks with
  | nil => exact Unstarted.update h p tick
  | cons first later =>
    rw [List.cons_append, StandsAt, List.foldl_concat]
    exact Counted.update_furthest h hrate p tick

theorem Unstarted.standsAt_obeyAll (h : c.Unstarted) (hrate : 0 < c.rate) (acts : List Act) :
    (c.obeyAll acts).StandsAt (ticksOf acts) := by
  induction acts using List.reverseRecOn with
  | nil => exact h
  | append_singleton acts a ih =>
    rw [obeyAll_concat]
    cases a with
    | frame p tick =>
      rw [ticksOf_frame]
      exact ih.update (by rwa [rate_obeyAll]) p tick.toNat
    | reset =>
      rw [ticksOf_reset]
      exact unstarted_reset _

theorem StandsAt.elapsed_eq (h : c.StandsAt ticks) :
    c.elapsed = (ticks.max?.getD 0 - ticks.head?.getD 0) / c.rate := by
  cases ticks with
  | nil =>
    rw [Unstarted.elapsed h]
    exact (Nat.zero_div _).symm
  | cons first later => exact Counted.elapsed h

theorem StandsAt.pane_update (h : c.StandsAt ticks) (hrate : 0 < c.rate) (p : Pane) (tick : Nat) :
    (c.update p tick).2 =
      { p with
        dirty := p.dirty || decide (ticks = [] ∨ (c.update p tick).1.elapsed ≠ c.elapsed) } := by
  cases ticks with
  | nil =>
    rw [decide_eq_true (.inl rfl), Bool.or_true, ClockFace.update, Unstarted.lastTick h]
  | cons first later => simpa using Counted.pane_update h hrate p tick

theorem StandsAt.update?_eq (h : c.StandsAt ticks) (hrate : 0 < c.rate) (p : Pane)
    (htick : tick < 2 ^ 64) : c.update? p tick = some (c.update p tick) := by
  cases ticks with
  | nil => rw [update?, ClockFace.update, Unstarted.lastTick h]
  | cons first later => exact Counted.update?_eq h hrate p htick

/-- Whatever frames a clock overlay sees, it has counted the whole seconds between the first one
since it was made or set back and the furthest one. The next frame leaves the overlay where it is,
asks for it to be shown just if it is the first one or another second is shown, and brings in no
number that does not fit into 64 bits. -/
theorem counts_up_to_furthest_frame {α : Type} [WindowClient α] (rate : Nat)
    (foreground border : Color) (acts : List Act) :
    let c := (new rate foreground border).obeyAll acts
    let ticks := ticksOf acts
    c.elapsed = (ticks.max?.getD 0 - ticks.head?.getD 0) / max rate 1 ∧
      ∀ (id : WindowId) (p : Pane) (tick : UInt64) (delta uptime : Float32),
        let c' := (new rate foreground border).obeyAll (acts ++ [.frame p tick])
        Behavior.update (.clock c : Behavior α) id p ⟨tick.toNat, delta, uptime⟩ =
            (.stay, .clock c',
              { p with dirty := p.dirty || decide (ticks = [] ∨ c'.elapsed ≠ c.elapsed) }) ∧
          c.update? p tick.toNat = some (c.update p tick.toNat) := by
  intro c ticks
  have hrate : 0 < c.rate := by
    rw [rate_obeyAll]
    exact Nat.le_max_right rate 1
  have hstands : c.StandsAt ticks :=
    (unstarted_new ..).standsAt_obeyAll (Nat.le_max_right rate 1) acts
  refine ⟨?_, fun id p tick delta uptime => ⟨?_, hstands.update?_eq hrate p tick.toNat_lt⟩⟩
  · rw [hstands.elapsed_eq, rate_obeyAll]
    rfl
  · rw [obeyAll_concat]
    exact congrArg (fun pane => (Verdict.stay, Behavior.clock _, pane))
      (hstands.pane_update hrate p tick.toNat)

/-- The greatest frame there is, between frames that go back. -/
example :
    let pane := Pane.new "c" {} 0 0 (.filled 1 1 0)
    let acts : List Act := [.frame pane 9, .reset, .frame pane 5, .frame pane 3,
      .frame pane 0xFFFFFFFFFFFFFFFF, .frame pane 4]
    ticksOf acts = [5, 3, 0xFFFFFFFFFFFFFFFF, 4] ∧
      ((new 7 .white .black).obeyAll acts).elapsed = (0xFFFFFFFFFFFFFFFF - 5) / 7 := by
  decide +kernel

end ClockFace

end TickDesktop
