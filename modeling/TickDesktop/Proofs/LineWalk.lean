import Mathlib.Algebra.Order.Field.Rat
import Mathlib.Algebra.Order.Ring.Abs
import Mathlib.Data.List.Range
import Mathlib.Tactic.FieldSimp
import Mathlib.Tactic.Linarith
import Mathlib.Tactic.Ring
import TickDesktop.Draw.Line
import TickDesktop.Proofs.Areas
import TickDesktop.Proofs.Placing

/-!
# The walk along a line

A walk takes as many steps as the longer one of the two distances between its ends. After `k` of
them it has gone along each axis the share of the distance that is due, rounded to the nearest whole
number. The running error is the difference of two products of shares and distances; what it says
about an axis is whether the next share is greater by one. So the walk follows the ideal segment at
half a pixel, ends at the far end, and neither needs numbers beyond 32 bits nor runs out of steps.
-/
namespace TickDesktop

/-! ## Machine numbers -/

/-- A step along one axis, if there is one: the error that it leaves and the coordinate that it
leads to, as signed numbers of 32 bits. -/
def advance? (moves : Prop) [Decidable moves] (err rise place step : Int) : Option (Int × Int) :=
  if moves then do return (← signed32? (err + rise), ← signed32? (place + step))
  else some (err, place)

/-- A walk in machine numbers. It fails if its steps run out before it is at its end. -/
def Segment.walk? {β : Type} (l : Segment) (visit : β → Int → Int → β) :
    (fuel : Nat) → (x y err : Int) → β → Option β
  | 0, _, _, _, _ => none
  | fuel + 1, x, y, err, b =>
    let b := visit b x y
    if x = l.endX ∧ y = l.endY then some b
    else do
      let e2 ← signed32? (2 * err)
      let (err, x) ← advance? (l.dy ≤ e2) err l.dy x l.stepX
      let (err, y) ← advance? (e2 ≤ l.dx) err l.dx y l.stepY
      l.walk? visit fuel x y err b

/-- The fixed part of a walk in machine numbers. -/
def Segment.ofEnds? (x0 y0 x1 y1 : Int) : Option Segment := do
  let dx ← signed32? (← signed32? (x1 - x0)).natAbs
  let dy ← signed32? (-(← signed32? (← signed32? (y1 - y0)).natAbs))
  return { endX := x1, endY := y1, dx, dy
           stepX := if x0 < x1 then 1 else -1, stepY := if y0 < y1 then 1 else -1 }

/-- Drawing a line, in machine numbers. -/
def Surface.drawLine? (s : Surface) (x0 y0 x1 y1 : Int) (p : Pixel) : Option Surface := do
  let l ← Segment.ofEnds? x0 y0 x1 y1
  let err ← signed32? (l.dx + l.dy)
  let steps ← unsigned32? (l.dx.natAbs + l.dy.natAbs)
  let limit ← address? (steps + 1)
  l.walk? (fun s x y => s.put x y p) limit x0 y0 err s

theorem advance?_of_mem {moves : Prop} [Decidable moves] {err rise place step : Int}
    (herr : moves → -0x80000000 ≤ err + rise ∧ err + rise ≤ 0x7FFFFFFF)
    (hplace : moves → -0x80000000 ≤ place + step ∧ place + step ≤ 0x7FFFFFFF) :
    advance? moves err rise place step =
      some (if moves then (err + rise, place + step) else (err, place)) := by
  rw [advance?]
  split
  · obtain ⟨hlow, hhigh⟩ := herr ‹_›
    obtain ⟨hleft, hright⟩ := hplace ‹_›
    rw [signed32?_of_mem hlow hhigh, signed32?_of_mem hleft hright]
    rfl
  · rfl

theorem eq_of_advance? {moves : Prop} [Decidable moves] {err rise place step : Int}
    {q : Int × Int} (h : advance? moves err rise place step = some q) :
    q = if moves then (err + rise, place + step) else (err, place) := by
  rw [advance?] at h
  split at h
  · obtain ⟨err', herr, h⟩ := Option.bind_eq_some_iff.1 h
    obtain ⟨place', hplace, h⟩ := Option.bind_eq_some_iff.1 h
    rw [if_pos ‹_›, ← eq_of_signed32? herr, ← eq_of_signed32? hplace]
    exact (Option.some.inj h).symm
  · rw [if_neg ‹_›]
    exact (Option.some.inj h).symm

/-- What a walk in machine numbers gives is what the unbounded one gives. -/
theorem Segment.walk_of_walk? {β : Type} {l : Segment} {visit : β → Int → Int → β} {fuel : Nat}
    {x y err : Int} {b r : β} (h : l.walk? visit fuel x y err b = some r) :
    l.walk visit fuel x y err b = r := by
  induction fuel generalizing x y err b with
  | zero => cases h
  | succ fuel ih =>
    rw [walk?] at h
    rw [walk]
    dsimp only at h ⊢
    split at h
    · rw [if_pos ‹_›]
      exact Option.some.inj h
    · obtain ⟨e2, htwice, h⟩ := Option.bind_eq_some_iff.1 h
      obtain ⟨q, hacross, h⟩ := Option.bind_eq_some_iff.1 h
      obtain ⟨q', hdown, h⟩ := Option.bind_eq_some_iff.1 h
      rw [if_neg ‹_›, ← eq_of_signed32? htwice, ← eq_of_advance? hacross, ← eq_of_advance? hdown]
      exact ih h

/-- The two ends of a line. -/
structure Line where
  startX : Int
  startY : Int
  endX : Int
  endY : Int

namespace Line

/-! ## Shares of a distance -/

/-- What is due of a distance after `k` steps out of `whole`: the nearest whole number, and the
greater one of two. -/
def share (k distance whole : Nat) : Nat := (2 * k * distance + whole) / (2 * whole)

section Share

variable {k distance other whole q : Nat}

theorem share_spec (hw : 0 < whole) (k distance : Nat) :
    2 * whole * share k distance whole ≤ 2 * k * distance + whole ∧
      2 * k * distance + whole < 2 * whole * share k distance whole + 2 * whole := by
  have hlow := Nat.mul_div_le (2 * k * distance + whole) (2 * whole)
  have hhigh := Nat.lt_mul_div_succ (2 * k * distance + whole) (show 0 < 2 * whole by omega)
  rw [Nat.mul_add, Nat.mul_one] at hhigh
  exact ⟨hlow, hhigh⟩

theorem share_eq (hlow : 2 * whole * q ≤ 2 * k * distance + whole)
    (hhigh : 2 * k * distance + whole < 2 * whole * q + 2 * whole) :
    share k distance whole = q := by
  have hnext : (q + 1) * (2 * whole) = 2 * whole * q + 2 * whole := by ring
  refine Nat.div_eq_of_lt_le ?_ ?_
  · rwa [Nat.mul_comm]
  · rwa [hnext]

theorem share_zero (distance whole : Nat) : share 0 distance whole = 0 := by
  rw [share, Nat.mul_zero, Nat.zero_mul, Nat.zero_add]
  by_cases hw : whole = 0
  · rw [hw]
  · exact Nat.div_eq_of_lt (by omega)

/-- Along the longer axis nothing is rounded. -/
theorem share_self (hw : 0 < whole) (k : Nat) : share k whole whole = k := by
  have hmul : 2 * whole * k = 2 * k * whole := by
    rw [Nat.mul_assoc, Nat.mul_comm whole, ← Nat.mul_assoc]
  exact share_eq (by omega) (by omega)

theorem share_whole (hw : 0 < whole) (distance : Nat) : share whole distance whole = distance :=
  share_eq (by omega) (by omega)

theorem share_le (hk : k ≤ whole) (distance : Nat) : share k distance whole ≤ distance := by
  by_cases hw : 0 < whole
  · have hmul : 2 * k * distance ≤ 2 * whole * distance :=
      Nat.mul_le_mul_right distance (Nat.mul_le_mul_left 2 hk)
    have hmono : share k distance whole ≤ share whole distance whole :=
      Nat.div_le_div_right (Nat.add_le_add_right hmul whole)
    rwa [share_whole hw] at hmono
  · rw [share, Nat.eq_zero_of_not_pos hw, Nat.mul_zero, Nat.div_zero]
    exact Nat.zero_le _

/-- The running error of the walk after `k` steps, from the shares of both distances. -/
def error (k distance other whole : Nat) : Int :=
  (share k other whole + 1) * distance - (share k distance whole + 1) * other

/-- Seen from the other axis the error has the other sign. -/
theorem error_swap (k distance other whole : Nat) :
    error k other distance whole = -error k distance other whole := by
  rw [error, error, neg_sub]

theorem two_mul_error (hw : 0 < whole) (k other : Nat) : 2 * error k whole other whole =
    (2 * whole * share k other whole : Nat) + 2 * whole - ((2 * k * other : Nat) + 2 * other) := by
  rw [error, share_self hw]
  push_cast
  ring

/-- The error tells whether the share grows. -/
theorem share_succ (hw : whole = max distance other) (hk : k < whole) :
    share (k + 1) distance whole = share k distance whole +
      if -(other : Int) ≤ 2 * error k distance other whole then 1 else 0 := by
  have hpos : 0 < whole := by omega
  rcases Nat.le_total other distance with hle | hle
  · -- the share of the longer distance always grows
    obtain rfl : whole = distance := by omega
    obtain ⟨-, hhigh⟩ := share_spec hpos k other
    have hgrows : -(other : Int) ≤ 2 * error k whole other whole := by
      rw [two_mul_error hpos]
      omega
    rw [if_pos hgrows, share_self hpos, share_self hpos]
  · -- that of the shorter one grows when the next one is nearer to the greater number
    obtain rfl : whole = other := by omega
    obtain ⟨hlow, hhigh⟩ := share_spec hpos k distance
    have hnext : 2 * (k + 1) * distance = 2 * k * distance + 2 * distance := by ring
    have hmore : 2 * whole * (share k distance whole + 1) =
        2 * whole * share k distance whole + 2 * whole := by ring
    have herror := two_mul_error hpos k distance
    rw [error_swap] at herror
    by_cases hgrows : -(whole : Int) ≤ 2 * error k distance whole whole
    · rw [if_pos hgrows]
      exact share_eq (by rw [hmore, hnext]; omega) (by rw [hmore, hnext]; omega)
    · rw [if_neg hgrows, Nat.add_zero (share k distance whole)]
      exact share_eq (by rw [hnext]; omega) (by rw [hnext]; omega)

/-- Twice the error stays within three times the longer distance. -/
theorem error_mem (hw : whole = max distance other) (hpos : 0 < whole) (k : Nat) :
    -(3 * (whole : Int)) ≤ 2 * error k distance other whole ∧
      2 * error k distance other whole ≤ 3 * whole := by
  rcases Nat.le_total other distance with hle | hle
  · obtain rfl : whole = distance := by omega
    obtain ⟨hlow, hhigh⟩ := share_spec hpos k other
    rw [two_mul_error hpos]
    omega
  · obtain rfl : whole = other := by omega
    obtain ⟨hlow, hhigh⟩ := share_spec hpos k distance
    have herror := two_mul_error hpos k distance
    rw [error_swap] at herror
    omega

/-- A share is within half of what is due. -/
theorem abs_share_sub_le (hw : 0 < whole) (k distance : Nat) :
    |(share k distance whole : ℚ) - k / whole * distance| ≤ 1 / 2 := by
  obtain ⟨hlow, hhigh⟩ := share_spec hw k distance
  have hpos : (0 : ℚ) < whole := by exact_mod_cast hw
  have hscaled : (share k distance whole : ℚ) - k / whole * distance =
      (2 * whole * share k distance whole - 2 * k * distance) / (2 * whole) := by
    field_simp
  have hlow : (2 * whole * share k distance whole : ℚ) ≤ 2 * k * distance + whole := by
    exact_mod_cast hlow
  have hhigh : (2 * k * distance + whole : ℚ) ≤ 2 * whole * share k distance whole + 2 * whole := by
    exact_mod_cast hhigh.le
  rw [hscaled, abs_le, le_div_iff₀ (by linarith), div_le_iff₀ (by linarith)]
  constructor <;> linarith

end Share

/-! ## One axis -/

/-- The coordinate after `k` steps out of `whole` from one coordinate to another. -/
def along (start stop : Int) (whole k : Nat) : Int :=
  start + (stop - start).sign * share k (stop - start).natAbs whole

section Axis

variable {start stop : Int} {other whole k : Nat}

theorem along_zero (start stop : Int) (whole : Nat) : along start stop whole 0 = start := by
  rw [along, share_zero]
  simp

theorem along_whole (hw : (stop - start).natAbs ≤ whole) : along start stop whole whole = stop := by
  have hdelta := Int.sign_mul_natAbs (stop - start)
  rw [along]
  rcases Nat.eq_zero_or_pos whole with hzero | hpos
  · rw [hzero, share_zero]
    omega
  · rw [share_whole hpos]
    omega

/-- The walk moves along an axis if its error says so. -/
theorem along_succ (hw : whole = max (stop - start).natAbs other) (hk : k < whole) :
    along start stop whole (k + 1) =
      if -(other : Int) ≤ 2 * error k (stop - start).natAbs other whole then
        along start stop whole k + if start < stop then 1 else -1
      else along start stop whole k := by
  have hshare := share_succ hw hk
  split at hshare
  · -- only a distance that is not zero has shares that grow
    have hdistance := share_le (show k + 1 ≤ whole from hk) (stop - start).natAbs
    have hsign : (stop - start).sign = if start < stop then 1 else -1 := by
      split
      · exact Int.sign_eq_one_of_pos (by omega)
      · exact Int.sign_eq_neg_one_of_neg (by omega)
    rw [along, hshare, if_pos ‹_›, along, hsign]
    push_cast
    ring
  · rw [along, hshare, if_neg ‹_›, along, Nat.add_zero]

/-- One step moves along an axis by one or not at all. -/
theorem along_succ_mem (hw : whole = max (stop - start).natAbs other) (hk : k < whole) :
    along start stop whole (k + 1) = along start stop whole k + (stop - start).sign ∨
      along start stop whole (k + 1) = along start stop whole k ∧
        (stop - start).natAbs < other := by
  have hshare := share_succ hw hk
  split at hshare
  · refine .inl ?_
    rw [along, hshare, along]
    push_cast
    ring
  · refine .inr ⟨by rw [along, hshare, along, Nat.add_zero], ?_⟩
    by_contra hlonger
    obtain rfl : whole = (stop - start).natAbs := by omega
    have hpos : 0 < (stop - start).natAbs := by omega
    rw [share_self hpos, share_self hpos] at hshare
    exact absurd hshare (by omega)

theorem along_mem (hk : k ≤ whole) (start stop : Int) :
    min start stop ≤ along start stop whole k ∧ along start stop whole k ≤ max start stop := by
  have hshare := share_le hk (stop - start).natAbs
  rw [along]
  rcases Int.sign_trichotomy (stop - start) with hsign | hsign | hsign
  all_goals rw [hsign]
  · have hpos := Int.sign_eq_one_iff_pos.1 hsign
    omega
  · omega
  · have hneg := Int.sign_eq_neg_one_iff_neg.1 hsign
    omega

theorem cast_sub_eq_sign_mul (start stop : Int) :
    (stop : ℚ) - start = (stop - start).sign * (stop - start).natAbs := by
  rw [← Int.cast_sub, ← Int.cast_natCast (stop - start).natAbs, ← Int.cast_mul,
    Int.sign_mul_natAbs]

/-- The walk keeps within half a unit of the ideal segment along an axis. -/
theorem abs_along_sub_le (hw : 0 < whole) (start stop : Int) (k : Nat) :
    |(along start stop whole k : ℚ) - (start + k / whole * (stop - start))| ≤ 1 / 2 := by
  have hsplit : (along start stop whole k : ℚ) - (start + k / whole * (stop - start)) =
      (stop - start).sign *
        (share k (stop - start).natAbs whole - k / whole * (stop - start).natAbs) := by
    rw [along, cast_sub_eq_sign_mul]
    push_cast
    ring
  have hshare := abs_share_sub_le hw k (stop - start).natAbs
  have hsign : |((stop - start).sign : ℚ)| ≤ 1 := by
    rcases Int.sign_trichotomy (stop - start) with hsign | hsign | hsign <;> simp [hsign]
  rw [hsplit, abs_mul]
  calc _ ≤ 1 * (1 / 2 : ℚ) := mul_le_mul hsign hshare (abs_nonneg _) zero_le_one
    _ = 1 / 2 := one_mul _

/-- Along the longer axis it keeps to the ideal segment. -/
theorem along_of_longer (hw : 0 < whole) (hlonger : whole = (stop - start).natAbs) (k : Nat) :
    (along start stop whole k : ℚ) = start + k / whole * (stop - start) := by
  have hpos : (whole : ℚ) ≠ 0 := by exact_mod_cast hw.ne'
  rw [along, cast_sub_eq_sign_mul, ← hlonger, share_self hw]
  push_cast
  field_simp

end Axis

/-! ## Both axes -/

def across (l : Line) : Nat := (l.endX - l.startX).natAbs

def down (l : Line) : Nat := (l.endY - l.startY).natAbs

/-- The longer one of the two distances. -/
def steps (l : Line) : Nat := max l.across l.down

theorem steps_eq_max_down (l : Line) : l.steps = max l.down l.across := Nat.max_comm ..

/-- Where the walk is after `k` steps. -/
def pointAfter (l : Line) (k : Nat) : Int × Int :=
  (along l.startX l.endX l.steps k, along l.startY l.endY l.steps k)

/-- The error of the walk after `k` steps. -/
def errorAfter (l : Line) (k : Nat) : Int := error k l.across l.down l.steps

def segment (l : Line) : Segment := .ofEnds l.startX l.startY l.endX l.endY

theorem segment_dx (l : Line) : l.segment.dx = l.across := rfl

theorem segment_dy (l : Line) : l.segment.dy = -(l.down : Int) := rfl

/-- The two distances together leave as many steps to spare as the shorter one has. -/
theorem across_add_down (l : Line) : l.across + l.down = min l.across l.down + l.steps := by
  rw [steps]
  omega

/-- The points that the walk visits. -/
def points (l : Line) : List (Int × Int) := linePoints l.startX l.startY l.endX l.endY

/-- What the machine's types say of a line, and a bound on how far apart its ends are. -/
structure Short (l : Line) : Prop where
  startX_mem : -0x80000000 ≤ l.startX ∧ l.startX ≤ 0x7FFFFFFF
  startY_mem : -0x80000000 ≤ l.startY ∧ l.startY ≤ 0x7FFFFFFF
  endX_mem : -0x80000000 ≤ l.endX ∧ l.endX ≤ 0x7FFFFFFF
  endY_mem : -0x80000000 ≤ l.endY ∧ l.endY ≤ 0x7FFFFFFF
  length_lt : l.across + l.down < 2 ^ 29

/-- One step on: by one towards the end along an axis, or, along the shorter one, not at all. -/
def StepsTo (l : Line) (q r : Int × Int) : Prop :=
  (r.1 = q.1 + (l.endX - l.startX).sign ∨ r.1 = q.1 ∧ l.across < l.down) ∧
    (r.2 = q.2 + (l.endY - l.startY).sign ∨ r.2 = q.2 ∧ l.down < l.across)

instance (l : Line) (q r : Int × Int) : Decidable (l.StepsTo q r) :=
  inferInstanceAs (Decidable (_ ∧ _))

/-- A point within half a pixel of the ideal segment, measured along the shorter axis: along the
longer one it is at the same place. -/
def Near (l : Line) (q : Int × Int) : Prop :=
  ∃ t : ℚ, (0 ≤ t ∧ t ≤ 1) ∧
    (|(q.1 : ℚ) - (l.startX + t * (l.endX - l.startX))| ≤ 1 / 2 ∧
      |(q.2 : ℚ) - (l.startY + t * (l.endY - l.startY))| ≤ 1 / 2) ∧
    (l.down ≤ l.across → (q.1 : ℚ) = l.startX + t * (l.endX - l.startX)) ∧
    (l.across ≤ l.down → (q.2 : ℚ) = l.startY + t * (l.endY - l.startY))

section Walk

variable {l : Line} {k n : Nat}

theorem pointAfter_zero (l : Line) : l.pointAfter 0 = (l.startX, l.startY) := by
  rw [pointAfter, along_zero, along_zero]

theorem pointAfter_steps (l : Line) : l.pointAfter l.steps = (l.endX, l.endY) := by
  have hacross : l.across ≤ l.steps := Nat.le_max_left ..
  have hdown : l.down ≤ l.steps := Nat.le_max_right ..
  rw [pointAfter, along_whole hacross, along_whole hdown]

theorem errorAfter_zero (l : Line) : l.errorAfter 0 = l.segment.dx + l.segment.dy := by
  rw [errorAfter, error, share_zero, share_zero, segment, Segment.ofEnds]
  simp only [across, down]
  ring

/-- The vertical axis sees the error with the other sign, and moves while it is low. -/
theorem down_grows_iff (l : Line) (k : Nat) :
    -(l.across : Int) ≤ 2 * error k l.down l.across l.steps ↔
      2 * l.errorAfter k ≤ l.segment.dx := by
  rw [segment_dx, errorAfter, ← neg_neg (error k l.across l.down l.steps), ← error_swap]
  omega

theorem fst_pointAfter_succ (hk : k < l.steps) : (l.pointAfter (k + 1)).1 =
    if l.segment.dy ≤ 2 * l.errorAfter k then (l.pointAfter k).1 + l.segment.stepX
    else (l.pointAfter k).1 := along_succ rfl hk

theorem snd_pointAfter_succ (hk : k < l.steps) : (l.pointAfter (k + 1)).2 =
    if 2 * l.errorAfter k ≤ l.segment.dx then (l.pointAfter k).2 + l.segment.stepY
    else (l.pointAfter k).2 := by
  simp only [← down_grows_iff]
  exact along_succ l.steps_eq_max_down hk

theorem errorAfter_succ (hk : k < l.steps) : l.errorAfter (k + 1) =
    (if l.segment.dy ≤ 2 * l.errorAfter k then l.errorAfter k + l.segment.dy else l.errorAfter k) +
      if 2 * l.errorAfter k ≤ l.segment.dx then l.segment.dx else 0 := by
  have hacross := share_succ (show l.steps = max l.across l.down from rfl) hk
  have hdown := share_succ l.steps_eq_max_down hk
  simp only [down_grows_iff] at hdown
  rw [errorAfter, error, hacross, hdown, ← errorAfter, segment_dx, segment_dy]
  split <;> split <;> simp only [errorAfter, error] <;> push_cast <;> ring

/-- Twice the error stays within three times the longer distance. -/
theorem errorAfter_mem (hpos : 0 < l.steps) (k : Nat) :
    -(3 * (l.steps : Int)) ≤ 2 * l.errorAfter k ∧ 2 * l.errorAfter k ≤ 3 * l.steps :=
  error_mem rfl hpos k

/-- Before the last step the walk is not at the end: along the longer axis it is on its way. -/
theorem pointAfter_ne_end (hk : k < l.steps) :
    ¬ ((l.pointAfter k).1 = l.endX ∧ (l.pointAfter k).2 = l.endY) := by
  have haxis {start stop : Int} (hlonger : l.steps = (stop - start).natAbs) :
      along start stop l.steps k ≠ stop := by
    have hdelta := Int.sign_mul_natAbs (stop - start)
    rw [along, hlonger, share_self (by omega)]
    rcases Int.sign_trichotomy (stop - start) with hsign | hsign | hsign
    all_goals
      rw [hsign] at hdelta ⊢
      omega
  rintro ⟨hx, hy⟩
  rcases Nat.le_total l.down l.across with hle | hle
  · exact haxis (Nat.max_eq_left hle) hx
  · exact haxis (Nat.max_eq_right hle) hy

theorem Short.pointAfter_mem (h : l.Short) (hk : k ≤ l.steps) :
    (-0x80000000 ≤ (l.pointAfter k).1 ∧ (l.pointAfter k).1 ≤ 0x7FFFFFFF) ∧
      -0x80000000 ≤ (l.pointAfter k).2 ∧ (l.pointAfter k).2 ≤ 0x7FFFFFFF := by
  obtain ⟨hx, hy, hx', hy', hlength⟩ := h
  have hacross := along_mem hk l.startX l.endX
  have hdown := along_mem hk l.startY l.endY
  simp only [pointAfter]
  omega

/-- One step in machine numbers leads to the next point, with its error. -/
theorem Short.advance?_eq (h : l.Short) (hk : k < l.steps) :
    ∃ err, advance? (l.segment.dy ≤ 2 * l.errorAfter k) (l.errorAfter k) l.segment.dy
        (l.pointAfter k).1 l.segment.stepX = some (err, (l.pointAfter (k + 1)).1) ∧
      advance? (2 * l.errorAfter k ≤ l.segment.dx) err l.segment.dx
        (l.pointAfter k).2 l.segment.stepY =
          some (l.errorAfter (k + 1), (l.pointAfter (k + 1)).2) := by
  obtain ⟨hx, hy⟩ := h.pointAfter_mem (Nat.succ_le_of_lt hk)
  have herror := errorAfter_mem (l := l) (by omega) k
  have hnext := errorAfter_mem (l := l) (by omega) (k + 1)
  have hlength := h.length_lt
  have hlonger : l.steps = max l.across l.down := rfl
  have hdx := l.segment_dx
  have hdy := l.segment_dy
  rw [fst_pointAfter_succ hk] at hx
  rw [snd_pointAfter_succ hk] at hy
  rw [fst_pointAfter_succ hk, snd_pointAfter_succ hk]
  have hstep := errorAfter_succ hk
  generalize l.errorAfter k = err, l.errorAfter (k + 1) = err' at *
  refine ⟨if l.segment.dy ≤ 2 * err then err + l.segment.dy else err, ?_, ?_⟩
  · rw [advance?_of_mem (fun _ => by omega) fun hmoves => by rwa [if_pos hmoves] at hx]
    split <;> rfl
  · rw [advance?_of_mem (fun hmoves => ?_) fun hmoves => by rwa [if_pos hmoves] at hy, hstep]
    · split
      · rfl
      · rw [Int.add_zero]
    · rw [if_pos hmoves] at hstep
      omega

/-- A walk in machine numbers that is at a point of the line visits the rest of them. -/
theorem Short.walk?_eq (h : l.Short) {β : Type} (visit : β → Int → Int → β) (b : β)
    (hk : k + n = l.steps) (spare : Nat) :
    l.segment.walk? visit (spare + n + 1) (l.pointAfter k).1 (l.pointAfter k).2 (l.errorAfter k) b =
      some (((List.range' k (n + 1)).map l.pointAfter).foldl (fun b q => visit b q.1 q.2) b) := by
  induction n generalizing k b with
  | zero =>
    obtain rfl : k = l.steps := hk
    have hend : (l.pointAfter l.steps).1 = l.segment.endX ∧ (l.pointAfter l.steps).2 =
        l.segment.endY := by
      rw [pointAfter_steps]
      exact ⟨rfl, rfl⟩
    rw [Segment.walk?]
    dsimp only
    rw [if_pos hend]
    rfl
  | succ n ih =>
    have hlt : k < l.steps := by omega
    have hend : ¬ ((l.pointAfter k).1 = l.segment.endX ∧ (l.pointAfter k).2 = l.segment.endY) :=
      pointAfter_ne_end hlt
    have herror := errorAfter_mem (l := l) (by omega) k
    have hlength := h.length_lt
    have hlonger : l.steps = max l.across l.down := rfl
    obtain ⟨err, hacross, hdown⟩ := h.advance?_eq hlt
    rw [Segment.walk?]
    dsimp only
    rw [if_neg hend, signed32?_of_mem (by omega) (by omega)]
    simp only [Option.bind_eq_bind, Option.bind_some, hacross, hdown]
    rw [List.range'_succ, List.map_cons, List.foldl_cons]
    exact ih _ (by omega)

theorem Short.ofEnds?_eq (h : l.Short) :
    Segment.ofEnds? l.startX l.startY l.endX l.endY = some l.segment := by
  have hlength := h.length_lt
  simp only [across, down] at hlength
  rw [Segment.ofEnds?, signed32?_of_mem (v := l.endX - l.startX) (by omega) (by omega),
    signed32?_of_mem (v := l.endY - l.startY) (by omega) (by omega)]
  simp only [Option.bind_eq_bind, Option.bind_some]
  rw [signed32?_of_mem (by omega) (by omega), signed32?_of_mem (by omega) (by omega),
    Option.bind_some, Option.bind_some, signed32?_of_mem (by omega) (by omega)]
  rfl

/-- The whole walk in machine numbers, from the start on. -/
theorem Short.walk?_start (h : l.Short) {β : Type} (visit : β → Int → Int → β) (b : β) :
    l.segment.walk? visit (l.across + l.down + 1) l.startX l.startY
        (l.segment.dx + l.segment.dy) b =
      some (((List.range (l.steps + 1)).map l.pointAfter).foldl
        (fun b q => visit b q.1 q.2) b) := by
  have hwalk := h.walk?_eq visit b (Nat.zero_add _) (min l.across l.down)
  rwa [← across_add_down, pointAfter_zero, errorAfter_zero, ← List.range_eq_range'] at hwalk

theorem Short.foldLine_eq (h : l.Short) {β : Type} (visit : β → Int → Int → β) (b : β) :
    foldLine l.startX l.startY l.endX l.endY visit b =
      ((List.range (l.steps + 1)).map l.pointAfter).foldl (fun b q => visit b q.1 q.2) b := by
  have hlimit : (l.segment.dx - l.segment.dy).toNat + 1 = l.across + l.down + 1 := by
    rw [segment_dx, segment_dy]
    omega
  have hwalk := Segment.walk_of_walk? (h.walk?_start visit b)
  rwa [← hlimit] at hwalk

theorem Short.points_eq (h : l.Short) :
    l.points = (List.range (l.steps + 1)).map l.pointAfter := by
  rw [points, linePoints, h.foldLine_eq, List.foldl_flip_cons_eq_append', List.append_nil,
    List.reverse_reverse]

/-- A line along which every second step goes down. -/
example : linePoints 1 1 8 4 =
    [(1, 1), (2, 1), (3, 2), (4, 2), (5, 3), (6, 3), (7, 4), (8, 4)] := by decide

theorem Short.drawLine_eq (h : l.Short) (s : Surface) (p : Pixel) :
    s.drawLine l.startX l.startY l.endX l.endY p =
      l.points.foldl (fun s q => s.put q.1 q.2 p) s := by
  rw [Surface.drawLine, h.foldLine_eq, h.points_eq]

theorem Short.drawLine?_eq (h : l.Short) (s : Surface) (p : Pixel) :
    s.drawLine? l.startX l.startY l.endX l.endY p =
      some (s.drawLine l.startX l.startY l.endX l.endY p) := by
  have hlength := h.length_lt
  rw [Surface.drawLine?, h.ofEnds?_eq]
  simp only [Option.bind_eq_bind, Option.bind_some]
  have hdistance : l.segment.dx.natAbs + l.segment.dy.natAbs = l.across + l.down := by
    rw [segment_dx, segment_dy]
    omega
  rw [hdistance, signed32?_of_mem (by rw [segment_dx, segment_dy]; omega)
    (by rw [segment_dx, segment_dy]; omega), unsigned32?_of_le (by omega), Option.bind_some,
    Option.bind_some, address?_of_le (by omega), Option.bind_some, h.walk?_start, h.drawLine_eq,
    h.points_eq]

/-! ## The points -/

theorem stepsTo_pointAfter (hk : k < l.steps) :
    l.StepsTo (l.pointAfter k) (l.pointAfter (k + 1)) :=
  ⟨along_succ_mem rfl hk, along_succ_mem l.steps_eq_max_down hk⟩

theorem near_pointAfter (hk : k ≤ l.steps) : l.Near (l.pointAfter k) := by
  rcases Nat.eq_zero_or_pos l.steps with hzero | hpos
  · obtain rfl : k = 0 := by omega
    refine ⟨0, ⟨le_refl 0, zero_le_one⟩, ?_⟩
    rw [pointAfter_zero]
    simp
  · have hwhole : (0 : ℚ) < l.steps := by exact_mod_cast hpos
    refine ⟨k / l.steps, ⟨div_nonneg k.cast_nonneg hwhole.le, ?_⟩,
      ⟨abs_along_sub_le hpos .., abs_along_sub_le hpos ..⟩, fun hle => ?_, fun hle => ?_⟩
    · rw [div_le_iff₀ hwhole, one_mul]
      exact_mod_cast hk
    · exact along_of_longer hpos (Nat.max_eq_left hle) k
    · exact along_of_longer hpos (Nat.max_eq_right hle) k

/-- Each point of a line but the last is followed by one that is a step further. -/
theorem Short.isChain_points (h : l.Short) : l.points.IsChain l.StepsTo := by
  rw [h.points_eq, List.isChain_map, List.isChain_range_succ]
  exact fun k hk => stepsTo_pointAfter hk

theorem Short.mem_points (h : l.Short) {q : Int × Int} :
    q ∈ l.points ↔ ∃ k ≤ l.steps, l.pointAfter k = q := by
  rw [h.points_eq, List.mem_map]
  simp only [List.mem_range, Nat.lt_succ_iff]

/-- A line is walked from its one end to the other, in as many steps as the longer distance has,
each of them by one towards the end along that axis and by one or not at all along the other. No
point of it is further than half a pixel from the ideal segment. The walk in machine numbers is
this one: no number on the way is too large, and it is at its end before the steps that it may take
run out.
It paints the points that it visits, and nothing else. -/
theorem Short.walked_from_end_to_end (h : l.Short) (s : Surface) (p : Pixel) :
    (l.points.head? = some (l.startX, l.startY) ∧ l.points.getLast? = some (l.endX, l.endY) ∧
      l.points.length = l.steps + 1 ∧ l.points.IsChain l.StepsTo ∧ ∀ q ∈ l.points, l.Near q) ∧
    s.drawLine? l.startX l.startY l.endX l.endY p =
      some (s.drawLine l.startX l.startY l.endX l.endY p) ∧
    Surface.Painted s (s.drawLine l.startX l.startY l.endX l.endY p)
      (fun u v => (u, v) ∈ l.points) fun _ => p := by
  refine ⟨⟨?_, ?_, ?_, h.isChain_points, fun q hq => ?_⟩, h.drawLine?_eq s p, ?_⟩
  · rw [h.points_eq, List.head?_map, List.head?_range, if_neg (Nat.succ_ne_zero _), Option.map_some,
      pointAfter_zero]
  · rw [h.points_eq, List.getLast?_map, List.getLast?_range, if_neg (Nat.succ_ne_zero _),
      Option.map_some, Nat.add_sub_cancel, pointAfter_steps]
  · rw [h.points_eq, List.length_map, List.length_range]
  · obtain ⟨k, hk, rfl⟩ := h.mem_points.1 hq
    exact near_pointAfter hk
  · rw [h.drawLine_eq]
    exact s.painted_foldl (.inr fun _ => rfl)

/-- A steep line to the left, of which only a part lies on the surface. -/
theorem Short.walked_from_end_to_end_steep :
    let l : Line := ⟨5, -1, 1, 8⟩
    let s : Surface := .filled 5 4 0xFF000000
    l.Short ∧ l.points.length = 10 ∧ l.StepsTo (4, 2) (3, 3) ∧
      (s.drawLine 5 (-1) 1 8 0xFFFFFFFF).get? 4 2 = some 0xFFFFFFFF ∧
      (s.drawLine 5 (-1) 1 8 0xFFFFFFFF).get? 3 2 = some 0xFF000000 := by
  intro l s
  have hshort : l.Short := by constructor <;> decide
  obtain ⟨⟨-, -, hlength, -, -⟩, -, hpainted⟩ := hshort.walked_from_end_to_end s 0xFFFFFFFF
  refine ⟨hshort, hlength, by decide, ?_, ?_⟩
  · exact (hpainted.inside 4 2 (by decide)).trans (by decide)
  · exact (hpainted.outside 3 2 (by decide)).trans (by decide)

end Walk

end Line

end TickDesktop
