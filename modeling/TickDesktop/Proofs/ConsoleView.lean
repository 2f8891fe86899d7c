import Mathlib.Data.Nat.PSub
import TickDesktop.Proofs.ConsoleHistory

/-!
# What a console shows

A console shows as many messages as its window has rows for, and `scroll` newer ones stay out of
sight. Messages are never lost without another one coming in, so there are never fewer lines than
before, and a view that was in range stays in range. A view that was scrolled for a window of
another height is brought back into range when the console is rendered, before anything is drawn.
-/
namespace TickDesktop

namespace Console

/-! ## Rows of a window -/

/-- The rows of a window in signed numbers, whose quotients are cut towards zero. -/
theorem rowsIn_eq {height : Nat} (h : height < 2 ^ 31) :
    (rowsIn height : Int) = max (((height : Int) - marginY).tdiv rowHeight - 1) 1 := by
  have hroom : ((height : Int) - marginY).bmod 0x100000000 = height - marginY := by
    simp only [marginY]
    exact Int.bmod_eq_of_le (by omega) (by omega)
  rw [rowsIn, hroom]
  omega

/-- The number of the first message in sight, counted from the oldest. It fails if a subtraction
would go below zero. -/
def firstInSight? (c : Console) (height : Nat) : Option Nat := do
  let rest ← c.lines.length.psub (min c.lines.length (rowsIn height))
  rest.psub c.scroll

/-- The texts of lines, the first one on the first row and each next one on the next row. -/
def drawLines (ink : Pixel) (lines : List ConsoleLine) (s : Surface) : Surface :=
  lines.zipIdx.foldl (fun s (line, row) =>
    s.drawText Font.ascii marginX (marginY + rowHeight * row) (rowText line) ink) s

/-- The line being typed with its cursor on a row, if the window is interactive. -/
def drawInput (c : Console) (flags : WindowFlags) (row : Nat) (s : Surface) : Surface :=
  let y : Int := marginY + rowHeight * row
  let inputX : Int := marginX + prompt.length * Glyph.width
  let ink := c.foreground.toPixel
  let typed := c.input.toList
  if flags.interactive then
    ((s.drawText Font.ascii marginX y prompt ink).drawText Font.ascii inputX y typed ink).drawGlyph
      (Font.ascii '_') (inputX + typed.length * Glyph.width) y ink
  else s

theorem drawRows_eq (s : Surface) (ink : Pixel) (lines : List ConsoleLine) :
    drawRows s ink marginY (lines.map rowText) = drawLines ink lines s := by
  -- from any row on
  have hfrom (row : Nat) : drawRows s ink (marginY + rowHeight * row) (lines.map rowText) =
      (lines.zipIdx row).foldl (fun s (line, row) =>
        s.drawText Font.ascii marginX (marginY + rowHeight * row) (rowText line) ink) s := by
    induction lines generalizing s row with
    | nil => rfl
    | cons line lines ih =>
      have hnext : (marginY + rowHeight * row + rowHeight : Int) =
          marginY + rowHeight * (row + 1 : Nat) := by
        simp only [rowHeight]
        omega
      rw [List.map_cons, drawRows, hnext, ih, List.zipIdx_cons, List.foldl_cons]
  simpa [drawLines] using hfrom 0

/-! ## Range -/

/-- The heights that an act goes by. -/
def Act.heights : Act → List Nat
  | scrollUp _ height | scrollTop height | pageUp height | pageDown height => [height]
  | render p => [p.surface.height]
  | _ => []

variable {c : Console} {height : Nat}

/-- A line that goes makes room for one that comes. -/
theorem length_lines_push (c : Console) (message : String) :
    c.lines.length ≤ (c.push message).2.lines.length := by
  rcases c.push_cases message with ⟨front, last, hlines, hpush⟩ | hpush
  · rw [hpush, hlines, List.length_append, List.length_append]
    exact Nat.le_refl _
  · rw [hpush]
    dsimp only [withLine]
    split
    · rw [List.length_append, List.length_drop, List.length_singleton]
      omega
    · rw [List.length_append]
      exact Nat.le_add_right _ _

theorem furthest_push (c : Console) (message : String) (height : Nat) :
    c.furthest height ≤ (c.push message).2.furthest height :=
  Nat.sub_le_sub_right (c.length_lines_push message) _

/-- A view in range for the height of a window stays in range for it. -/
theorem scroll_obey (h : c.scroll ≤ c.furthest height) (a : Act)
    (ha : ∀ other ∈ a.heights, other = height) :
    (c.obey a).scroll ≤ (c.obey a).furthest height := by
  cases a with
  | push message =>
    have hscroll : (c.push message).2.scroll = c.scroll := by rw [push_eq]
    exact hscroll ▸ Nat.le_trans h (c.furthest_push message height)
  | type ch =>
    rw [obey, type]
    split <;> exact h
  | backspace => exact h
  | submit | scrollBottom => exact Nat.zero_le _
  | scrollDown | pageDown => exact Nat.le_trans (Nat.sub_le _ _) h
  | scrollUp n other | pageUp other =>
    obtain rfl := ha other (by simp [Act.heights])
    exact Nat.min_le_right _ _
  | scrollTop other =>
    obtain rfl := ha other (by simp [Act.heights])
    exact Nat.le_refl _
  | render p =>
    obtain rfl := ha p.surface.height (by simp [Act.heights])
    exact Nat.min_le_right _ _

theorem scroll_obeyAll {acts : List Act}
    (hacts : ∀ a ∈ acts, ∀ other ∈ a.heights, other = height) :
    (({} : Console).obeyAll acts).scroll ≤ (({} : Console).obeyAll acts).furthest height := by
  induction acts using List.reverseRecOn with
  | nil => exact Nat.zero_le _
  | append_singleton acts a ih =>
    rw [obeyAll_concat]
    exact scroll_obey (ih fun a' ha' => hacts a' (by simp [ha'])) a (hacts a (by simp))

/-! ## Rendering -/

theorem render_of_le {p : Pane} (h : c.scroll ≤ c.furthest p.surface.height) :
    (c.render p).1 = c := by
  rw [render, Nat.min_eq_left h]

/-- The lines of a console are those above the view, those in sight, and those below. -/
theorem exists_view (h : c.scroll ≤ c.furthest height) :
    ∃ older newer, c.lines = older ++ c.shown height ++ newer ∧
      (c.shown height).length = min c.lines.length (rowsIn height) ∧
      newer.length = c.scroll ∧ c.firstInSight? height = some older.length := by
  let count := min c.lines.length (rowsIn height)
  let start := c.lines.length - count - c.scroll
  -- the rows in sight and the lines below them never exceed what there is
  have hfits : count + c.scroll ≤ c.lines.length := by
    dsimp only [furthest] at h
    omega
  refine ⟨c.lines.take start, (c.lines.drop start).drop count, ?_, ?_, ?_, ?_⟩
  · rw [shown, List.append_assoc, List.take_append_drop, List.take_append_drop]
  · rw [shown, List.length_take, List.length_drop]
    omega
  · rw [List.length_drop, List.length_drop]
    omega
  · rw [firstInSight?, Nat.psub_eq_sub (Nat.min_le_left _ _), List.length_take_of_le (by omega)]
    exact Nat.psub_eq_sub (by omega)

theorem surface_render (c : Console) (p : Pane) :
    (c.render p).2 = p.paint fun s =>
      c.drawInput p.flags ((c.render p).1.shown p.surface.height).length
        (drawLines c.foreground.toPixel ((c.render p).1.shown p.surface.height)
          (s.fill c.background.toPixel)) := by
  rw [← List.length_map (f := rowText)]
  simp only [← drawRows_eq]
  rfl

/-- Whatever happens to a console, rendering it into a window draws a block of its lines, one on
each row from the first row on: as many as there are rows for, and just as many newer lines are left
out as the view is scrolled by. No subtraction on the way goes below zero. A view that was only ever
scrolled for windows of this height is in range before, and rendering leaves it where it is. -/
theorem view_always_valid (acts : List Act) (p : Pane) (hp : p.surface.height < 2 ^ 31) :
    let height := p.surface.height
    let c := ({} : Console).obeyAll acts
    let c' := (c.render p).1
    (rowsIn height : Int) = max (((height : Int) - 2).tdiv 8 - 1) 1 ∧
      (∃ older block newer, c.lines = older ++ block ++ newer ∧
        block.length = min c.lines.length (rowsIn height) ∧ newer.length = c'.scroll ∧
        c'.firstInSight? height = some older.length ∧
        (c.render p).2 = p.paint fun s =>
          c.drawInput p.flags block.length
            (drawLines c.foreground.toPixel block (s.fill c.background.toPixel))) ∧
      ((∀ a ∈ acts, ∀ other ∈ a.heights, other = height) →
        c.scroll ≤ c.lines.length - rowsIn height ∧ c' = c) := by
  intro height c c'
  refine ⟨rowsIn_eq hp, ?_, fun hacts => ?_⟩
  · have hrange : c'.scroll ≤ c'.furthest height := Nat.min_le_right _ _
    obtain ⟨older, newer, hlines, hblock, hnewer, hfirst⟩ := exists_view hrange
    exact ⟨older, c'.shown height, newer, hlines, hblock, hnewer, hfirst, c.surface_render p⟩
  · have hrange : c.scroll ≤ c.furthest height := scroll_obeyAll hacts
    exact ⟨hrange, render_of_le hrange⟩

/-- Four lines in a window with two rows: the view that is scrolled for it shows the two in the
middle. -/
theorem view_always_valid_two_rows :
    let acts : List Act := [.push "a", .push "b", .push "c", .push "c", .push "d",
      .scrollUp 9 26, .scrollDown 1]
    let p := Pane.new "console" { interactive := true } 0 0 (.filled 1 26 0)
    let c := ({} : Console).obeyAll acts
    p.surface.height < 2 ^ 31 ∧ (∀ a ∈ acts, ∀ other ∈ a.heights, other = p.surface.height) ∧
      c.scroll ≤ c.lines.length - rowsIn 26 ∧ (c.render p).1 = c ∧
      ∃ older block newer, c.lines = older ++ block ++ newer ∧ older.length = 1 ∧
        block.length = 2 ∧ newer.length = 1 := by
  intro acts p c
  have hheights : ∀ a ∈ acts, ∀ other ∈ a.heights, other = p.surface.height := by
    simp [acts, Act.heights, p, Pane.new, Surface.filled]
  obtain ⟨-, ⟨older, block, newer, hlines, hblock, hnewer, hfirst, -⟩, hstays⟩ :=
    view_always_valid acts p (by decide)
  obtain ⟨hscroll, hsame⟩ := hstays hheights
  have hcount : min c.lines.length (rowsIn 26) = 2 := by decide +kernel
  have hrest : c.scroll = 1 ∧ c.firstInSight? 26 = some 1 := by decide +kernel
  rw [hsame] at hnewer hfirst
  refine ⟨by decide, hheights, hscroll, hsame, older, block, newer, hlines, ?_, ?_, ?_⟩
  · exact Option.some.inj (hfirst.symm.trans hrest.2)
  · exact hblock.trans hcount
  · exact hnewer.trans hrest.1

end Console

end TickDesktop
