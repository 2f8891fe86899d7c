import TickDesktop.Proofs.ConsoleView
import TickDesktop.Proofs.Placing

/-!
# Counts of repeated messages

A run of equal messages is one line with a count of those after the first, and its row says how
often the message came, which is one more. The count stays at the greatest word when it gets there,
but the row goes on from it to the next number, which is no word. So a row tells the length of its
run exactly as long as that is a word. From there on the number cannot be formed, and one that wraps
would be zero.
-/
namespace TickDesktop

namespace Console

/-- A message with a number of times that it came. -/
def counted (text : String) (count : Nat) : List Char :=
  text.toList ++ " (x".toList ++ Text.digits 10 count ++ [')']

/-- The row of a message, with the number of times that it came as a word. It fails if the number is
too large for one. -/
def rowText? (l : ConsoleLine) : Option (List Char) :=
  if l.repeats = 0 then some l.text.toList
  else (unsigned32? (l.repeats.toNat + 1)).map (counted l.text)

/-- The rows of the messages in sight. -/
def rows? (c : Console) (height : Nat) : Option (List (List Char)) :=
  (c.shown height).mapM rowText?

/-- What a row says of a run: the message, and how often it came if that is more than once. -/
def rowOfRun (run : List String) : List Char :=
  if run.length = 1 then (run.headD "").toList else counted (run.headD "") run.length

/-! ## One row -/

variable {run : List String}

/-- The count stays at the greatest word, and does not wrap. -/
theorem toNat_bump (n : UInt32) : (bump n).toNat = min (n.toNat + 1) 0xFFFFFFFF := by
  have hcount : min n.toNat 0xFFFFFFFF = n.toNat := by
    have hlt := n.toNat_lt
    omega
  have hbump := bump_ofNat n.toNat
  rw [hcount, UInt32.ofNat_toNat] at hbump
  rw [hbump]
  exact UInt32.toNat_ofNat_of_lt' (by simp only [UInt32.size]; omega)

theorem toNat_repeats_lineOf (run : List String) :
    (lineOf run).repeats.toNat = min (run.length - 1) 0xFFFFFFFF :=
  UInt32.toNat_ofNat_of_lt' (by simp only [UInt32.size]; omega)

theorem repeats_lineOf_eq_zero_iff (hrun : run ≠ []) :
    (lineOf run).repeats = 0 ↔ run.length = 1 := by
  have hpos := List.length_pos_iff.2 hrun
  rw [← UInt32.toNat_inj, toNat_repeats_lineOf, UInt32.toNat_zero]
  omega

/-- In words, the row of a run can be written just if the length of the run is a word, and then it
tells that length. -/
theorem rowText?_lineOf (hrun : run ≠ []) : rowText? (lineOf run) =
    if run.length < 2 ^ 32 then some (rowOfRun run) else none := by
  have hpos := List.length_pos_iff.2 hrun
  rw [rowText?, toNat_repeats_lineOf, rowOfRun]
  simp only [repeats_lineOf_eq_zero_iff hrun]
  by_cases hone : run.length = 1
  · rw [if_pos hone, if_pos hone, if_pos (by omega)]
    rfl
  · rw [if_neg hone, if_neg hone, unsigned32?]
    by_cases hfits : run.length < 2 ^ 32
    · have hcount : min (run.length - 1) 0xFFFFFFFF + 1 = run.length := by omega
      rw [hcount, if_pos (by omega), if_pos hfits]
      rfl
    · rw [if_neg (by omega), if_neg hfits]
      rfl

/-- Unchecked, the row of a longer run says that the message came zero times. -/
theorem rowText_lineOf (hrun : run ≠ []) : rowText (lineOf run) =
    if run.length < 2 ^ 32 then rowOfRun run else counted (run.headD "") 0 := by
  have hpos := List.length_pos_iff.2 hrun
  have hnext : ((lineOf run).repeats + 1).toNat =
      (min (run.length - 1) 0xFFFFFFFF + 1) % 2 ^ 32 := by
    rw [UInt32.toNat_add, toNat_repeats_lineOf]
    rfl
  rw [rowText, hnext, rowOfRun]
  simp only [repeats_lineOf_eq_zero_iff hrun]
  by_cases hone : run.length = 1
  · rw [if_pos hone, if_pos hone, if_pos (by omega)]
    rfl
  · rw [if_neg hone, if_neg hone]
    by_cases hfits : run.length < 2 ^ 32
    · have hcount : (min (run.length - 1) 0xFFFFFFFF + 1) % 2 ^ 32 = run.length := by omega
      rw [hcount, if_pos hfits]
      rfl
    · have hwraps : (min (run.length - 1) 0xFFFFFFFF + 1) % 2 ^ 32 = 0 := by omega
      rw [hwraps, if_neg hfits]
      rfl

/-! ## All rows -/

theorem mapM_rowText?_lineOf {block : List (List String)} (h : ∀ run ∈ block, run ≠ []) :
    (block.map lineOf).mapM rowText? =
      if ∀ run ∈ block, run.length < 2 ^ 32 then some (block.map rowOfRun) else none := by
  induction block with
  | nil => rfl
  | cons run block ih =>
    obtain ⟨hrun, hblock⟩ := List.forall_mem_cons.1 h
    rw [List.map_cons, List.mapM_cons, rowText?_lineOf hrun, ih hblock]
    simp only [List.forall_mem_cons]
    by_cases hfits : run.length < 2 ^ 32
    · by_cases hall : ∀ run ∈ block, run.length < 2 ^ 32
      · rw [if_pos hfits, if_pos hall, if_pos ⟨hfits, hall⟩]
        rfl
      · rw [if_pos hfits, if_neg hall, if_neg fun hboth => hall hboth.2]
        rfl
    · have hnot : ¬ (run.length < 2 ^ 32 ∧ ∀ run ∈ block, run.length < 2 ^ 32) :=
        fun hboth => hfits hboth.1
      rw [if_neg hfits, if_neg hnot]
      rfl

/-- The runs that a console keeps lines of, and among them those in sight. -/
theorem Keeps.exists_runs_in_sight {c : Console} {t : Transcript} (h : c.Keeps t) (p : Pane) :
    ∃ older block newer, runs t.texts = older ++ block ++ newer ∧
      (c.render p).1.shown p.surface.height = block.map lineOf := by
  have hrange : (c.render p).1.scroll ≤ (c.render p).1.furthest p.surface.height :=
    Nat.min_le_right _ _
  obtain ⟨above, below, hlines, -⟩ := exists_view hrange
  have hkept : c.lines = ((runs t.texts).rtake maxLines).map lineOf := by
    rw [h.lines, List.rtake, List.rtake, List.length_map, List.map_drop]
  have hsame : (c.render p).1.lines = c.lines := rfl
  rw [hsame, hkept, List.map_eq_append_iff] at hlines
  obtain ⟨front, newer, hrtake, hfront, -⟩ := hlines
  obtain ⟨first, block, rfl, -, hblock⟩ := List.map_eq_append_iff.1 hfront
  refine ⟨(runs t.texts).take ((runs t.texts).length - maxLines) ++ first, block, newer, ?_,
    hblock.symm⟩
  rw [List.append_assoc _ first, List.append_assoc, ← hrtake, List.rtake, List.take_append_drop]

/-- Whatever happens to a console, rendering it draws a block of the runs of its transcript. No
count ever wraps, and each row of a run whose length is a word says that length. The rows can be
written in words just if all runs in sight are such; the row of a longer one would say that its
message came zero times. -/
theorem counts_told_while_words (acts : List Act) (p : Pane) :
    let c := ({} : Console).obeyAll acts
    (∀ n, (bump n).toNat = min (n.toNat + 1) 0xFFFFFFFF) ∧
      ∃ older block newer, runs (Transcript.ofActs acts).texts = older ++ block ++ newer ∧
        ((c.render p).2 = p.paint fun s =>
          c.drawInput p.flags block.length
            (drawLines c.foreground.toPixel (block.map lineOf) (s.fill c.background.toPixel))) ∧
        ((c.render p).1.rows? p.surface.height =
          if ∀ run ∈ block, run.length < 2 ^ 32 then some (block.map rowOfRun) else none) ∧
        ∀ run ∈ block, rowText (lineOf run) =
          if run.length < 2 ^ 32 then rowOfRun run else counted (run.headD "") 0 := by
  intro c
  obtain ⟨older, block, newer, hruns, hshown⟩ := (keeps_ofActs acts).exists_runs_in_sight p
  have hne (run : List String) (hrun : run ∈ block) : run ≠ [] := by
    have hmem : run ∈ runs (Transcript.ofActs acts).texts := by
      rw [hruns]
      exact List.mem_append_left _ (List.mem_append_right _ hrun)
    exact List.ne_nil_of_mem_splitBy hmem
  refine ⟨toNat_bump, older, block, newer, hruns, ?_, ?_,
    fun run hrun => rowText_lineOf (hne run hrun)⟩
  · rw [surface_render, hshown, List.length_map]
  · rw [rows?, hshown, mapM_rowText?_lineOf hne]

/-! ## A message again and again -/

theorem texts_replicate (n : Nat) (message : String) :
    (Transcript.ofActs (List.replicate n (.push message))).texts =
      List.replicate n (truncate message) := by
  induction n with
  | zero => rfl
  | succ n ih =>
    rw [List.replicate_succ', List.replicate_succ', Transcript.ofActs, List.foldl_concat, ← ih]
    exact List.map_append

theorem runs_replicate (n : Nat) (text : String) :
    runs (List.replicate (n + 1) text) = [List.replicate (n + 1) text] := by
  have hnone : ([] : List String).getLast? ≠ some text := by
    rw [List.getLast?_nil]
    exact (Option.some_ne_none text).symm
  exact runs_append_replicate hnone n

theorem one_le_rowsIn (height : Nat) : 1 ≤ rowsIn height := by
  unfold rowsIn
  dsimp only
  omega

/-- One message alone fills one line, which is in sight in any window. -/
theorem shown_replicate (n : Nat) (message : String) (p : Pane) :
    ((({} : Console).obeyAll (List.replicate (n + 1) (.push message))).render p).1.shown
        p.surface.height = [lineOf (List.replicate (n + 1) (truncate message))] := by
  have hkeeps := keeps_ofActs (List.replicate (n + 1) (.push message))
  have hruns : runs (Transcript.ofActs (List.replicate (n + 1) (.push message))).texts =
      [List.replicate (n + 1) (truncate message)] := by
    rw [texts_replicate, runs_replicate]
  have hline := hkeeps.lines
  obtain ⟨older, block, newer, hblock, hshown⟩ := hkeeps.exists_runs_in_sight p
  rw [hruns] at hline hblock
  generalize ({} : Console).obeyAll (List.replicate (n + 1) (.push message)) = c at *
  have hrange : (c.render p).1.scroll ≤ (c.render p).1.furthest p.surface.height :=
    Nat.min_le_right _ _
  obtain ⟨-, -, -, hlength, -⟩ := exists_view hrange
  have hlines : (c.render p).1.lines.length = 1 := congrArg List.length hline
  have hrows := one_le_rowsIn p.surface.height
  rw [hshown, List.length_map, hlines, Nat.min_eq_left hrows] at hlength
  obtain ⟨run, rfl⟩ := List.length_eq_one_iff.1 hlength
  have hrun : run ∈ [List.replicate (n + 1) (truncate message)] := by rw [hblock]; simp
  rw [hshown, List.mem_singleton.1 hrun, List.map_singleton]

/-- A message that comes `2 ^ 32 - 1` times is told to have come so often. When it comes once more,
its row cannot be written in words, and unchecked it says zero times. -/
theorem counts_told_while_words_no_further :
    let often (n : Nat) : Console := ({} : Console).obeyAll (List.replicate n (.push "a"))
    let p := Pane.new "console" {} 0 0 (.filled 64 26 0)
    ((often 0xFFFFFFFF).render p).1.rows? 26 = some ["a (x4294967295)".toList] ∧
      ((often 0x100000000).render p).1.rows? 26 = none ∧
      (((often 0x100000000).render p).1.shown 26).map rowText = ["a (x0)".toList] := by
  intro often p
  have hshown (n : Nat) : ((often (n + 1)).render p).1.shown 26 =
      [lineOf (List.replicate (n + 1) "a")] := shown_replicate n "a" p
  have hne (n : Nat) : List.replicate (n + 1) "a" ≠ [] := by simp
  have hrow (n : Nat) := rowText?_lineOf (hne n)
  have hunchecked (n : Nat) := rowText_lineOf (hne n)
  have hlast : Text.digits 10 0xFFFFFFFF = "4294967295".toList := by
    simp [Text.digits, Text.digit]
  simp only [List.length_replicate] at hrow hunchecked
  refine ⟨?_, ?_, ?_⟩
  · rw [rows?, hshown 0xFFFFFFFE, List.mapM_cons, hrow, if_pos (by decide), rowOfRun,
      List.length_replicate, if_neg (by decide), counted, hlast]
    rfl
  · rw [rows?, hshown 0xFFFFFFFF, List.mapM_cons, hrow, if_neg (by decide)]
    rfl
  · rw [hshown 0xFFFFFFFF, List.map_singleton, hunchecked, if_neg (by decide), counted,
      Text.digits]
    rfl

end Console

end TickDesktop
