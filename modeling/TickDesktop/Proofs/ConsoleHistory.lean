import Mathlib.Data.List.DropRight
import Mathlib.Data.List.Induction
import Mathlib.Data.List.SplitBy
import TickDesktop.Proofs.ByteOffsets
import TickDesktop.Window.Console

/-!
# What a console remembers

A console forgets: it cuts messages short, counts equal ones in a row, and keeps the newest lines
only. Beside it stands a transcript that forgets nothing. The lines of the console are the last runs
of equal messages of the transcript, and its input is what is left of the keys pressed since a line
was last handed in.
-/
namespace TickDesktop

namespace Console

/-! ## Acts -/

/-- What can happen to a console. -/
inductive Act where
  | push (message : String)
  | type (ch : Char)
  | backspace
  | submit
  | scrollUp (n height : Nat)
  | scrollDown (n : Nat)
  | scrollTop (height : Nat)
  | scrollBottom
  | pageUp (height : Nat)
  | pageDown (height : Nat)
  | render (p : Pane)

def obey (c : Console) : Act → Console
  | .push message => (c.push message).2
  | .type ch => (c.type ch).2
  | .backspace => c.backspace
  | .submit => c.submit.2
  | .scrollUp n height => c.scrollUp n height
  | .scrollDown n => c.scrollDown n
  | .scrollTop height => c.scrollTop height
  | .scrollBottom => c.scrollBottom
  | .pageUp height => c.pageUp height
  | .pageDown height => c.pageDown height
  | .render p => (c.render p).1

/-- The console after several acts. -/
def obeyAll (c : Console) (acts : List Act) : Console := acts.foldl obey c

@[simp] theorem obeyAll_concat (c : Console) (acts : List Act) (a : Act) :
    c.obeyAll (acts ++ [a]) = (c.obeyAll acts).obey a := List.foldl_concat ..

/-! ## One message -/

/-- Lines with a message as a line of its own. The oldest line makes room if there is none. -/
def withLine (lines : List ConsoleLine) (text : String) : List ConsoleLine :=
  (if lines.length = maxLines then lines.drop 1 else lines) ++ [⟨text, 0⟩]

/-- The line with one more message counted. -/
def again (line : ConsoleLine) : ConsoleLine := { line with repeats := bump line.repeats }

section Push

variable {c : Console} {message : String}

theorem push_of_last {front : List ConsoleLine} {last : ConsoleLine}
    (h : c.lines = front ++ [last]) (htext : last.text = truncate message) :
    c.push message = (false, { c with lines := front ++ [again last] }) := by
  rw [push, h, List.getLast?_concat]
  dsimp only
  rw [if_pos htext, List.dropLast_concat]
  rfl

theorem push_of_not_last (h : c.lines.getLast?.map (·.text) ≠ some (truncate message)) :
    c.push message = (true, { c with lines := withLine c.lines (truncate message) }) := by
  rw [push]
  cases hlast : c.lines.getLast? with
  | none => rfl
  | some last =>
    rw [hlast, Option.map_some] at h
    exact if_neg fun heq => h (congrArg some heq)

/-- What a message does: it is counted on the newest line, or it becomes a line. -/
theorem push_cases (c : Console) (message : String) :
    (∃ front last, c.lines = front ++ [last] ∧
      c.push message = (false, { c with lines := front ++ [again last] })) ∨
    c.push message = (true, { c with lines := withLine c.lines (truncate message) }) := by
  by_cases h : c.lines.getLast?.map (·.text) = some (truncate message)
  · obtain ⟨last, hlast, htext⟩ := Option.map_eq_some_iff.1 h
    obtain ⟨front, hfront⟩ := List.getLast?_eq_some_iff.1 hlast
    exact .inl ⟨front, last, hfront, push_of_last hfront htext⟩
  · exact .inr (push_of_not_last h)

/-- A message touches the lines only. -/
theorem push_eq (c : Console) (message : String) :
    (c.push message).2 = { c with lines := (c.push message).2.lines } := by
  rcases c.push_cases message with ⟨front, last, -, hpush⟩ | hpush <;> rw [hpush]

end Push

/-- The last lines that are kept stay the last ones when a line comes. -/
theorem withLine_rtake (lines : List ConsoleLine) (text : String) :
    withLine (lines.rtake maxLines) text =
      (lines ++ [(⟨text, 0⟩ : ConsoleLine)]).rtake maxLines := by
  rw [maxLines, List.rtake_concat_succ, withLine]
  congr 1
  simp only [List.rtake, List.length_drop, maxLines, List.drop_drop]
  split
  · exact congrArg (lines.drop ·) (by omega)
  · exact congrArg (lines.drop ·) (by omega)

/-! ## The line being typed -/

/-- A key that edits a line. -/
inductive Key where
  | char (ch : Char)
  | erase

/-- The keys that have an effect on a line of a length: a character that finds the line full is
dropped. -/
def heeded : Nat → List Key → List Key
  | _, [] => []
  | n, .erase :: keys => .erase :: heeded (n - 1) keys
  | n, .char ch :: keys =>
    if n < maxLength then .char ch :: heeded (n + 1) keys else heeded n keys

/-- The characters that are left of keys, both from the newest on, when some more are taken back:
each taking back costs the nearest character that was not taken back yet. -/
def remaining : Nat → List Key → List Char
  | _, [] => []
  | n, .erase :: keys => remaining (n + 1) keys
  | 0, .char ch :: keys => ch :: remaining 0 keys
  | n + 1, .char _ :: keys => remaining n keys

/-- The line that keys leave. -/
def typed (keys : List Key) : List Char := (remaining 0 (heeded 0 keys).reverse).reverse

/-- The effect of one key on a line. -/
def edit (line : List Char) : Key → List Char
  | .char ch => if line.length < maxLength then line ++ [ch] else line
  | .erase => line.dropLast

/-- The effect of one key on a line that is never full. -/
def editFreely (line : List Char) : Key → List Char
  | .char ch => line ++ [ch]
  | .erase => line.dropLast

theorem foldl_editFreely_heeded (keys : List Key) (line : List Char) :
    (heeded line.length keys).foldl editFreely line = keys.foldl edit line := by
  induction keys generalizing line with
  | nil => rfl
  | cons key keys ih =>
    cases key with
    | char ch =>
      rw [heeded, List.foldl_cons, edit]
      split
      · rw [List.foldl_cons, editFreely, ← ih, List.length_append, List.length_singleton]
      · rw [← ih]
    | erase =>
      rw [heeded, List.foldl_cons, List.foldl_cons, editFreely, edit, ← ih, List.length_dropLast]

theorem remaining_reverse (keys : List Key) (n : Nat) :
    remaining n keys.reverse = (keys.foldl editFreely []).reverse.drop n := by
  -- the newest key comes first on the left and last on the right
  induction keys using List.reverseRecOn generalizing n with
  | nil => simp [remaining]
  | append_singleton keys key ih =>
    rw [List.reverse_concat, List.foldl_concat]
    cases key with
    | char ch => cases n <;> simp [remaining, editFreely, ih]
    | erase =>
      rw [remaining, ih, editFreely, ← List.tail_reverse, ← List.drop_one, List.drop_drop,
        Nat.add_comm]

/-- Key by key, a line becomes what is left of all keys. -/
theorem typed_eq (keys : List Key) : typed keys = keys.foldl edit [] := by
  rw [typed, remaining_reverse, List.drop_zero, List.reverse_reverse]
  exact foldl_editFreely_heeded keys []

theorem typed_concat (keys : List Key) (key : Key) :
    typed (keys ++ [key]) = edit (typed keys) key := by
  rw [typed_eq, typed_eq, List.foldl_concat]

theorem length_typed_le (keys : List Key) : (typed keys).length ≤ maxLength := by
  induction keys using List.reverseRecOn with
  | nil => exact Nat.zero_le _
  | append_singleton keys key ih =>
    rw [typed_concat]
    cases key with
    | char ch =>
      rw [edit]
      split
      · rw [List.length_append, List.length_singleton]
        omega
      · exact ih
    | erase =>
      rw [edit, List.length_dropLast]
      omega

/-! ## Messages -/

/-- The start of a message, found by the byte offset of the first character that is too many. It
fails if the offset does not lie between two characters. -/
def truncateByBytes? (message : List Char) : Option (List Char) :=
  match Text.offsetAt? maxLength message with
  | some cut => Text.slice? message 0 cut
  | none => some message

theorem truncateByBytes?_eq (message : String) :
    truncateByBytes? message.toList = some (truncate message).toList := by
  rw [truncateByBytes?, Text.offsetAt?_eq, truncate, String.toList_ofList]
  by_cases hlong : maxLength < message.toList.length
  · rw [if_pos hlong]
    have hcut := Text.slice?_front (message.toList.take maxLength) (message.toList.drop maxLength)
    rwa [List.take_append_drop] at hcut
  · rw [if_neg hlong, List.take_of_length_le (by omega)]

theorem truncate_of_length_le {message : String} (h : message.toList.length ≤ maxLength) :
    truncate message = message := by
  rw [truncate, List.take_of_length_le h, String.ofList_toList]

/-- Messages in runs of equal ones. -/
def runs (texts : List String) : List (List String) := texts.splitBy (· == ·)

/-- The line that a run is kept as, with the messages after the first one counted. -/
def lineOf (run : List String) : ConsoleLine :=
  ⟨run.headD "", .ofNat (min (run.length - 1) 0xFFFFFFFF)⟩

variable {init : List String} {text : String}

theorem runs_append_replicate (h : init.getLast? ≠ some text) (n : Nat) :
    runs (init ++ List.replicate (n + 1) text) = runs init ++ [List.replicate (n + 1) text] := by
  have hrun : runs (List.replicate (n + 1) text) = [List.replicate (n + 1) text] :=
    List.splitBy_of_isChain (by simp)
      (List.isChain_replicate_of_rel (n + 1) (beq_self_eq_true text))
  rw [← hrun]
  refine List.splitBy_append fun last hlast next hnext => ?_
  rw [List.replicate_succ, List.head?_cons, Option.mem_some_iff] at hnext
  subst hnext
  exact beq_false_of_ne fun heq => h (heq ▸ hlast)

/-- A history that ends in a text ends in a whole run of it. -/
theorem exists_last_run {texts : List String} (h : texts.getLast? = some text) :
    ∃ init n, texts = init ++ List.replicate (n + 1) text ∧ init.getLast? ≠ some text := by
  induction texts using List.reverseRecOn with
  | nil => cases h
  | append_singleton texts last ih =>
    rw [List.getLast?_concat] at h
    obtain rfl := Option.some.inj h
    by_cases hmore : texts.getLast? = some last
    · obtain ⟨init, n, rfl, hinit⟩ := ih hmore
      refine ⟨init, n + 1, ?_, hinit⟩
      rw [List.append_assoc, ← List.replicate_succ']
    · exact ⟨texts, 0, rfl, hmore⟩

theorem lineOf_replicate (n : Nat) (text : String) :
    lineOf (List.replicate (n + 1) text) = ⟨text, .ofNat (min n 0xFFFFFFFF)⟩ := by
  rw [lineOf, List.length_replicate, Nat.add_sub_cancel]
  rfl

/-- The count of a run stays at the greatest word. -/
theorem bump_ofNat (n : Nat) :
    bump (.ofNat (min n 0xFFFFFFFF)) = .ofNat (min (n + 1) 0xFFFFFFFF) := by
  have hcount : (UInt32.ofNat (min n 0xFFFFFFFF)).toNat = min n 0xFFFFFFFF :=
    UInt32.toNat_ofNat_of_lt' (by simp only [UInt32.size]; omega)
  rw [bump]
  split
  · next hmax =>
    have hfull : min n 0xFFFFFFFF = 0xFFFFFFFF := by
      rw [← hcount, hmax]
      rfl
    rw [hfull, Nat.min_eq_right (by omega)]
  · next hless =>
    have hroom : n < 0xFFFFFFFF := by
      refine Nat.lt_of_not_le fun hle => hless ?_
      rw [Nat.min_eq_right hle]
      rfl
    rw [Nat.min_eq_left (by omega), Nat.min_eq_left (by omega), UInt32.ofNat_add]
    rfl

/-! ## The transcript -/

/-- Everything that a console was told: the keys since a line was last handed in, and all messages,
the lines handed in among them. -/
structure Transcript where
  keys : List Key := []
  messages : List String := []

namespace Transcript

def note (t : Transcript) : Act → Transcript
  | .push message => { t with messages := t.messages ++ [message] }
  | .type ch => { t with keys := t.keys ++ [.char ch] }
  | .backspace => { t with keys := t.keys ++ [.erase] }
  | .submit => ⟨[], t.messages ++ [String.ofList (typed t.keys)]⟩
  | _ => t

/-- The transcript of acts. -/
def ofActs (acts : List Act) : Transcript := acts.foldl note {}

/-- The messages as far as they are kept. -/
def texts (t : Transcript) : List String := t.messages.map truncate

end Transcript

/-- A console keeps the last runs of a transcript and the line that its keys leave. -/
structure Keeps (c : Console) (t : Transcript) : Prop where
  lines : c.lines = ((runs t.texts).map lineOf).rtake maxLines
  input : c.input.toList = typed t.keys

variable {c : Console} {t : Transcript}

/-- The newest line is the last run. -/
theorem Keeps.lines_of_last (h : c.Keeps t) {n : Nat}
    (htexts : t.texts = init ++ List.replicate (n + 1) text) (hinit : init.getLast? ≠ some text) :
    c.lines = ((runs init).map lineOf).rtake 31 ++ [⟨text, .ofNat (min n 0xFFFFFFFF)⟩] := by
  rw [h.lines, htexts, runs_append_replicate hinit, List.map_append, List.map_singleton,
    lineOf_replicate]
  exact List.rtake_concat_succ ..

theorem Keeps.text_getLast? (h : c.Keeps t) : c.lines.getLast?.map (·.text) = t.texts.getLast? := by
  cases hlast : t.texts.getLast? with
  | none =>
    rw [List.getLast?_eq_none_iff] at hlast
    rw [h.lines, hlast]
    rfl
  | some text =>
    obtain ⟨init, n, htexts, hinit⟩ := exists_last_run hlast
    rw [h.lines_of_last htexts hinit, List.getLast?_concat]
    rfl

/-- A message equal to the newest text is counted. -/
theorem Keeps.push_of_eq (h : c.Keeps t) {message : String}
    (hlast : t.texts.getLast? = some (truncate message)) :
    (c.push message).1 = false ∧
      (c.push message).2.lines =
        ((runs (t.texts ++ [truncate message])).map lineOf).rtake maxLines ∧
      ∃ front run, runs t.texts = front ++ [run] ∧
        runs (t.texts ++ [truncate message]) = front ++ [run ++ [truncate message]] := by
  obtain ⟨init, n, htexts, hinit⟩ := exists_last_run hlast
  have hmore : t.texts ++ [truncate message] =
      init ++ List.replicate (n + 1 + 1) (truncate message) := by
    rw [htexts, List.append_assoc, ← List.replicate_succ']
  -- the run that grows is the newest one, so what was dropped before it stays dropped
  have hlines := h.lines_of_last htexts hinit
  have hpush := push_of_last hlines rfl
  rw [again, bump_ofNat] at hpush
  refine ⟨by rw [hpush], ?_, runs init, List.replicate (n + 1) (truncate message), ?_, ?_⟩
  · rw [hpush, hmore, runs_append_replicate hinit, List.map_append, List.map_singleton,
      lineOf_replicate]
    exact (List.rtake_concat_succ ..).symm
  · rw [htexts, runs_append_replicate hinit]
  · rw [hmore, runs_append_replicate hinit, List.replicate_succ']

/-- Any other message becomes a line of its own, and the oldest line makes room if there is none. -/
theorem Keeps.push_of_ne (h : c.Keeps t) {message : String}
    (hlast : t.texts.getLast? ≠ some (truncate message)) :
    (c.push message).1 = true ∧
      (c.push message).2.lines =
        ((runs (t.texts ++ [truncate message])).map lineOf).rtake maxLines ∧
      runs (t.texts ++ [truncate message]) = runs t.texts ++ [[truncate message]] := by
  have hruns : runs (t.texts ++ [truncate message]) = runs t.texts ++ [[truncate message]] :=
    runs_append_replicate hlast 0
  have hpush := push_of_not_last (h.text_getLast?.symm ▸ hlast)
  refine ⟨by rw [hpush], ?_, hruns⟩
  rw [hpush, h.lines, hruns, List.map_append, withLine_rtake]
  rfl

theorem Keeps.push (h : c.Keeps t) (message : String) :
    (c.push message).2.Keeps (t.note (.push message)) := by
  have htexts : (t.note (.push message)).texts = t.texts ++ [truncate message] := List.map_append
  refine ⟨?_, by rw [push_eq]; exact h.input⟩
  rw [htexts]
  by_cases hlast : t.texts.getLast? = some (truncate message)
  · exact (h.push_of_eq hlast).2.1
  · exact (h.push_of_ne hlast).2.1

/-- A message is counted just if it extends the newest run. -/
theorem Keeps.push_eq_false_iff (h : c.Keeps t) (message : String) :
    (c.push message).1 = false ↔ ∃ front run, runs t.texts = front ++ [run] ∧
      runs (t.note (.push message)).texts = front ++ [run ++ [truncate message]] := by
  have htexts : (t.note (.push message)).texts = t.texts ++ [truncate message] := List.map_append
  rw [htexts]
  by_cases hlast : t.texts.getLast? = some (truncate message)
  · obtain ⟨hfalse, -, hextends⟩ := h.push_of_eq hlast
    exact iff_of_true hfalse hextends
  · obtain ⟨htrue, -, hmore⟩ := h.push_of_ne hlast
    refine iff_of_false (by rw [htrue]; exact Bool.noConfusion) ?_
    rintro ⟨front, run, hruns, hextended⟩
    have hlength := congrArg List.length (hextended.symm.trans hmore)
    rw [hruns] at hlength
    simp at hlength

/-- The line that is handed in becomes a message like any other. -/
theorem Keeps.submit (h : c.Keeps t) : c.submit.2.Keeps (t.note .submit) := by
  have hline : String.ofList (typed t.keys) = c.input := by rw [← h.input, String.ofList_toList]
  have hcleared : ({ c with input := "" } : Console).Keeps { t with keys := [] } := ⟨h.lines, rfl⟩
  have hpushed := hcleared.push c.input
  rw [Transcript.note, hline]
  exact ⟨hpushed.lines, hpushed.input⟩

/-- Whatever happens to a console, it keeps what the transcript says. -/
theorem Keeps.obey (h : c.Keeps t) (a : Act) : (c.obey a).Keeps (t.note a) := by
  cases a with
  | push message => exact h.push message
  | type ch =>
    refine ⟨?_, ?_⟩
    · rw [Console.obey, type]
      split <;> exact h.lines
    · rw [Console.obey, type, Transcript.note, typed_concat, edit, ← h.input]
      split
      · exact String.toList_push ch
      · rfl
  | backspace =>
    refine ⟨h.lines, ?_⟩
    rw [Console.obey, backspace, Transcript.note, typed_concat, edit, ← h.input,
      String.toList_ofList]
  | submit => exact h.submit
  | scrollUp | scrollDown | scrollTop | scrollBottom | pageUp | pageDown | render =>
    exact ⟨h.lines, h.input⟩

theorem keeps_ofActs (acts : List Act) : (({} : Console).obeyAll acts).Keeps (.ofActs acts) := by
  induction acts using List.reverseRecOn with
  | nil => exact ⟨rfl, rfl⟩
  | append_singleton acts a ih =>
    rw [obeyAll_concat, Transcript.ofActs, List.foldl_concat]
    exact ih.obey a

/-- Whatever happens to a new console, its lines are the last 32 runs of equal messages, each cut to
its first 127 characters, which lie before a character and not inside one. A message is counted just
if it extends the newest run. The input is what is left of the keys pressed since a line was last
handed in, without the characters that found it full, and it is handed in as it stands: it is both
the answer and the newest line. -/
theorem lines_are_last_runs (acts : List Act) :
    let c := ({} : Console).obeyAll acts
    let t := Transcript.ofActs acts
    c.lines = ((runs t.texts).map lineOf).rtake 32 ∧
      (∀ message : String,
        truncateByBytes? message.toList = some (truncate message).toList ∧
          (truncate message).toList = message.toList.take 127 ∧
          ((c.push message).1 = false ↔ ∃ front run, runs t.texts = front ++ [run] ∧
            runs (t.note (.push message)).texts = front ++ [run ++ [truncate message]])) ∧
      c.input.toList = typed t.keys ∧ c.submit.1 = c.input ∧
      c.submit.2.lines.getLast?.map (·.text) = some c.input := by
  intro c t
  have hkeeps : c.Keeps t := keeps_ofActs acts
  refine ⟨hkeeps.lines, fun message => ⟨truncateByBytes?_eq message, String.toList_ofList,
    hkeeps.push_eq_false_iff message⟩, hkeeps.input, rfl, ?_⟩
  have hline : String.ofList (typed t.keys) = c.input := by
    rw [← hkeeps.input, String.ofList_toList]
  have hshort : truncate c.input = c.input :=
    truncate_of_length_le (hkeeps.input ▸ length_typed_le t.keys)
  rw [hkeeps.submit.text_getLast?, Transcript.note, Transcript.texts, List.map_append,
    List.map_singleton, List.getLast?_concat, hline, hshort]

/-- Characters are taken back one by one, and those after a taking back stand in their place. -/
example : typed [.char 'l', .char 's', .char 'x', .erase, .erase, .char 'o'] = ['l', 'o'] := by
  decide

end Console

end TickDesktop
