import TickDesktop.Config.Text
import TickDesktop.Proofs.ConfigValues

/-!
# A written configuration reads back

The written lines are taken apart again one by one: a header names its section, an assignment names
its field under the header above, and all other lines say nothing. So parsing a written
configuration sets every field to its value, in whatever order. What was parsed lies in the ranges
of its fields, and can therefore be written and parsed again without a change.
-/
namespace TickDesktop

open Text

/-! ## Lines -/

/-- A line ends at the first line feed. -/
theorem Text.lines_append {l : List Char} (hl : '\n' ∉ l) (s : List Char) :
    lines (l ++ '\n' :: s) = l :: lines s := by
  induction l with
  | nil => exact lines_newline s
  | cons c l ih =>
    rw [List.mem_cons, not_or] at hl
    rw [List.cons_append, lines, if_neg (Ne.symm hl.1), ih hl.2]

theorem Text.Solid.newline_not_mem {s : List Char} (hs : Solid s) : '\n' ∉ s := by
  intro hmem
  have hblank := hs.not_blank '\n' hmem
  revert hblank
  decide

namespace Config

/-- A name that a line can start with: it is taken neither for a comment nor for a header, and its
end is seen. -/
structure IsKey (key : List Char) : Prop where
  solid : Solid key
  no_mark : ∀ c ∈ key, c ≠ '#' ∧ c ≠ ';' ∧ c ≠ '[' ∧ c ≠ '='

theorem IsKey.of_all {key : List Char} (hsolid : (!key.isEmpty && key.all (!isBlank ·)) = true)
    (hmark : key.all (fun c => c ≠ '#' ∧ c ≠ ';' ∧ c ≠ '[' ∧ c ≠ '=') = true) : IsKey key := by
  refine ⟨.of_all hsolid, fun c hc => ?_⟩
  exact of_decide_eq_true (List.all_eq_true.1 hmark c hc)

theorem Line.ofChars_header {name : List Char} :
    Line.ofChars ('[' :: name ++ [']']) = .header name := by
  have hopen : Solid ['['] := .of_all (by decide)
  have hclose : Solid [']'] := .of_all (by decide)
  have htrim := hopen.trim_between hclose name
  rw [List.singleton_append] at htrim
  rw [Line.ofChars, htrim]
  simp

theorem Line.ofChars_setting {key value : List Char} (hkey : IsKey key) (hvalue : Solid value) :
    Line.ofChars (key ++ ' ' :: '=' :: ' ' :: value) = .setting key value := by
  have htrim : trim (key ++ ' ' :: '=' :: ' ' :: value) = key ++ ' ' :: '=' :: ' ' :: value := by
    have hbetween := hkey.solid.trim_between hvalue [' ', '=', ' ']
    rwa [List.append_assoc] at hbetween
  have hbefore : ∀ c ∈ key ++ [' '], c ≠ '=' := by
    intro c hc
    rw [List.mem_append, List.mem_singleton] at hc
    rcases hc with hc | rfl
    · exact (hkey.no_mark c hc).2.2.2
    · decide
  have hline : key ++ ' ' :: '=' :: ' ' :: value = (key ++ [' ']) ++ '=' :: ' ' :: value := by simp
  have hsetting : ofChars.settingOf (key ++ ' ' :: '=' :: ' ' :: value) = .setting key value := by
    have htake : (key ++ ' ' :: '=' :: ' ' :: value).takeWhile (· ≠ '=') = key ++ [' '] := by
      rw [hline, List.takeWhile_append_of_pos (by simpa using hbefore)]
      simp
    have hdrop : (key ++ ' ' :: '=' :: ' ' :: value).dropWhile (· ≠ '=') = '=' :: ' ' :: value := by
      rw [hline, List.dropWhile_append_of_pos (by simpa using hbefore)]
      simp
    rw [ofChars.settingOf, if_pos (by simp), htake, hdrop, hkey.solid.trim_append_space]
    rw [List.drop_one, List.tail_cons, trim_space_cons, hvalue.trim_eq]
  obtain ⟨c, rest, rfl, -⟩ := hkey.solid.exists_head
  obtain ⟨hhash, hsemi, hopen, -⟩ := hkey.no_mark c List.mem_cons_self
  rw [Line.ofChars, htrim]
  split
  · next h => cases h
  · next h => exact absurd (List.cons.inj h).1 hhash
  · next h => exact absurd (List.cons.inj h).1 hsemi
  · next h => exact absurd (List.cons.inj h).1 hopen
  · exact hsetting

/-! ## Fields -/

/-- The name under which a field is written. -/
def Field.key (f : Field) : List Char := (f.keys.headD "").toList

/-- The name under which a section is written. -/
def Section.name (s : Section) : List Char := (s.names.headD "").toList

theorem Field.isKey_key (f : Field) : IsKey f.key := by
  cases f <;> exact .of_all (by decide) (by decide)

theorem Section.solid_name (s : Section) : Solid s.name := by
  cases s <;> exact .of_all (by decide)

/-- The written names name the field. -/
theorem Field.named?_key {s : Section} {f : Field} (h : f ∈ s.fields) :
    named? s.name f.key = some f := by
  have hall : (s.fields.all fun f => named? s.name f.key = some f) = true := by
    cases s <;> decide
  exact of_decide_eq_true (List.all_eq_true.1 hall f h)

/-- Every field is written in some section. -/
theorem Section.mem_fields (f : Field) : f ∈ Section.all.flatMap Section.fields := by
  cases f <;> decide

/-! ## The written text taken apart -/

theorem assignments_line {l : List Char} (hl : '\n' ∉ l) (header s : List Char) :
    assignments header (lines (l ++ '\n' :: s)) = match Line.ofChars l with
      | .header name => assignments name (lines s)
      | .setting key value => ⟨header, key, value⟩ :: assignments header (lines s)
      | .nothing => assignments header (lines s) := by
  cases h : Line.ofChars l <;> simp only [lines_append hl, assignments, h]

theorem assignments_blank (header s : List Char) :
    assignments header (lines ('\n' :: s)) = assignments header (lines s) :=
  assignments_line (l := []) List.not_mem_nil header s

/-- The first line of a written configuration says nothing. -/
theorem exists_comment : ∃ comment : List Char,
    "# QARMA configuration\n\n".toList = comment ++ ['\n', '\n'] ∧ '\n' ∉ comment ∧
      Line.ofChars comment = .nothing :=
  ⟨"# QARMA configuration".toList, by decide +kernel, by decide +kernel, by decide +kernel⟩

/-- All values of the configuration lie in the ranges of their fields. -/
def InRange (c : Config) : Prop := ∀ f : Field, f.kind.Admits (f.get c)

/-- The assignment that a field is written as. -/
def assignment (c : Config) (header : List Char) (f : Field) : Assignment :=
  ⟨header, f.key, (f.kind.write (f.get c)).toList⟩

namespace InRange

variable {c : Config}

theorem assignments_writeField (h : c.InRange) (f : Field) (header s : List Char) :
    assignments header (lines ((writeField c f).toList ++ s)) =
      c.assignment header f :: assignments header (lines s) := by
  have hkey := f.isKey_key
  have hvalue := Kind.solid_write (h f)
  have hline : (writeField c f).toList ++ s =
      (f.key ++ ' ' :: '=' :: ' ' :: (f.kind.write (f.get c)).toList) ++ '\n' :: s := by
    simp [writeField, Field.key]
  have hnewline : '\n' ∉ f.key ++ ' ' :: '=' :: ' ' :: (f.kind.write (f.get c)).toList := by
    simp [hkey.solid.newline_not_mem, hvalue.newline_not_mem]
  rw [hline, assignments_line hnewline, Line.ofChars_setting hkey hvalue, assignment]

theorem assignments_writeFields (h : c.InRange) (fs : List Field) (header s : List Char) :
    assignments header (lines ((String.join (fs.map (writeField c))).toList ++ s)) =
      fs.map (c.assignment header) ++ assignments header (lines s) := by
  induction fs with
  | nil => simp
  | cons f fs ih =>
    rw [List.map_cons, String.join_cons, String.toList_append, List.append_assoc,
      h.assignments_writeField, ih, List.map_cons, List.cons_append]

theorem assignments_writeSection (h : c.InRange) (sec : Section) (header s : List Char) :
    assignments header (lines ((writeSection c sec).toList ++ s)) =
      sec.fields.map (c.assignment sec.name) ++ assignments sec.name (lines s) := by
  have hline : (writeSection c sec).toList ++ s = ('[' :: sec.name ++ [']']) ++
      '\n' :: ((String.join (sec.fields.map (writeField c))).toList ++ s) := by
    simp [writeSection, Section.name]
  have hnewline : '\n' ∉ '[' :: sec.name ++ [']'] := by
    simp [sec.solid_name.newline_not_mem]
  rw [hline, assignments_line hnewline, Line.ofChars_header]
  exact h.assignments_writeFields sec.fields sec.name s

theorem assignments_writeSections (h : c.InRange) (secs : List Section) (header : List Char) :
    assignments header (lines ("\n".intercalate (secs.map (writeSection c))).toList) =
      secs.flatMap fun sec => sec.fields.map (c.assignment sec.name) := by
  induction secs generalizing header with
  | nil => rfl
  | cons sec secs ih =>
    rw [List.map_cons, List.flatMap_cons]
    cases secs with
    | nil =>
      have hlast := h.assignments_writeSection sec header []
      rw [List.append_nil] at hlast
      rw [List.map_nil, String.intercalate_singleton, hlast]
      rfl
    | cons sec' secs =>
      rw [List.map_cons, String.intercalate_cons_cons, String.append_assoc, String.toList_append,
        h.assignments_writeSection, String.toList_append]
      have hrest := ih sec.name
      rw [List.map_cons] at hrest
      rw [← hrest]
      exact congrArg _ (assignments_blank _ _)

/-- The assignments of a written configuration are those of all its fields. -/
theorem assignments_write (h : c.InRange) : assignments [] (lines (write c).toList) =
    Section.all.flatMap fun sec => sec.fields.map (c.assignment sec.name) := by
  obtain ⟨comment, hstart, hnewline, hcomment⟩ := exists_comment
  have htext : (write c).toList = (comment ++ ['\n', '\n']) ++
      ("\n".intercalate (Section.all.map (writeSection c))).toList := by
    unfold write
    rw [String.toList_append, hstart]
  rw [htext, List.append_assoc, List.cons_append, List.cons_append, List.nil_append,
    assignments_line hnewline, hcomment]
  exact (assignments_blank [] _).trans (h.assignments_writeSections Section.all [])

end InRange

/-! ## Fields set one after the other -/

/-- The configuration with fields set to their values in another one. -/
def copyFields (source : Config) (fs : List Field) (c : Config) : Config :=
  fs.foldl (fun c f => f.set (f.get source) c) c

theorem get_copyFields (source : Config) {fs : List Field} {c : Config} {f : Field}
    (h : f ∈ fs ∨ f.get c = f.get source) : f.get (copyFields source fs c) = f.get source := by
  induction fs generalizing c with
  | nil => exact h.resolve_left List.not_mem_nil
  | cons g fs ih =>
    apply ih
    by_cases hfg : f = g
    · subst g
      exact .inr (Field.get_set_self f _ c)
    · rw [Field.get_set_of_ne hfg]
      exact h.imp_left fun hmem => (List.mem_cons.1 hmem).resolve_left hfg

/-- The configuration with given values. -/
def ofValues (v : (f : Field) → f.kind.Value) : Config where
  display := ⟨v .displayWidth, v .displayHeight, v .desktop⟩
  scheduler := ⟨v .tickRate, v .maxModules, v .maxProcesses⟩
  windows := ⟨v .maxWindows, v .defaultX, v .defaultY, v .defaultWidth, v .defaultHeight⟩
  splash := ⟨v .splashEnabled, v .splashX, v .splashY, v .splashWidth, v .splashHeight,
    v .fadeSpeed, v .splashBackground, v .fallback⟩
  clock := ⟨v .clockEnabled, v .clockX, v .clockY, v .clockWidth, v .clockHeight, v .foreground,
    v .clockBackground, v .border⟩
  logLevel := v .logLevel

theorem ofValues_get (c : Config) : ofValues (fun f => f.get c) = c := rfl

/-- A configuration is made of its fields and nothing else. -/
theorem ext_get {a b : Config} (h : ∀ f : Field, f.get a = f.get b) : a = b := by
  rw [← ofValues_get a, ← ofValues_get b, funext h]

/-- An assignment as it is written sets its field. -/
theorem assign_assignment {source : Config} (h : source.InRange) {sec : Section} {f : Field}
    (hf : f ∈ sec.fields) (c : Config) :
    assign c (source.assignment sec.name f) = f.set (f.get source) c := by
  rw [assign, assignment, Field.named?_key hf]
  dsimp only
  rw [Kind.read?_write (h f)]

theorem foldl_assign {source : Config} (h : source.InRange) {sec : Section} {fs : List Field}
    (hfs : ∀ f ∈ fs, f ∈ sec.fields) (c : Config) :
    (fs.map (source.assignment sec.name)).foldl assign c = copyFields source fs c := by
  induction fs generalizing c with
  | nil => rfl
  | cons f fs ih =>
    rw [List.map_cons, List.foldl_cons, assign_assignment h (hfs f List.mem_cons_self),
      ih fun g hg => hfs g (List.mem_cons_of_mem f hg)]
    rfl

theorem foldl_assign_sections {source : Config} (h : source.InRange) (secs : List Section)
    (c : Config) :
    (secs.flatMap fun sec => sec.fields.map (source.assignment sec.name)).foldl assign c =
      copyFields source (secs.flatMap Section.fields) c := by
  induction secs generalizing c with
  | nil => rfl
  | cons sec secs ih =>
    rw [List.flatMap_cons, List.flatMap_cons, List.foldl_append, foldl_assign h fun _ hf => hf, ih,
      copyFields, copyFields, copyFields, List.foldl_append]

/-- A configuration in range is what is parsed from its written form. -/
theorem parse_write {c : Config} (h : c.InRange) : parse (write c) = c := by
  apply ext_get
  intro f
  rw [parse, h.assignments_write, foldl_assign_sections h]
  exact get_copyFields c (.inl (Section.mem_fields f))

/-! ## What is parsed -/

theorem inRange_default : InRange {} := by
  intro f
  cases f with
  | fadeSpeed => exact ⟨by decide +kernel, by decide +kernel, by decide +kernel⟩
  | logLevel | desktop | splashEnabled | splashBackground | fallback | clockEnabled | foreground
  | clockBackground | border => trivial
  | _ => exact ⟨by decide, by decide⟩

theorem InRange.set {c : Config} (h : c.InRange) {f : Field} {v : f.kind.Value}
    (hv : f.kind.Admits v) : (f.set v c).InRange := by
  intro g
  by_cases hgf : g = f
  · subst g
    rwa [Field.get_set_self]
  · rw [Field.get_set_of_ne hgf]
    exact h g

theorem InRange.assign {c : Config} (h : c.InRange) (a : Assignment) : (c.assign a).InRange := by
  unfold Config.assign
  split
  · exact h
  · split
    · exact h
    · next hread => exact h.set (Kind.admits_of_read? hread)

/-- Whatever the text, the parsed configuration is in range. -/
theorem inRange_parse (text : String) : (parse text).InRange := by
  have hfold (as : List Assignment) (c : Config) (h : c.InRange) : (as.foldl assign c).InRange := by
    induction as generalizing c with
    | nil => exact h
    | cons a as ih => exact ih _ (h.assign a)
  exact hfold _ _ inRange_default

/-! ## The round trip -/

deriving instance ReflBEq for Display, Config.Scheduler, Windows, Clock

/-- A configuration in range compares as equal to itself: its only number that could fail to is
finite. -/
theorem InRange.beq_self {c : Config} (h : c.InRange) : (c == c) = true := by
  have hspeed : (c.splash.fadeSpeed == c.splash.fadeSpeed) = true := by
    rw [Float32.beq_self_iff]
    intro hnan
    have hfinite := (h .fadeSpeed).1
    rw [Field.get, hnan] at hfinite
    revert hfinite
    decide +kernel
  have hsplash : (c.splash == c.splash) = true := by
    change (c.splash.enabled == c.splash.enabled && (c.splash.x == c.splash.x &&
      (c.splash.y == c.splash.y && (c.splash.width == c.splash.width &&
      (c.splash.height == c.splash.height && (c.splash.fadeSpeed == c.splash.fadeSpeed &&
      (c.splash.background == c.splash.background &&
        c.splash.fallback == c.splash.fallback))))))) = true
    simp only [beq_self_eq_true, Bool.and_true, hspeed]
  change (c.display == c.display && (c.scheduler == c.scheduler && (c.windows == c.windows &&
    (c.splash == c.splash && (c.clock == c.clock && c.logLevel == c.logLevel))))) = true
  simp only [beq_self_eq_true, Bool.and_true, hsplash]

/-- Every configuration whose values lie in the ranges of their fields is parsed back from its
written form, value for value. So is the configuration that any text describes. -/
theorem write_parse_round_trip :
    (∀ c : Config, (∀ f : Field, f.kind.Admits (f.get c)) →
      parse (write c) = c ∧ (parse (write c) == c) = true) ∧
    ∀ text : String,
      parse (write (parse text)) = parse text ∧
        (parse (write (parse text)) == parse text) = true := by
  have hback {c : Config} (h : c.InRange) :
      parse (write c) = c ∧ (parse (write c) == c) = true := by
    rw [parse_write h]
    exact ⟨rfl, h.beq_self⟩
  exact ⟨fun c h => hback h, fun text => hback (inRange_parse text)⟩

/-- Values at the ends of their ranges, a clear color and a speed that no short sum of powers of two
gives; and a text with a number out of range. -/
theorem write_parse_round_trip_extremes :
    let c : Config := {
      display := ⟨1, 8192, .transparent⟩
      scheduler := ⟨1000, 1, 256⟩
      windows := { defaultX := -0x80000000, defaultY := 0x7FFFFFFF }
      splash := { fadeSpeed := Float32.ofBits 0x3DCCCCCD, enabled := false }
      logLevel := .off }
    let text := "[splash]\nfade_speed = 1e9\nwidth = 0\n"
    (∀ f : Field, f.kind.Admits (f.get c)) ∧ parse (write c) = c ∧
      (parse text).splash.fadeSpeed = 100 ∧ parse (write (parse text)) = parse text := by
  intro c text
  have hc : ∀ f : Field, f.kind.Admits (f.get c) := by
    intro f
    cases f with
    | fadeSpeed => exact ⟨by decide +kernel, by decide +kernel, by decide +kernel⟩
    | logLevel | desktop | splashEnabled | splashBackground | fallback | clockEnabled | foreground
    | clockBackground | border => trivial
    | _ => exact ⟨by decide, by decide⟩
  obtain ⟨hwritten, hparsed⟩ := write_parse_round_trip
  exact ⟨hc, (hwritten c hc).1, by decide +kernel, (hparsed text).1⟩

end Config

end TickDesktop
