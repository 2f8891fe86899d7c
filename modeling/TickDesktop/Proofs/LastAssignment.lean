import Mathlib.Logic.Equiv.Defs
import TickDesktop.Proofs.ConfigRoundTrip

/-!
# The last assignment wins

A line of a configuration text is a header, an assignment, or says nothing. An assignment gives a
value to a field if the last header above it names the section of the field, its key is one of the
field and its text is read. Line by line, the parsed configuration has in every field the value of
the last line that gives one so far. So only those lines matter, and only their order within each
field.
-/
namespace TickDesktop.Config

open Text

/-! ## Lines -/

/-- A header is a name in brackets. -/
def IsHeader (line name : List Char) : Prop := trim line = '[' :: name ++ [']']

/-- An assignment has its key before the first equals sign and its value behind it, and is neither a
comment nor a header. -/
structure IsSetting (line key value : List Char) : Prop where
  not_comment : ∀ s, trim line ≠ '#' :: s ∧ trim line ≠ ';' :: s
  not_header : ∀ name, ¬ IsHeader line name
  split : ∃ before after, trim line = before ++ '=' :: after ∧ '=' ∉ before ∧
    trim before = key ∧ trim after = value

theorem Line.settingOf_eq_setting_iff {s key value : List Char} :
    ofChars.settingOf s = .setting key value ↔ ∃ before after, s = before ++ '=' :: after ∧
      '=' ∉ before ∧ trim before = key ∧ trim after = value := by
  have hsplit {before after : List Char} (hbefore : '=' ∉ before) :
      ofChars.settingOf (before ++ '=' :: after) = .setting (trim before) (trim after) := by
    have hall : ∀ c ∈ before, decide (c ≠ '=') = true := by
      intro c hc
      exact decide_eq_true fun heq => hbefore (heq ▸ hc)
    rw [ofChars.settingOf, if_pos (by simp), List.takeWhile_append_of_pos hall,
      List.dropWhile_append_of_pos hall]
    simp
  constructor
  · intro h
    by_cases hmem : '=' ∈ s
    · obtain ⟨before, after, rfl, hbefore⟩ := List.eq_append_cons_of_mem hmem
      rw [hsplit hbefore] at h
      obtain ⟨rfl, rfl⟩ := Line.setting.inj h
      exact ⟨before, after, rfl, hbefore, rfl, rfl⟩
    · rw [ofChars.settingOf, if_neg hmem] at h
      cases h
  · rintro ⟨before, after, rfl, hbefore, rfl, rfl⟩
    exact hsplit hbefore

theorem Line.settingOf_ne_header {s name : List Char} : ofChars.settingOf s ≠ .header name := by
  unfold ofChars.settingOf
  split <;> nofun

/-- The reader takes a line for a header just if it is one. -/
theorem Line.ofChars_eq_header_iff {line name : List Char} :
    Line.ofChars line = .header name ↔ IsHeader line name := by
  unfold Line.ofChars IsHeader
  split
  · next h => simp [h]
  · next h => simp [h]
  · next h => simp [h]
  · next s h =>
    rw [h]
    split
    · next hlast =>
      obtain ⟨name', rfl⟩ := List.getLast?_eq_some_iff.1 hlast
      simp
    · next hlast =>
      refine iff_of_false settingOf_ne_header fun heq => hlast ?_
      rw [(List.cons.inj heq).2]
      exact List.getLast?_concat
  · next h _ _ hopen =>
    refine iff_of_false settingOf_ne_header fun heq => hopen _ heq

theorem Line.ofChars_of_comment {line s : List Char}
    (h : trim line = '#' :: s ∨ trim line = ';' :: s) : Line.ofChars line = .nothing := by
  rcases h with h | h <;>
  · rw [Line.ofChars, h]
    rfl

theorem Line.ofChars_eq_settingOf {line : List Char}
    (hcomment : ∀ s, trim line ≠ '#' :: s ∧ trim line ≠ ';' :: s)
    (hheader : ∀ name, ¬ IsHeader line name) :
    Line.ofChars line = ofChars.settingOf (trim line) := by
  have hopen (name : List Char) : Line.ofChars line ≠ .header name := fun h =>
    hheader name (Line.ofChars_eq_header_iff.1 h)
  unfold Line.ofChars at hopen ⊢
  split
  · next h =>
    rw [h]
    rfl
  · next s h => exact absurd h (hcomment s).1
  · next s h => exact absurd h (hcomment s).2
  · next s h =>
    rw [h] at hopen ⊢
    by_cases hlast : s.getLast? = some ']'
    · exact absurd (if_pos hlast) (hopen s.dropLast)
    · exact if_neg hlast
  · rfl

/-- The reader takes a line for an assignment just if it is one. -/
theorem Line.ofChars_eq_setting_iff {line key value : List Char} :
    Line.ofChars line = .setting key value ↔ IsSetting line key value := by
  constructor
  · intro h
    have hcomment (s : List Char) : trim line ≠ '#' :: s ∧ trim line ≠ ';' :: s := by
      refine not_or.1 fun hmark => ?_
      rw [ofChars_of_comment hmark] at h
      cases h
    have hheader (name : List Char) : ¬ IsHeader line name := by
      rw [← ofChars_eq_header_iff, h]
      nofun
    rw [ofChars_eq_settingOf hcomment hheader] at h
    exact ⟨hcomment, hheader, settingOf_eq_setting_iff.1 h⟩
  · intro h
    rw [ofChars_eq_settingOf h.not_comment h.not_header]
    exact settingOf_eq_setting_iff.2 h.split

/-! ## Names -/

/-- A header and a key name a field: the header is a name of a section that the field belongs to,
and the key is one of the keys of the field. -/
def Field.Named (f : Field) (header key : List Char) : Prop :=
  ∃ sec : Section, f ∈ sec.fields ∧ (∃ n ∈ sec.names, n.toList = header) ∧
    ∃ k ∈ f.keys, k.toList = key

/-- What is the only element of a list with a property is the first one with it. -/
theorem find?_eq_some_of_unique {β : Type} {p : β → Bool} {bs : List β} {b : β} (hb : b ∈ bs)
    (hp : p b = true) (hunique : ∀ a ∈ bs, p a = true → a = b) : bs.find? p = some b := by
  obtain ⟨a, ha⟩ := Option.isSome_iff_exists.1 (List.find?_isSome.2 ⟨b, hb, hp⟩)
  rw [ha, hunique a (List.mem_of_find?_eq_some ha) (List.find?_some ha)]

/-- No name belongs to two sections. -/
theorem Section.eq_of_name {sec sec' : Section} {n : String} (h : n ∈ sec.names)
    (h' : n ∈ sec'.names) : sec = sec' := by
  have hall : ∀ sec ∈ all, ∀ sec' ∈ all, ∀ n ∈ sec.names, n ∈ sec'.names → sec = sec' := by decide
  have hmem (sec : Section) : sec ∈ all := by cases sec <;> decide
  exact hall sec (hmem sec) sec' (hmem sec') n h h'

/-- No key belongs to two fields of a section. -/
theorem Field.eq_of_key {sec : Section} {f g : Field} {k : String} (hf : f ∈ sec.fields)
    (hg : g ∈ sec.fields) (hkf : k ∈ f.keys) (hkg : k ∈ g.keys) : f = g := by
  have hall : ∀ f ∈ sec.fields, ∀ g ∈ sec.fields, ∀ k ∈ f.keys, k ∈ g.keys → f = g := by
    cases sec <;> decide
  exact hall f hf g hg k hkf hkg

/-- The names of the sections and fields are looked up right. -/
theorem Field.named?_eq_some_iff {header key : List Char} {f : Field} :
    named? header key = some f ↔ f.Named header key := by
  have hamong {names : List String} {s : List Char} :
      (names.any fun n => n.toList = s) = true ↔ ∃ n ∈ names, n.toList = s := by simp
  constructor
  · intro h
    obtain ⟨sec, hsec, hf⟩ := Option.bind_eq_some_iff.1 h
    have hheader := List.find?_some hsec
    have hkey := List.find?_some hf
    exact ⟨sec, List.mem_of_find?_eq_some hf, hamong.1 hheader, hamong.1 hkey⟩
  · rintro ⟨sec, hf, ⟨n, hn, rfl⟩, ⟨k, hk, rfl⟩⟩
    have hsec : Section.all.find? (fun s => s.names.any fun m => m.toList = n.toList) =
        some sec := by
      refine find?_eq_some_of_unique (by cases sec <;> decide) (hamong.2 ⟨n, hn, rfl⟩) ?_
      intro sec' _ hnamed
      obtain ⟨m, hm, heq⟩ := hamong.1 hnamed
      exact Section.eq_of_name hm (String.toList_inj.1 heq ▸ hn)
    have hfield : sec.fields.find? (fun f => f.keys.any fun m => m.toList = k.toList) = some f := by
      refine find?_eq_some_of_unique hf (hamong.2 ⟨k, hk, rfl⟩) ?_
      intro g hg hnamed
      obtain ⟨m, hm, heq⟩ := hamong.1 hnamed
      exact Field.eq_of_key hg hf hm (String.toList_inj.1 heq ▸ hk)
    rw [named?, hsec]
    exact hfield

/-! ## Headers -/

/-- The last header among lines. -/
def LastHeader (ls : List (List Char)) (name : List Char) : Prop :=
  ∃ before line after, ls = before ++ line :: after ∧ IsHeader line name ∧
    ∀ l ∈ after, ∀ other, ¬ IsHeader l other

/-- The header that the reader arrives at, starting under another one. -/
def headerAfter (header : List Char) : List (List Char) → List Char
  | [] => header
  | l :: ls => match Line.ofChars l with
    | .header name => headerAfter name ls
    | _ => headerAfter header ls

variable {ls more : List (List Char)} {header : List Char}

theorem headerAfter_append (header : List Char) (ls more : List (List Char)) :
    headerAfter header (ls ++ more) = headerAfter (headerAfter header ls) more := by
  induction ls generalizing header with
  | nil => rfl
  | cons l ls ih =>
    rw [List.cons_append, headerAfter, headerAfter]
    cases Line.ofChars l <;> exact ih _

theorem assignments_append (header : List Char) (ls more : List (List Char)) :
    assignments header (ls ++ more) =
      assignments header ls ++ assignments (headerAfter header ls) more := by
  induction ls generalizing header with
  | nil => rfl
  | cons l ls ih =>
    rw [List.cons_append, assignments, assignments, headerAfter]
    cases Line.ofChars l with
    | setting key value => exact congrArg _ (ih header)
    | header name => exact ih name
    | nothing => exact ih header

theorem headerAfter_cons_of_not_header {l : List Char} (h : ∀ name, ¬ IsHeader l name) :
    headerAfter header (l :: ls) = headerAfter header ls := by
  rw [headerAfter]
  cases hl : Line.ofChars l with
  | header name => exact absurd (Line.ofChars_eq_header_iff.1 hl) (h name)
  | _ => rfl

theorem headerAfter_cons_of_header {l name : List Char} (h : IsHeader l name) :
    headerAfter header (l :: ls) = headerAfter name ls := by
  rw [headerAfter, Line.ofChars_eq_header_iff.2 h]

theorem headerAfter_of_no_header (h : ∀ l ∈ ls, ∀ name, ¬ IsHeader l name) :
    headerAfter header ls = header := by
  induction ls with
  | nil => rfl
  | cons l ls ih =>
    rw [headerAfter_cons_of_not_header (h l List.mem_cons_self)]
    exact ih fun l' hl' => h l' (List.mem_cons_of_mem l hl')

theorem LastHeader.headerAfter_eq {name : List Char} (h : LastHeader ls name) :
    headerAfter header ls = name := by
  obtain ⟨before, line, after, rfl, hline, hafter⟩ := h
  rw [headerAfter_append, headerAfter_cons_of_header hline, headerAfter_of_no_header hafter]

/-- If there is a header at all, the reader arrives at the last one. -/
theorem lastHeader_headerAfter (header : List Char) (ls : List (List Char)) :
    (∀ l ∈ ls, ∀ name, ¬ IsHeader l name) ∨ LastHeader ls (headerAfter header ls) := by
  induction ls generalizing header with
  | nil => exact .inl nofun
  | cons l ls ih =>
    have hcons {name : List Char} (h : LastHeader ls name) : LastHeader (l :: ls) name := by
      obtain ⟨before, line, after, rfl, hline, hafter⟩ := h
      exact ⟨l :: before, line, after, rfl, hline, hafter⟩
    by_cases hl : ∃ name, IsHeader l name
    · obtain ⟨name, hname⟩ := hl
      rw [headerAfter_cons_of_header hname]
      rcases ih name with hnone | hlast
      · rw [headerAfter_of_no_header hnone]
        exact .inr ⟨[], l, ls, rfl, hname, hnone⟩
      · exact .inr (hcons hlast)
    · rw [headerAfter_cons_of_not_header (not_exists.1 hl)]
      refine (ih header).imp (fun hnone l' hl' => ?_) hcons
      rcases List.mem_cons.1 hl' with rfl | htail
      · exact not_exists.1 hl
      · exact hnone l' htail

theorem Field.not_named_nil (f : Field) (key : List Char) : ¬ f.Named [] key := by
  rintro ⟨sec, -, ⟨n, hn, heq⟩, -⟩
  have hnames : ∀ n ∈ sec.names, n.toList ≠ [] := by cases sec <;> decide
  exact hnames n hn heq

/-- A reader that starts under no header is under the last one wherever a field is named. -/
theorem named_headerAfter_iff {f : Field} {key : List Char} :
    f.Named (headerAfter [] ls) key ↔ ∃ name, LastHeader ls name ∧ f.Named name key := by
  constructor
  · intro h
    rcases lastHeader_headerAfter [] ls with hnone | hlast
    · rw [headerAfter_of_no_header hnone] at h
      exact absurd h (f.not_named_nil key)
    · exact ⟨_, hlast, h⟩
  · rintro ⟨name, hlast, hnamed⟩
    rwa [hlast.headerAfter_eq]

/-! ## Values given to a field -/

/-- The `i`-th line gives a value to a field: it is an assignment, the last header above it and its
key name the field, and its text is read as the value. -/
def Gives (ls : List (List Char)) (i : Nat) (f : Field) (v : f.kind.Value) : Prop :=
  ∃ line name key value, ls[i]? = some line ∧ IsSetting line key value ∧
    LastHeader (ls.take i) name ∧ f.Named name key ∧ f.kind.read? value = some v

/-- The value that a line under a header gives to a field. -/
def given? (header line : List Char) (f : Field) : Option f.kind.Value :=
  match Line.ofChars line with
  | .setting key value =>
    if Field.named? header key = some f then f.kind.read? value else none
  | _ => none

/-- The value that the `i`-th line gives to a field. -/
def givenBy? (ls : List (List Char)) (i : Nat) (f : Field) : Option f.kind.Value :=
  ls[i]?.bind fun line => given? (headerAfter [] (ls.take i)) line f

theorem gives_iff {i : Nat} {f : Field} {v : f.kind.Value} :
    Gives ls i f v ↔ givenBy? ls i f = some v := by
  rw [givenBy?, Option.bind_eq_some_iff]
  constructor
  · rintro ⟨line, name, key, value, hline, hsetting, hlast, hnamed, hread⟩
    refine ⟨line, hline, ?_⟩
    have hfield := Field.named?_eq_some_iff.2 (named_headerAfter_iff.2 ⟨name, hlast, hnamed⟩)
    rw [given?, Line.ofChars_eq_setting_iff.2 hsetting]
    exact (if_pos hfield).trans hread
  · rintro ⟨line, hline, hgiven⟩
    unfold given? at hgiven
    split at hgiven
    · next key value hsetting =>
      obtain ⟨hfield, hread⟩ := Option.ite_none_right_eq_some.1 hgiven
      obtain ⟨name, hlast, hnamed⟩ :=
        named_headerAfter_iff.1 (Field.named?_eq_some_iff.1 hfield)
      exact ⟨line, name, key, value, hline, Line.ofChars_eq_setting_iff.1 hsetting, hlast, hnamed,
        hread⟩
    · cases hgiven

/-- The configuration that lines describe. -/
def ofLines (ls : List (List Char)) : Config := (assignments [] ls).foldl assign {}

/-- One more line gives a field its value, or leaves it as it is. -/
theorem get_ofLines_concat (ls : List (List Char)) (line : List Char) (f : Field) :
    f.get (ofLines (ls ++ [line])) =
      (given? (headerAfter [] ls) line f).getD (f.get (ofLines ls)) := by
  rw [ofLines, assignments_append, List.foldl_append, ← ofLines, given?, assignments]
  cases Line.ofChars line with
  | header name => rfl
  | nothing => rfl
  | setting key value =>
    change f.get (assign (ofLines ls) ⟨headerAfter [] ls, key, value⟩) = _
    unfold assign
    dsimp only
    cases hg : Field.named? (headerAfter [] ls) key with
    | none => simp
    | some g =>
      by_cases hfg : f = g
      · subst g
        cases hread : f.kind.read? value <;> simp [hread]
      · have hne : ¬ some g = some f := fun heq => hfg (Option.some.inj heq).symm
        dsimp only
        rw [if_neg hne]
        cases g.kind.read? value with
        | none => rfl
        | some v => exact Field.get_set_of_ne hfg v (ofLines ls)

theorem Gives.lt_length {i : Nat} {f : Field} {v : f.kind.Value} (h : Gives ls i f v) :
    i < ls.length := by
  obtain ⟨line, -, -, -, hline, -⟩ := h
  exact (List.getElem?_eq_some_iff.1 hline).1

/-- What a line gives depends on the lines above it only. -/
theorem gives_append_iff {i : Nat} (hi : i < ls.length) {f : Field} {v : f.kind.Value} :
    Gives (ls ++ more) i f v ↔ Gives ls i f v := by
  rw [gives_iff, gives_iff, givenBy?, givenBy?, List.getElem?_append_left hi,
    List.take_append_of_le_length hi.le]

theorem gives_length_iff {line : List Char} {f : Field} {v : f.kind.Value} :
    Gives (ls ++ line :: more) ls.length f v ↔ given? (headerAfter [] ls) line f = some v := by
  rw [gives_iff, givenBy?, List.take_left]
  simp

theorem Gives.value_unique {i : Nat} {f : Field} {v w : f.kind.Value} (hv : Gives ls i f v)
    (hw : Gives ls i f w) : v = w := by
  exact Option.some.inj ((gives_iff.1 hv).symm.trans (gives_iff.1 hw))

/-- The `i`-th line gives a value to a field, and no later one does. -/
def GivesLast (ls : List (List Char)) (i : Nat) (f : Field) (v : f.kind.Value) : Prop :=
  Gives ls i f v ∧ ∀ j w, i < j → ¬ Gives ls j f w

theorem GivesLast.unique {i j : Nat} {f : Field} {v w : f.kind.Value} (hv : GivesLast ls i f v)
    (hw : GivesLast ls j f w) : v = w := by
  obtain hlt | rfl | hgt := Nat.lt_trichotomy i j
  · exact absurd hw.1 (hv.2 j w hlt)
  · exact hv.1.value_unique hw.1
  · exact absurd hv.1 (hw.2 i v hgt)

/-- Either no line gives a field a value and it has its default, or it has the value that the last
one gives. -/
theorem get_ofLines_cases (ls : List (List Char)) (f : Field) :
    (∀ i v, ¬ Gives ls i f v) ∧ f.get (ofLines ls) = f.get {} ∨
      ∃ i, GivesLast ls i f (f.get (ofLines ls)) := by
  induction ls using List.reverseRecOn with
  | nil => exact .inl ⟨fun i v h => absurd h.lt_length (Nat.not_lt_zero i), rfl⟩
  | append_singleton ls line ih =>
    have hlength {j : Nat} {w : f.kind.Value} (h : Gives (ls ++ [line]) j f w) :
        j < ls.length ∨ j = ls.length := by
      have hlt := h.lt_length
      rw [List.length_append, List.length_singleton] at hlt
      omega
    rw [get_ofLines_concat]
    cases hgiven : given? (headerAfter [] ls) line f with
    | some v =>
      refine .inr ⟨ls.length, gives_length_iff.2 hgiven, fun j w hj h => ?_⟩
      have := hlength h
      omega
    | none =>
      -- the new line gives nothing, so the values given are those of the lines before it
      have hold {j : Nat} {w : f.kind.Value} (h : Gives (ls ++ [line]) j f w) : Gives ls j f w := by
        rcases hlength h with hlt | rfl
        · exact (gives_append_iff hlt).1 h
        · rw [gives_length_iff, hgiven] at h
          cases h
      rcases ih with ⟨hnone, hdefault⟩ | ⟨i, hgives, hlast⟩
      · exact .inl ⟨fun i v h => hnone i v (hold h), hdefault⟩
      · exact .inr ⟨i, (gives_append_iff hgives.lt_length).2 hgives,
          fun j w hj h => hlast j w hj (hold h)⟩

theorem get_ofLines_of_last {f : Field} {i : Nat} {v : f.kind.Value} (h : GivesLast ls i f v) :
    f.get (ofLines ls) = v := by
  rcases get_ofLines_cases ls f with ⟨hnone, -⟩ | ⟨j, hlast⟩
  · exact absurd h.1 (hnone i v)
  · exact hlast.unique h

theorem get_ofLines_of_none {f : Field} (h : ∀ i v, ¬ Gives ls i f v) :
    f.get (ofLines ls) = f.get {} := by
  rcases get_ofLines_cases ls f with ⟨-, hdefault⟩ | ⟨j, hlast⟩
  · exact hdefault
  · exact absurd hlast.1 (h j _)

/-- A line that is no header and gives a field nothing can be left out. -/
theorem get_ofLines_insert {line : List Char} {f : Field} (hheader : ∀ name, ¬ IsHeader line name)
    (hnone : ∀ v, ¬ Gives (ls ++ line :: more) ls.length f v) :
    f.get (ofLines (ls ++ line :: more)) = f.get (ofLines (ls ++ more)) := by
  have hgiven : given? (headerAfter [] ls) line f = none :=
    Option.eq_none_iff_forall_ne_some.2 fun w hw => hnone w (gives_length_iff.2 hw)
  clear hnone
  induction more using List.reverseRecOn with
  | nil => rw [get_ofLines_concat, hgiven, List.append_nil, Option.getD_none]
  | append_singleton more last ih =>
    have hunder : headerAfter [] (ls ++ line :: more) = headerAfter [] (ls ++ more) := by
      rw [headerAfter_append, headerAfter_append, headerAfter_cons_of_not_header hheader]
    rw [← List.cons_append, ← List.append_assoc, ← List.append_assoc, get_ofLines_concat,
      get_ofLines_concat, hunder, ih]

/-- Lines can be moved as long as they give the same values to the same fields, and those for one
field stay in order. -/
theorem ofLines_move {ls' : List (List Char)} (move : Equiv.Perm Nat)
    (hgives : ∀ i f v, Gives ls i f v ↔ Gives ls' (move i) f v)
    (horder : ∀ i j f v w, Gives ls i f v → Gives ls j f w → i < j → move i < move j) :
    ofLines ls = ofLines ls' := by
  have hback {j : Nat} {f : Field} {w : f.kind.Value} (h : Gives ls' j f w) :
      Gives ls (move.symm j) f w := by
    rw [hgives, Equiv.apply_symm_apply]
    exact h
  apply ext_get
  intro f
  rcases get_ofLines_cases ls f with ⟨hnone, hdefault⟩ | ⟨i, hi, hlast⟩
  · rw [hdefault, get_ofLines_of_none fun j w h => hnone _ w (hback h)]
  · refine (get_ofLines_of_last ⟨(hgives i f _).1 hi, fun j w hj h => ?_⟩).symm
    -- a later line for the field would have been later before the move
    have hsource := hback h
    obtain hlt | heq | hgt := Nat.lt_trichotomy (move.symm j) i
    · have := horder _ i f _ _ hsource hi hlt
      rw [Equiv.apply_symm_apply] at this
      omega
    · rw [← heq, Equiv.apply_symm_apply] at hj
      omega
    · exact hlast _ w hgt hsource

/-- Whatever the text, every field has the value that the last line with a value for it gives, and
its default without such a line; a switch takes every text for a value. A line that is no header and
gives a field nothing does not matter to it. Lines can be moved, as long as they give the same
values to the same fields and those for one field stay in order. -/
theorem last_assignment_wins :
    (∀ (text : String) (f : Field),
      (∀ i v, Gives (lines text.toList) i f v →
        (∀ j w, i < j → ¬ Gives (lines text.toList) j f w) → f.get (parse text) = v) ∧
      ((∀ i v, ¬ Gives (lines text.toList) i f v) → f.get (parse text) = f.get {}) ∧
      (f = .splashEnabled ∨ f = .clockEnabled →
        ∀ value, (f.kind.read? value).isSome = true)) ∧
    (∀ (text shorter : String) (f : Field) (above below : List (List Char)) (line : List Char),
      lines text.toList = above ++ line :: below → lines shorter.toList = above ++ below →
      (∀ name, ¬ IsHeader line name) → (∀ v, ¬ Gives (lines text.toList) above.length f v) →
      f.get (parse text) = f.get (parse shorter)) ∧
    ∀ (text text' : String) (move : Equiv.Perm Nat),
      (∀ i f v, Gives (lines text.toList) i f v ↔ Gives (lines text'.toList) (move i) f v) →
      (∀ i j f v w, Gives (lines text.toList) i f v → Gives (lines text.toList) j f w → i < j →
        move i < move j) →
      parse text = parse text' := by
  refine ⟨fun text f => ⟨fun i v hgives hlast => ?_, ?_, ?_⟩, ?_, ?_⟩
  · exact get_ofLines_of_last ⟨hgives, hlast⟩
  · exact get_ofLines_of_none
  · rintro (rfl | rfl) value <;> rfl
  · intro text shorter f above below line htext hshorter hheader hnone
    rw [htext] at hnone
    have hinsert := get_ofLines_insert hheader hnone
    rwa [← htext, ← hshorter] at hinsert
  · intro text text' move hgives horder
    exact ofLines_move move hgives horder

/-- A field with a number out of range after which only a comment, a malformed number and lines of
other sections come; and two lines for different fields that change places. -/
theorem last_assignment_wins_among_other_lines :
    let text := "[display]\nwidth = 5\n[display] \n width=99999 \n# width = 6\nwidth = -1\n" ++
      "[window]\nwidth = 9\n[nowhere]\nwidth = 3\n"
    let clock := "[clock]\nx = 2\nshow = =\n"
    let clock' := "[clock]\nshow = =\nx = 2\n"
    Gives (lines text.toList) 3 .displayWidth 8192 ∧ (parse text).display.width = 8192 ∧
      (parse text).display.height = 600 ∧ parse clock = parse clock' ∧
      (parse clock).clock.enabled = false := by
  intro text clock clock'
  obtain ⟨hvalues, -, hmove⟩ := last_assignment_wins
  have hgives : Gives (lines text.toList) 3 .displayWidth 8192 := gives_iff.2 (by decide +kernel)
  have hlast (j : Nat) (w : Nat) (hj : 3 < j) :
      ¬ Gives (lines text.toList) j .displayWidth w := by
    intro h
    have hnone : ∀ j < (lines text.toList).length, 3 < j →
        givenBy? (lines text.toList) j .displayWidth = none := by decide +kernel
    exact Option.ne_none_iff_exists'.2 ⟨w, gives_iff.1 h⟩ (hnone j h.lt_length hj)
  have hheight (i : Nat) (w : Nat) : ¬ Gives (lines text.toList) i .displayHeight w := by
    intro h
    have hnone : ∀ i < (lines text.toList).length,
        givenBy? (lines text.toList) i .displayHeight = none := by decide +kernel
    exact Option.ne_none_iff_exists'.2 ⟨w, gives_iff.1 h⟩ (hnone i h.lt_length)
  refine ⟨hgives, (hvalues text .displayWidth).1 3 8192 hgives hlast,
    (hvalues text .displayHeight).2.1 hheight, hmove clock clock' (Equiv.swap 1 2) ?_ ?_,
    by decide +kernel⟩
  · intro i f v
    -- under the same header the same line gives the same values
    have hsame : ∀ i < 4, (lines clock.toList)[i]? = (lines clock'.toList)[Equiv.swap 1 2 i]? ∧
        headerAfter [] ((lines clock.toList).take i) =
          headerAfter [] ((lines clock'.toList).take (Equiv.swap 1 2 i)) := by decide +kernel
    have hlength : (lines clock.toList).length = 4 ∧ (lines clock'.toList).length = 4 := by
      decide +kernel
    by_cases hi : i < 4
    · rw [gives_iff, gives_iff, givenBy?, givenBy?, (hsame i hi).1, (hsame i hi).2]
    · rw [Equiv.swap_apply_of_ne_of_ne (by omega) (by omega)]
      refine iff_of_false (fun h => hi ?_) fun h => hi ?_
      · exact hlength.1 ▸ h.lt_length
      · exact hlength.2 ▸ h.lt_length
  · intro i j f v w hi hj hij
    have hlength : (lines clock.toList).length = 4 := by decide +kernel
    have horder : ∀ i < 4, ∀ j < 4, i < j → Equiv.swap 1 2 i < Equiv.swap 1 2 j ∨
        ∀ f ∈ Section.all.flatMap Section.fields, givenBy? (lines clock.toList) i f = none ∨
          givenBy? (lines clock.toList) j f = none := by
      have hisNone : ∀ i < 4, ∀ j < 4, i < j → Equiv.swap 1 2 i < Equiv.swap 1 2 j ∨
        ∀ f ∈ Section.all.flatMap Section.fields, (givenBy? (lines clock.toList) i f).isNone ∨
          (givenBy? (lines clock.toList) j f).isNone := by decide +kernel
      simpa only [Option.isNone_iff_eq_none] using hisNone
    have hi' := Option.ne_none_iff_exists'.2 ⟨v, gives_iff.1 hi⟩
    have hj' := Option.ne_none_iff_exists'.2 ⟨w, gives_iff.1 hj⟩
    refine (horder i (hlength ▸ hi.lt_length) j (hlength ▸ hj.lt_length) hij).resolve_right ?_
    exact fun hclash => (hclash f (Section.mem_fields f)).elim hi' hj'

end TickDesktop.Config
