import TickDesktop.Proofs.Requests

/-!
# Calls into windows

What a journal says about one window is the list of the calls into it. An operation of a workspace
that registers nothing settles its windows: it calls open windows only, destroys none that stays,
and the calls into one that goes end with the one that destroys it. Operations that settle can be
put one after the other, so every sequence of requests settles.
-/
namespace TickDesktop

section Calls

variable {α : Type}

/-- The call destroys the window. -/
def WindowCall.isDestroy : WindowCall → Bool
  | destroy _ => true
  | _ => false

/-- The call of an entry, if it goes to the window with a number. -/
def Entry.callTo? (id : WindowId) : Entry α → Option WindowCall
  | call (.window i _ c) => if i = id then some c else none
  | _ => none

/-- The calls to the window with a number, oldest first. -/
def callsTo (id : WindowId) (j : List (Entry α)) : List WindowCall := j.filterMap (·.callTo? id)

@[simp] theorem callsTo_nil (id : WindowId) : callsTo id ([] : List (Entry α)) = [] := rfl

@[simp] theorem callsTo_append (id : WindowId) (j k : List (Entry α)) :
    callsTo id (j ++ k) = callsTo id j ++ callsTo id k := List.filterMap_append ..

theorem callsTo_cons (id : WindowId) (e : Entry α) (j : List (Entry α)) :
    callsTo id (e :: j) = (e.callTo? id).toList ++ callsTo id j := by
  rw [callsTo, List.filterMap_cons]
  cases e.callTo? id <;> rfl

theorem mem_callsTo {id : WindowId} {j : List (Entry α)} {c : WindowCall} :
    c ∈ callsTo id j ↔ ∃ e ∈ j, e.callTo? id = some c := List.mem_filterMap

@[simp] theorem callTo?_callEntry (w : Window α) (c : WindowCall) (id : WindowId) :
    (w.callEntry c).callTo? id = if w.id = id then some c else none := rfl

/-- A journal without calls into windows. -/
def Silent (j : List (Entry α)) : Prop := ∀ e ∈ j, ∀ id, e.callTo? id = none

theorem Silent.callsTo_eq {j : List (Entry α)} (h : Silent j) (id : WindowId) :
    callsTo id j = [] := by
  refine List.eq_nil_iff_forall_not_mem.2 fun c hc => ?_
  obtain ⟨e, he, hcall⟩ := mem_callsTo.1 hc
  rw [h e he id] at hcall
  cases hcall

theorem silent_nil : Silent ([] : List (Entry α)) := nofun

theorem Silent.append {j k : List (Entry α)} (hj : Silent j) (hk : Silent k) : Silent (j ++ k) :=
  fun e he => (List.mem_append.1 he).elim (hj e) (hk e)

theorem silent_singleton {e : Entry α} (h : ∀ id, e.callTo? id = none) : Silent [e] := by
  intro e' he
  rw [List.mem_singleton.1 he]
  exact h

theorem silent_record (r : Log.Record) : Silent [(.record r : Entry α)] :=
  silent_singleton fun _ => rfl

/-- A journal with calls into the windows on a list only, none of which destroys. -/
def Visits (ids : List WindowId) (j : List (Entry α)) : Prop :=
  ∀ e ∈ j, ∀ id c, e.callTo? id = some c → id ∈ ids ∧ c.isDestroy = false

theorem Silent.visits {j : List (Entry α)} (h : Silent j) (ids : List WindowId) : Visits ids j := by
  intro e he id c hcall
  rw [h e he id] at hcall
  cases hcall

theorem Visits.append {ids : List WindowId} {j k : List (Entry α)} (hj : Visits ids j)
    (hk : Visits ids k) : Visits ids (j ++ k) :=
  fun e he => (List.mem_append.1 he).elim (hj e) (hk e)

theorem visits_callEntry {ids : List WindowId} {w : Window α} (hw : w.id ∈ ids) {c : WindowCall}
    (hc : c.isDestroy = false) : Visits ids [w.callEntry c] := by
  intro e he id c' hcall
  rw [List.mem_singleton.1 he, callTo?_callEntry] at hcall
  obtain ⟨rfl, ⟨⟩⟩ := Option.ite_none_right_eq_some.1 hcall
  exact ⟨hw, hc⟩

/-- Calls that end with the one that destroys. -/
def EndInDestroy (cs : List WindowCall) : Prop :=
  ∃ before owner, cs = before ++ [.destroy owner] ∧ ∀ c ∈ before, c.isDestroy = false

theorem EndInDestroy.prepend {cs ds : List WindowCall} (h : EndInDestroy ds)
    (hcs : ∀ c ∈ cs, c.isDestroy = false) : EndInDestroy (cs ++ ds) := by
  obtain ⟨before, owner, rfl, hbefore⟩ := h
  refine ⟨cs ++ before, owner, (List.append_assoc ..).symm, fun c hc => ?_⟩
  rcases List.mem_append.1 hc with hfirst | hthen
  · exact hcs c hfirst
  · exact hbefore c hthen

theorem endInDestroy_singleton (owner : Option String) : EndInDestroy [.destroy owner] :=
  ⟨[], owner, rfl, nofun⟩

/-- How many calls destroy. -/
def destroyCount (cs : List WindowCall) : Nat := cs.countP (·.isDestroy)

theorem destroyCount_eq_zero {cs : List WindowCall} :
    destroyCount cs = 0 ↔ ∀ c ∈ cs, c.isDestroy = false := by
  simp [destroyCount, List.countP_eq_zero]

theorem EndInDestroy.destroyCount_eq_one {cs : List WindowCall} (h : EndInDestroy cs) :
    destroyCount cs = 1 := by
  obtain ⟨before, owner, rfl, hbefore⟩ := h
  have hzero : before.countP (·.isDestroy) = 0 := destroyCount_eq_zero.2 hbefore
  rw [destroyCount, List.countP_append, hzero]
  rfl

/-- Nothing comes after the call that destroys. -/
theorem EndInDestroy.eq_nil {cs : List WindowCall} (h : EndInDestroy cs)
    {before after : List WindowCall} {owner : Option String}
    (hcs : cs = before ++ .destroy owner :: after) : after = [] := by
  obtain ⟨pre, last, rfl, hpre⟩ := h
  rcases List.eq_nil_or_concat after with hnil | ⟨mid, c, rfl⟩
  · exact hnil
  · -- the call in the middle is not the last one, so it would be one that does not destroy
    have hsplit : pre ++ [.destroy last] = (before ++ .destroy owner :: mid) ++ [c] := by
      rw [hcs]
      simp
    obtain ⟨hsame, -⟩ := List.append_inj' hsplit rfl
    have hdestroy := hpre (.destroy owner) (hsame ▸ List.mem_append_right _ List.mem_cons_self)
    cases hdestroy

end Calls

namespace Compositor

variable {α : Type}

theorem silent_warnHeadless (c : Compositor) : Silent (c.warnHeadless : Traced α _).journal := by
  unfold warnHeadless
  split
  · exact silent_nil
  · exact silent_record _

theorem silent_present (c : Compositor) (ws : List (Window α)) : Silent (c.present ws).journal := by
  obtain ⟨backing, framebuffer, dirty, warned, stats⟩ := c
  cases framebuffer with
  | none =>
    have hjournal : ((Compositor.mk backing none dirty warned stats).present ws).journal =
        ((Compositor.mk backing none dirty warned stats).warnHeadless : Traced α _).journal :=
      List.append_nil _
    rw [hjournal]
    exact silent_warnHeadless _
  | some fb => exact silent_nil

variable [WindowClient α]

theorem journal_renderOnto (ws : List (Window α)) (fb : Framebuffer) :
    (renderOnto fb ws).journal =
      ws.flatMap fun w => if w.isVisible then [w.callEntry .render] else [] := by
  induction ws generalizing fb with
  | nil => rfl
  | cons w ws ih =>
    rw [renderOnto, List.flatMap_cons]
    by_cases hv : w.isVisible
    · rw [if_pos hv, if_pos hv, ← ih (w.rendered.blendOnto fb)]
      simp only [Traced.journal_bind, Traced.journal_pure, List.append_nil]
      rfl
    · rw [if_neg hv, if_neg hv, ← ih fb]
      exact List.append_nil _

/-- Composing calls the visible windows to render, or calls none. -/
theorem journal_compose (c : Compositor) (ws : List (Window α)) :
    (c.compose ws).journal =
        (ws.flatMap fun w => if w.isVisible then [w.callEntry .render] else []) ∨
      Silent (c.compose ws).journal := by
  obtain ⟨backing, framebuffer, dirty, warned, stats⟩ := c
  cases dirty with
  | false => exact .inr silent_nil
  | true =>
    cases framebuffer with
    | none =>
      have hjournal : ((Compositor.mk backing none true warned stats).compose ws).journal =
          ((Compositor.mk backing none true warned stats).warnHeadless : Traced α _).journal :=
        List.append_nil _
      rw [hjournal]
      exact .inr (silent_warnHeadless _)
    | some fb =>
      have hjournal : ((Compositor.mk backing (some fb) true warned stats).compose ws).journal =
          (renderOnto (clear backing fb) ws).journal := List.append_nil _
      rw [hjournal]
      exact .inl (journal_renderOnto ws (clear backing fb))

end Compositor

namespace Workspace

variable {α : Type}

/-- Whatever lies between two states of a workspace calls open windows only, destroys none that
stays, and the calls into one that goes end with the one that destroys it. -/
structure Settles (m m' : Workspace α) (j : List (Entry α)) : Prop where
  sublist : m'.ids.Sublist m.ids
  foreign : ∀ id, id ∉ m.ids → callsTo id j = []
  kept : ∀ id ∈ m'.ids, ∀ c ∈ callsTo id j, c.isDestroy = false
  gone : ∀ id ∈ m.ids, id ∉ m'.ids → EndInDestroy (callsTo id j)

namespace Settles

variable {m m' m'' : Workspace α} {j j' : List (Entry α)}

theorem of_visits (hids : m'.ids = m.ids) (hj : Visits m.ids j) : m.Settles m' j where
  sublist := hids ▸ .refl _
  foreign := by
    intro id hid
    refine List.eq_nil_iff_forall_not_mem.2 fun c hc => ?_
    obtain ⟨e, he, hcall⟩ := mem_callsTo.1 hc
    exact hid (hj e he id c hcall).1
  kept := by
    intro id _ c hc
    obtain ⟨e, he, hcall⟩ := mem_callsTo.1 hc
    exact (hj e he id c hcall).2
  gone := fun id hid hgone => absurd hid (hids ▸ hgone)

theorem of_silent (hids : m'.ids = m.ids) (hj : Silent j) : m.Settles m' j :=
  of_visits hids (hj.visits m.ids)

theorem trans (h : m.Settles m' j) (h' : m'.Settles m'' j') : m.Settles m'' (j ++ j') where
  sublist := h'.sublist.trans h.sublist
  foreign := by
    intro id hid
    rw [callsTo_append, h.foreign id hid, h'.foreign id fun hmem => hid (h.sublist.subset hmem)]
    rfl
  kept := by
    intro id hid c hc
    rw [callsTo_append] at hc
    rcases List.mem_append.1 hc with hfirst | hthen
    · exact h.kept id (h'.sublist.subset hid) c hfirst
    · exact h'.kept id hid c hthen
  gone := by
    intro id hid hgone
    rw [callsTo_append]
    -- it goes in just one of the two, and the other one does not destroy it
    by_cases hmid : id ∈ m'.ids
    · exact (h'.gone id hmid hgone).prepend (h.kept id hmid)
    · rw [h'.foreign id hmid, List.append_nil]
      exact h.gone id hid hmid

end Settles

/-- Destroying a window calls it, and no other one, once. -/
theorem callsTo_destroy (w : Window α) (id : WindowId) :
    callsTo id w.destroy.journal = if w.id = id then [.destroy w.pane.owner] else [] := by
  have hcalls : callsTo id w.destroy.journal =
      ((w.callEntry (.destroy w.pane.owner)).callTo? id).toList := by
    obtain ⟨i, archetype, pane, behavior⟩ := w
    cases behavior <;> simp [Window.destroy, callsTo_cons, Entry.callTo?]
  rw [hcalls, callTo?_callEntry]
  split <;> rfl

/-- A window that is registered is not called. -/
theorem callsTo_add_of_room {m : Workspace α} (h : m.ids.length < m.registry.capacity)
    (w : Window α) (caller : String) (id : WindowId) :
    callsTo id (m.add w caller).journal = [] := by
  have hroom : ¬ m.registry.capacity ≤ m.registry.windows.length := by
    simpa [ids, Registry.ids] using h
  simp [add, Registry.add, Registry.isFull, Registry.size, hroom, callsTo_cons, Entry.callTo?]

/-- A window that is turned away is destroyed. -/
theorem callsTo_add_of_full {m : Workspace α} (h : m.registry.capacity ≤ m.ids.length)
    (w : Window α) (caller : String) (id : WindowId) : callsTo id (m.add w caller).journal =
      if w.id = id then [.destroy (some caller)] else [] := by
  have hfull : m.registry.capacity ≤ m.registry.windows.length := by
    simpa [ids, Registry.ids] using h
  have hdestroy := callsTo_destroy { w with pane.owner := some caller } id
  simp [add, Registry.add, Registry.isFull, Registry.size, hfull, callsTo_cons, Entry.callTo?,
    hdestroy]

/-- Removing a number destroys the window that it finds. -/
theorem callsTo_remove (m : Workspace α) (id i : WindowId) : callsTo i (m.remove id).journal =
    if id = i then (m.registry.get? id).toList.map (.destroy ·.pane.owner) else [] := by
  cases hget : m.registry.get? id with
  | none =>
    have hjournal : (m.remove id).journal =
        [.record ⟨.warn, target, "remove: " ++ (Fault.windowNotFound id).message⟩] := by
      simp only [remove, Registry.remove, hget]
      rfl
    rw [hjournal, (silent_record _).callsTo_eq]
    split <;> rfl
  | some w =>
    have hjournal : (m.remove id).journal = w.destroy.journal ++ [.record ⟨.debug, target,
        "removed window " ++ id.text ++ openText (m.without id)⟩] := by
      simp only [remove, Registry.remove, hget]
      rfl
    have hid : w.id = id := Registry.id_of_get? hget
    rw [hjournal, callsTo_append, callsTo_destroy, (silent_record _).callsTo_eq, List.append_nil,
      hid]
    rfl

theorem settles_remove (m : Workspace α) (h : m.ids.Nodup) (id : WindowId) :
    m.Settles (m.remove id).value.2 (m.remove id).journal := by
  have hids : (m.remove id).value.2.ids = m.ids.erase id := m.ids_remove id
  refine ⟨hids ▸ List.erase_sublist, fun i hi => ?_, fun i hi c hc => ?_, fun i hi hgone => ?_⟩
  · rw [callsTo_remove]
    split
    · next heq =>
      rw [heq, Registry.get?_eq_none_iff.2 hi]
      rfl
    · rfl
  · have hne : id ≠ i := fun heq => by
      rw [hids, ← heq] at hi
      exact h.not_mem_erase hi
    rw [callsTo_remove, if_neg hne] at hc
    cases hc
  · have heq : id = i := Decidable.of_not_not fun hne =>
      hgone (hids ▸ (List.mem_erase_of_ne (Ne.symm hne)).2 hi)
    subst heq
    have hfound : m.registry.get? id ≠ none := fun hnone => Registry.get?_eq_none_iff.1 hnone hi
    obtain ⟨w, hw⟩ := Option.ne_none_iff_exists'.1 hfound
    rw [callsTo_remove, if_pos rfl, hw]
    exact endInDestroy_singleton w.pane.owner

/-- The journal of a pass over the open windows that destroys none. -/
theorem visits_pass (m : Workspace α) {f : Window α → List (Entry α)}
    (hf : ∀ w, f w = [] ∨ ∃ c : WindowCall, c.isDestroy = false ∧ f w = [w.callEntry c]) :
    Visits m.ids (m.registry.windows.flatMap f) := by
  intro e he
  obtain ⟨w, hw, hmem⟩ := List.mem_flatMap.1 he
  rcases hf w with hnone | ⟨c, hc, hcall⟩
  · rw [hnone] at hmem
    cases hmem
  · rw [hcall] at hmem
    exact visits_callEntry (List.mem_map.2 ⟨w, hw, rfl⟩) hc e hmem

/-- The journal of a pass over windows that calls the visible ones. -/
theorem visits_render (m : Workspace α) : Visits m.ids (m.registry.windows.flatMap fun w =>
    if w.isVisible then [w.callEntry .render] else []) := by
  refine m.visits_pass fun w => ?_
  split
  · exact .inr ⟨.render, rfl, rfl⟩
  · exact .inl rfl

/-- Emptying a workspace calls each window with the call that destroys it. -/
theorem callsTo_closeAll (m : Workspace α) (id : WindowId) : callsTo id m.closeAll.journal =
    (m.registry.windows.reverse.filter (·.id = id)).map (.destroy ·.pane.owner) := by
  have hdestroyed : ∀ ws : List (Window α), callsTo id (ws.flatMap fun w => w.destroy.journal) =
      (ws.filter (·.id = id)).map (.destroy ·.pane.owner) := by
    intro ws
    induction ws with
    | nil => rfl
    | cons w ws ih =>
      rw [List.flatMap_cons, callsTo_append, callsTo_destroy, ih, List.filter_cons]
      by_cases hid : w.id = id <;> simp [hid]
  have hjournal : ∃ k, Silent k ∧ m.closeAll.journal =
      (m.registry.windows.reverse.flatMap fun w => w.destroy.journal) ++ k := by
    obtain ⟨⟨capacity, windows⟩, compositor⟩ := m
    cases windows with
    | nil => exact ⟨[], silent_nil, rfl⟩
    | cons w ws =>
      refine ⟨_, silent_record ⟨.info, target, "destroyed " ++ Text.decimal (ws.length + 1) ++
        " windows"⟩, ?_⟩
      simp [closeAll, Registry.drain]
  obtain ⟨k, hk, hjournal⟩ := hjournal
  rw [hjournal, callsTo_append, hk.callsTo_eq, List.append_nil, hdestroyed]

theorem filter_id_eq_singleton {ws : List (Window α)} (h : (ws.map (·.id)).Nodup) {w : Window α}
    (hw : w ∈ ws) : ws.filter (·.id = w.id) = [w] := by
  induction ws with
  | nil => cases hw
  | cons u ws ih =>
    obtain ⟨hnew, hrest⟩ := List.nodup_cons.1 h
    rw [List.filter_cons]
    rcases List.mem_cons.1 hw with rfl | htail
    · have hnone : ws.filter (·.id = w.id) = [] := by
        refine List.filter_eq_nil_iff.2 fun v hv hid => hnew ?_
        exact List.mem_map.2 ⟨v, hv, of_decide_eq_true hid⟩
      rw [if_pos (decide_eq_true rfl), hnone]
    · have hne : u.id ≠ w.id := fun heq => hnew (List.mem_map.2 ⟨w, htail, heq.symm⟩)
      rw [if_neg (by simpa using hne)]
      exact ih hrest htail

/-- Over distinct numbers, emptying a workspace settles. -/
theorem settles_closeAll (m : Workspace α) (h : m.ids.Nodup) :
    m.Settles m.closeAll.value m.closeAll.journal := by
  have hids : m.closeAll.value.ids = [] := m.ids_closeAll
  have hdistinct : (m.registry.windows.reverse.map (·.id)).Nodup := by
    rw [List.map_reverse]
    exact (List.reverse_perm _).nodup_iff.2 h
  refine ⟨hids ▸ List.nil_sublist _, fun id hid => ?_, fun id hid => ?_, fun id hid _ => ?_⟩
  · have hnone : m.registry.windows.reverse.filter (·.id = id) = [] := by
      refine List.filter_eq_nil_iff.2 fun w hw heq => hid ?_
      exact List.mem_map.2 ⟨w, List.mem_reverse.1 hw, of_decide_eq_true heq⟩
    rw [callsTo_closeAll, hnone]
    rfl
  · rw [hids] at hid
    cases hid
  · obtain ⟨w, hw, rfl⟩ := List.mem_map.1 hid
    rw [callsTo_closeAll, filter_id_eq_singleton hdistinct (List.mem_reverse.2 hw)]
    exact endInDestroy_singleton w.pane.owner

/-- A sweep settles over distinct numbers. -/
theorem settles_sweep (m : Workspace α) (h : m.ids.Nodup) (gone : List WindowId) :
    m.Settles (m.sweep gone).value (m.sweep gone).journal := by
  induction gone generalizing m with
  | nil => exact .of_silent rfl silent_nil
  | cons id gone ih =>
    have hremove := m.settles_remove h id
    have hrest := ih (m.remove id).value.2 (h.sublist hremove.sublist)
    rw [value_sweep_cons, sweep, Traced.journal_bind]
    refine hremove.trans ?_
    generalize (m.remove id).value = answer at hrest ⊢
    obtain ⟨removed, m'⟩ := answer
    cases removed with
    | ok u => exact hrest
    | error e => exact (Settles.of_silent rfl (silent_record _)).trans hrest

variable [WindowClient α]

theorem settles_update (m : Workspace α) (h : m.ids.Nodup) (ctx : FrameContext) :
    m.Settles (m.update ctx).value.2 (m.update ctx).journal := by
  have hvisits : Visits m.ids (m.registry.windows.flatMap fun w => [w.callEntry (.update ctx)]) :=
    m.visits_pass fun w => .inr ⟨.update ctx, rfl, rfl⟩
  have hframed : m.Settles (m.framed ctx)
      (m.registry.windows.flatMap fun w => [w.callEntry (.update ctx)]) :=
    .of_visits (m.ids_framed ctx) hvisits
  have hdistinct : (m.framed ctx).ids.Nodup := by rwa [ids_framed]
  rw [update_eq]
  exact hframed.trans ((m.framed ctx).settles_sweep hdistinct (m.doomed ctx))

theorem settles_type (m : Workspace α) (code : Nat) :
    m.Settles (m.type code).value.2 (m.type code).journal := by
  refine .of_visits (m.ids_type code) ?_
  cases hcode : Keyboard.charOf? code with
  | none =>
    rw [type, hcode]
    exact silent_nil.visits m.ids
  | some ch =>
    rw [journal_type_of_some hcode]
    refine m.visits_pass fun w => ?_
    split
    · exact .inr ⟨.typed ch, rfl, rfl⟩
    · exact .inl rfl

theorem settles_refresh (m : Workspace α) : m.Settles m.refresh.value.2 m.refresh.journal := by
  refine .of_visits m.ids_refresh ?_
  rw [refresh_eq]
  exact m.visits_render.append ((Compositor.silent_present _ _).visits m.ids)

theorem settles_compose (m : Workspace α) : m.Settles m.compose.value.2 m.compose.journal := by
  refine .of_visits m.ids_compose ?_
  have hjournal : m.compose.journal = (m.compositor.compose m.registry.windows).journal :=
    List.append_nil _
  rw [hjournal]
  rcases m.compositor.journal_compose m.registry.windows with hpass | hsilent
  · rw [hpass]
    exact m.visits_render
  · exact hsilent.visits m.ids

/-- Over distinct numbers, every request settles. -/
theorem settles_serve (m : Workspace α) (h : m.ids.Nodup) (r : Request) :
    m.Settles (m.serve r).value (m.serve r).journal := by
  have hquiet {m' : Workspace α} (hids : m'.ids = m.ids) : m.Settles m' [] :=
    .of_silent hids silent_nil
  cases r with
  | remove id =>
    rw [serve, Traced.value_map, Traced.journal_map]
    exact m.settles_remove h id
  | update ctx =>
    rw [serve, Traced.value_map, Traced.journal_map]
    exact m.settles_update h ctx
  | type code =>
    rw [serve, Traced.value_map, Traced.journal_map]
    exact m.settles_type code
  | compose =>
    rw [serve, Traced.value_map, Traced.journal_map]
    exact m.settles_compose
  | refresh =>
    rw [serve, Traced.value_map, Traced.journal_map]
    exact m.settles_refresh
  | closeAll => exact m.settles_closeAll h
  | damage => exact hquiet rfl
  | attach fb => exact hquiet rfl
  | detach => exact hquiet rfl
  | setVisible id visible => exact hquiet (m.registry.ids_modify id fun _ => rfl)
  | place id x y => exact hquiet (m.registry.ids_modify id fun _ => rfl)

/-- Over distinct numbers, every sequence of requests settles. -/
theorem settles_serveAll (m : Workspace α) (h : m.ids.Nodup) (rs : List Request) :
    m.Settles (m.serveAll rs).value (m.serveAll rs).journal := by
  induction rs generalizing m with
  | nil => exact .of_silent rfl silent_nil
  | cons r rs ih =>
    have hfirst := m.settles_serve h r
    exact hfirst.trans (ih (m.serve r).value (h.sublist hfirst.sublist))

end Workspace

end TickDesktop
