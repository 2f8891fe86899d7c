import TickDesktop.Proofs.Composition
import TickDesktop.Workspace

/-!
# What the passes of a workspace do

For each operation of a workspace: the windows it leaves behind, and whether the screen asks to be
composed afterwards. Removing takes out the first window with a number, so over distinct numbers a
sweep keeps just the windows that are not on its list. All operations but registering are gathered
as requests, so that a run of a workspace is a list.
-/
namespace TickDesktop

namespace Workspace

variable {α : Type}

/-- The numbers of the open windows in order. -/
def ids (m : Workspace α) : List WindowId := m.registry.ids

@[simp] theorem registry_damageIf (m : Workspace α) (b : Bool) :
    (m.damageIf b).registry = m.registry := by
  cases b <;> rfl

@[simp] theorem dirty_damageIf (m : Workspace α) (b : Bool) :
    (m.damageIf b).compositor.dirty = (m.compositor.dirty || b) := by
  cases b <;> simp [damageIf, damage, Compositor.damage]

theorem damageIf_damageIf (m : Workspace α) (a b : Bool) :
    (m.damageIf a).damageIf b = m.damageIf (a || b) := by
  cases a <;> cases b <;> rfl

/-- A window is registered at the end, and asks for the screen to be composed, if there is room. -/
theorem add_of_room {m : Workspace α} (h : m.ids.length < m.registry.capacity) (w : Window α)
    (caller : String) : (m.add w caller).value =
      (.ok w.id, { m with registry.windows :=
        m.registry.windows ++ [{ w with pane.owner := some caller }] }.damage) := by
  have hroom : ¬ m.registry.capacity ≤ m.registry.windows.length := by
    simpa [ids, Registry.ids] using h
  simp [add, Registry.add, Registry.isFull, Registry.size, hroom]

theorem ids_add_of_room {m : Workspace α} (h : m.ids.length < m.registry.capacity) (w : Window α)
    (caller : String) : (m.add w caller).value.2.ids = m.ids ++ [w.id] := by
  rw [add_of_room h]
  simp [ids, damage, Registry.ids]

/-- A window that finds no room is turned away and nothing else changes. -/
theorem add_of_full {m : Workspace α} (h : m.registry.capacity ≤ m.ids.length) (w : Window α)
    (caller : String) :
    (m.add w caller).value = (.error (.registryFull m.registry.capacity), m) := by
  have hfull : m.registry.capacity ≤ m.registry.windows.length := by
    simpa [ids, Registry.ids] using h
  simp [add, Registry.add, Registry.isFull, Registry.size, hfull]

/-- The workspace without the first window of a number. -/
def without (m : Workspace α) (id : WindowId) : Workspace α :=
  { m with registry.windows := m.registry.windows.eraseP (·.id = id) }

theorem remove_of_mem {m : Workspace α} {id : WindowId} (h : id ∈ m.ids) :
    (m.remove id).value = (.ok (), (m.without id).damage) := by
  have hget : m.registry.get? id ≠ none := fun hnone => Registry.get?_eq_none_iff.1 hnone h
  obtain ⟨w, hw⟩ := Option.ne_none_iff_exists'.1 hget
  simp [remove, Registry.remove, hw, without]

theorem remove_of_not_mem {m : Workspace α} {id : WindowId} (h : id ∉ m.ids) :
    (m.remove id).value = (.error (.windowNotFound id), m) := by
  have hget : m.registry.get? id = none := Registry.get?_eq_none_iff.2 h
  simp [remove, Registry.remove, hget]

theorem without_of_not_mem {m : Workspace α} {id : WindowId} (h : id ∉ m.ids) :
    m.without id = m := by
  have herase : m.registry.windows.eraseP (·.id = id) = m.registry.windows := by
    refine List.eraseP_of_forall_not fun w hw hid => h ?_
    exact List.mem_map.2 ⟨w, hw, of_decide_eq_true hid⟩
  rw [without, herase]

/-- Removing takes out the window and asks for the screen to be composed, if the window is there. -/
theorem remove_eq (m : Workspace α) (id : WindowId) :
    (m.remove id).value.2 = (m.without id).damageIf (decide (id ∈ m.ids)) := by
  by_cases h : id ∈ m.ids
  · simp [remove_of_mem h, h, damageIf]
  · simp [remove_of_not_mem h, without_of_not_mem h, h, damageIf]

@[simp] theorem ids_damageIf (m : Workspace α) (b : Bool) : (m.damageIf b).ids = m.ids := by
  rw [ids, registry_damageIf, ids]

theorem without_damageIf (m : Workspace α) (id : WindowId) (b : Bool) :
    (m.damageIf b).without id = (m.without id).damageIf b := by
  cases b <;> rfl

/-- The workspace without the windows on a list, taken out one after the other. -/
def withoutAll (m : Workspace α) (gone : List WindowId) : Workspace α := gone.foldl without m

theorem withoutAll_damageIf (m : Workspace α) (gone : List WindowId) (b : Bool) :
    (m.damageIf b).withoutAll gone = (m.withoutAll gone).damageIf b := by
  induction gone generalizing m with
  | nil => rfl
  | cons id gone ih => rw [withoutAll, List.foldl_cons, without_damageIf]; exact ih (m.without id)

theorem value_sweep_cons (m : Workspace α) (id : WindowId) (gone : List WindowId) :
    (m.sweep (id :: gone)).value = ((m.remove id).value.2.sweep gone).value := by
  rw [sweep, Traced.value_bind]
  obtain ⟨removed, m'⟩ := (m.remove id).value
  cases removed <;> rfl

/-- A sweep takes out the windows on its list, and asks for the screen to be composed if any of them
is there. -/
theorem value_sweep (m : Workspace α) (gone : List WindowId) :
    (m.sweep gone).value = (m.withoutAll gone).damageIf (gone.any (· ∈ m.ids)) := by
  induction gone generalizing m with
  | nil => rfl
  | cons id gone ih =>
    rw [value_sweep_cons, remove_eq, ih, withoutAll_damageIf, damageIf_damageIf, ids_damageIf]
    change ((m.without id).withoutAll gone).damageIf _ = ((m.without id).withoutAll gone).damageIf _
    congr 1
    by_cases h : id ∈ m.ids
    · simp [h]
    · simp [h, without_of_not_mem h]

/-- Over distinct numbers, taking out a window keeps just the others. -/
theorem eraseP_eq_filter {ws : List (Window α)} (h : (ws.map (·.id)).Nodup) (id : WindowId) :
    ws.eraseP (·.id = id) = ws.filter (·.id ≠ id) := by
  induction ws with
  | nil => rfl
  | cons w ws ih =>
    obtain ⟨hnew, hrest⟩ := List.nodup_cons.1 h
    by_cases hw : w.id = id
    · have hall : ∀ u ∈ ws, u.id ≠ id := by
        rintro u hu rfl
        exact hnew (List.mem_map.2 ⟨u, hu, hw.symm⟩)
      have hkeep : ws.filter (·.id ≠ id) = ws := List.filter_eq_self.2 (by simpa using hall)
      simp only [List.eraseP_cons, List.filter_cons, hw, decide_true, decide_not,
        Bool.not_true, cond_true, Bool.false_eq_true, if_false] at *
      exact hkeep.symm
    · simp [hw, ih hrest]

theorem windows_withoutAll {m : Workspace α} (h : m.ids.Nodup) (gone : List WindowId) :
    (m.withoutAll gone).registry.windows = m.registry.windows.filter (·.id ∉ gone) := by
  induction gone generalizing m with
  | nil => exact (List.filter_eq_self.2 fun w _ => by simp).symm
  | cons id gone ih =>
    have hwindows : (m.without id).registry.windows = m.registry.windows.filter (·.id ≠ id) :=
      eraseP_eq_filter h id
    have hdistinct : (m.without id).ids.Nodup := by
      rw [ids, Registry.ids, hwindows]
      exact h.sublist (List.filter_sublist.map _)
    change ((m.without id).withoutAll gone).registry.windows = _
    rw [ih hdistinct, hwindows, List.filter_filter]
    congr 1
    funext w
    simp [Bool.and_comm]

@[simp] theorem capacity_withoutAll (m : Workspace α) (gone : List WindowId) :
    (m.withoutAll gone).registry.capacity = m.registry.capacity := by
  induction gone generalizing m with
  | nil => rfl
  | cons id gone ih => exact ih (m.without id)

theorem mem_windows_withoutAll {m : Workspace α} {gone : List WindowId} {w : Window α}
    (h : w ∈ (m.withoutAll gone).registry.windows) : w ∈ m.registry.windows := by
  induction gone generalizing m with
  | nil => exact h
  | cons id gone ih => exact List.mem_of_mem_eraseP (ih h)

/-- The workspace with other windows. -/
def withWindows (m : Workspace α) (ws : List (Window α)) : Workspace α :=
  { m with registry.windows := ws }

theorem ids_without (m : Workspace α) (id : WindowId) : (m.without id).ids = m.ids.erase id := by
  simp only [ids, Registry.ids, without, List.erase_eq_eraseP, List.eraseP_map]
  congr 2
  funext w
  exact Bool.eq_iff_iff.2 (by rw [Function.comp, beq_iff_eq, decide_eq_true_eq, eq_comm])

theorem ids_remove (m : Workspace α) (id : WindowId) :
    (m.remove id).value.2.ids = m.ids.erase id := by
  rw [remove_eq, ids_damageIf, ids_without]

/-- Over distinct numbers, a sweep keeps just the numbers that are not on its list. -/
theorem ids_withoutAll {m : Workspace α} (h : m.ids.Nodup) (gone : List WindowId) :
    (m.withoutAll gone).ids = m.ids.filter (· ∉ gone) := by
  rw [ids, Registry.ids, windows_withoutAll h, ids, Registry.ids, List.filter_map]
  rfl

theorem ids_withWindows_map (m : Workspace α) {f : Window α → Window α}
    (hf : ∀ w, (f w).id = w.id) : (m.withWindows (m.registry.windows.map f)).ids = m.ids := by
  rw [ids, Registry.ids, withWindows, List.map_map, ids, Registry.ids]
  exact List.map_congr_left fun w _ => hf w

/-- Emptying a workspace asks for the screen to be composed if a window was open. -/
theorem value_closeAll (m : Workspace α) :
    m.closeAll.value = (m.withWindows []).damageIf (!m.registry.windows.isEmpty) := by
  obtain ⟨⟨capacity, windows⟩, compositor⟩ := m
  cases windows <;> simp [closeAll, Registry.drain, withWindows, damageIf]

@[simp] theorem ids_closeAll (m : Workspace α) : m.closeAll.value.ids = [] := by
  rw [value_closeAll, ids_damageIf]
  rfl

variable [WindowClient α]

/-- The numbers of the windows that ask to be destroyed in a frame. -/
def doomed (m : Workspace α) (ctx : FrameContext) : List WindowId :=
  (m.registry.windows.filter (·.verdict ctx = .destroy)).map (·.id)

/-- The workspace after every window went through a frame: the flags that they raise have moved onto
the screen. -/
def framed (m : Workspace α) (ctx : FrameContext) : Workspace α :=
  (m.withWindows (m.registry.windows.map fun w => (w.updated ctx).clean)).damageIf
    (m.registry.windows.any fun w => (w.updated ctx).pane.dirty)

@[simp] theorem registry_framed (m : Workspace α) (ctx : FrameContext) :
    (m.framed ctx).registry =
      ⟨m.registry.capacity, m.registry.windows.map fun w => (w.updated ctx).clean⟩ :=
  registry_damageIf ..

@[simp] theorem ids_framed (m : Workspace α) (ctx : FrameContext) : (m.framed ctx).ids = m.ids := by
  rw [framed, ids_damageIf]
  exact m.ids_withWindows_map fun w => rfl

/-- An update takes every window through the frame and sweeps those that ask to be destroyed. -/
theorem update_eq (m : Workspace α) (ctx : FrameContext) : m.update ctx =
    ⟨((m.doomed ctx).length, ((m.framed ctx).sweep (m.doomed ctx)).value),
      (m.registry.windows.flatMap fun w => [w.callEntry (.update ctx)]) ++
        ((m.framed ctx).sweep (m.doomed ctx)).journal⟩ := by
  obtain ⟨⟨capacity, windows⟩, compositor⟩ := m
  have hdoomed : (((windows.map fun w => (w.update ctx).value).filter (·.1 = .destroy)).map
      (·.2.id)) = (windows.filter (·.verdict ctx = .destroy)).map (·.id) := by
    rw [List.filter_map, List.map_map]
    rfl
  refine Traced.ext' ?_ ?_
  · simp only [update, Traced.value_bind, Traced.value_each, Traced.value_pure, hdoomed,
      List.map_map, List.any_map]
    rfl
  · simp only [update, Traced.journal_bind, Traced.journal_each, Traced.value_each,
      Traced.journal_pure, List.append_nil, hdoomed, List.map_map, List.any_map]
    rfl

/-- What is left by an update. -/
theorem value_update (m : Workspace α) (ctx : FrameContext) : (m.update ctx).value =
    ((m.doomed ctx).length, ((m.framed ctx).withoutAll (m.doomed ctx)).damageIf
      ((m.doomed ctx).any (· ∈ m.ids))) := by
  rw [update_eq, value_sweep, ids_framed]

/-- A refresh calls the visible windows to render, and composes the screen from the result. -/
theorem refresh_eq (m : Workspace α) : m.refresh =
    ⟨((m.compositor.present (m.registry.windows.map Window.refreshed)).value.1,
      ⟨⟨m.registry.capacity, m.registry.windows.map Window.refreshed⟩,
        (m.compositor.present (m.registry.windows.map Window.refreshed)).value.2⟩),
      (m.registry.windows.flatMap fun w => if w.isVisible then [w.callEntry .render] else []) ++
        (m.compositor.present (m.registry.windows.map Window.refreshed)).journal⟩ := by
  obtain ⟨⟨capacity, windows⟩, compositor⟩ := m
  have hvalue : (fun w : Window α =>
      (if w.isVisible then w.render else (pure w : Traced α (Window α))).value) =
        Window.refreshed := by
    funext w
    unfold Window.refreshed
    split <;> rfl
  have hjournal : (fun w : Window α =>
      (if w.isVisible then w.render else (pure w : Traced α (Window α))).journal) =
        fun w => if w.isVisible then [w.callEntry .render] else [] := by
    funext w
    split <;> rfl
  refine Traced.ext' ?_ ?_
  · simp only [refresh, Traced.value_bind, Traced.value_each, Traced.value_pure, hvalue]
  · simp only [refresh, Traced.journal_bind, Traced.journal_each, Traced.value_each,
      Traced.journal_pure, List.append_nil, hvalue, hjournal]

theorem value_compose (m : Workspace α) : m.compose.value =
    ((m.compositor.compose m.registry.windows).value.1,
      ⟨⟨m.registry.capacity, (m.compositor.compose m.registry.windows).value.2.2⟩,
        (m.compositor.compose m.registry.windows).value.2.1⟩) := rfl

/-- A window after a key was typed: one that takes keys gets the character and gives up its flag. -/
def keyed (ch : Char) (w : Window α) : Window α :=
  if takesKeys w then (w.typed ch).value.clean else w

/-- Whether a typed key makes a window raise its flag. -/
def stirred (ch : Char) (w : Window α) : Bool := takesKeys w && (w.typed ch).value.pane.dirty

theorem value_type_of_none {m : Workspace α} {code : Nat} (h : Keyboard.charOf? code = none) :
    (m.type code).value = (0, m) := by
  rw [type, h]
  rfl

/-- A typed key reaches the windows that take keys, and their flags move onto the screen. -/
theorem value_type_of_some {m : Workspace α} {code : Nat} {ch : Char}
    (h : Keyboard.charOf? code = some ch) : (m.type code).value =
      (m.registry.windows.countP takesKeys,
        (m.withWindows (m.registry.windows.map (keyed ch))).damageIf
          (m.registry.windows.any (stirred ch))) := by
  obtain ⟨⟨capacity, windows⟩, compositor⟩ := m
  have hreached : (windows.map fun w => (if takesKeys w then do
      let w ← w.typed ch
      return (w.pane.dirty, w.clean)
    else return (false, w) : Traced α (Bool × Window α)).value) =
      windows.map fun w => (stirred ch w, keyed ch w) := by
    refine List.map_congr_left fun w _ => ?_
    rw [stirred, keyed]
    by_cases hw : takesKeys w <;> simp [hw]
  simp only [type, h, Traced.value_bind, Traced.value_each, hreached, Traced.value_pure,
    List.map_map, List.any_map]
  rfl

theorem journal_type_of_some {m : Workspace α} {code : Nat} {ch : Char}
    (h : Keyboard.charOf? code = some ch) : (m.type code).journal =
      m.registry.windows.flatMap fun w =>
        if takesKeys w then [w.callEntry (.typed ch)] else [] := by
  obtain ⟨⟨capacity, windows⟩, compositor⟩ := m
  simp only [type, h, Traced.journal_bind, Traced.journal_each, Traced.journal_pure,
    List.append_nil]
  refine congrArg (windows.flatMap ·) (funext fun w => ?_)
  split <;> rfl

/-- What can be asked of a workspace besides registering a window. -/
inductive Request where
  | remove (id : WindowId)
  | update (ctx : FrameContext)
  | type (code : Nat)
  | damage
  | compose
  | refresh
  | closeAll
  | attach (fb : Framebuffer)
  | detach
  | setVisible (id : WindowId) (visible : Bool)
  | place (id : WindowId) (x y : Int)

/-- A workspace after a request. -/
def serve (m : Workspace α) : Request → Traced α (Workspace α)
  | .remove id => (·.2) <$> m.remove id
  | .update ctx => (·.2) <$> m.update ctx
  | .type code => (·.2) <$> m.type code
  | .damage => pure m.damage
  | .compose => (·.2) <$> m.compose
  | .refresh => (·.2) <$> m.refresh
  | .closeAll => m.closeAll
  | .attach fb => pure { m with compositor := m.compositor.attach fb }
  | .detach => pure { m with compositor := m.compositor.detach.2 }
  | .setVisible id visible =>
    pure { m with registry := m.registry.modify id (·.setVisible visible) }
  | .place id x y => pure { m with registry := m.registry.modify id (·.place x y) }

/-- A workspace after several requests. -/
def serveAll (m : Workspace α) : List Request → Traced α (Workspace α)
  | [] => pure m
  | r :: rs => do
    let m ← m.serve r
    m.serveAll rs

@[simp] theorem id_keyed (ch : Char) (w : Window α) : (keyed ch w).id = w.id := by
  unfold keyed
  split <;> simp

theorem mem_ids_of_mem_doomed {m : Workspace α} {ctx : FrameContext} {id : WindowId}
    (h : id ∈ m.doomed ctx) : id ∈ m.ids := by
  obtain ⟨w, hw, rfl⟩ := List.mem_map.1 h
  exact List.mem_map.2 ⟨w, (List.mem_filter.1 hw).1, rfl⟩

/-- An update takes out the numbers of the windows that ask to be destroyed. -/
theorem ids_update {m : Workspace α} (h : m.ids.Nodup) (ctx : FrameContext) :
    (m.update ctx).value.2.ids = m.ids.filter (· ∉ m.doomed ctx) := by
  have hdistinct : (m.framed ctx).ids.Nodup := by rwa [ids_framed]
  rw [value_update, ids_damageIf, ids_withoutAll hdistinct, ids_framed]

theorem ids_type (m : Workspace α) (code : Nat) : (m.type code).value.2.ids = m.ids := by
  cases hcode : Keyboard.charOf? code with
  | none => rw [value_type_of_none hcode]
  | some ch =>
    rw [value_type_of_some hcode, ids_damageIf]
    exact m.ids_withWindows_map (id_keyed ch)

theorem ids_refresh (m : Workspace α) : m.refresh.value.2.ids = m.ids := by
  rw [refresh_eq]
  exact m.ids_withWindows_map Window.id_refreshed

theorem ids_compose (m : Workspace α) : m.compose.value.2.ids = m.ids := by
  rw [value_compose]
  exact m.compositor.ids_compose m.registry.windows

theorem capacity_serve (m : Workspace α) (r : Request) :
    (m.serve r).value.registry.capacity = m.registry.capacity := by
  cases r with
  | remove id =>
    change (m.remove id).value.2.registry.capacity = _
    rw [remove_eq, registry_damageIf]
    rfl
  | update ctx =>
    change (m.update ctx).value.2.registry.capacity = _
    rw [value_update, registry_damageIf, capacity_withoutAll, registry_framed]
  | type code =>
    change (m.type code).value.2.registry.capacity = _
    cases hcode : Keyboard.charOf? code with
    | none => rw [value_type_of_none hcode]
    | some ch =>
      rw [value_type_of_some hcode, registry_damageIf]
      rfl
  | closeAll =>
    change m.closeAll.value.registry.capacity = _
    rw [value_closeAll, registry_damageIf]
    rfl
  | _ => rfl

theorem capacity_serveAll (m : Workspace α) (rs : List Request) :
    (m.serveAll rs).value.registry.capacity = m.registry.capacity := by
  induction rs generalizing m with
  | nil => rfl
  | cons r rs ih => exact (ih (m.serve r).value).trans (m.capacity_serve r)

end Workspace

end TickDesktop
