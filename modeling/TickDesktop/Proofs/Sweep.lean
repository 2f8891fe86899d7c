import TickDesktop.Proofs.SessionMoves

/-!
# Updates in two phases

An update visits the windows slot by slot and notes the numbers of those that ask to be destroyed.
The registry is the same all the while; only when the last window was visited are the noted ones
looked up by their numbers and taken out. Over distinct numbers this comes to one filter of the
registry: no window is passed over because its neighbour goes, and none is visited twice.
-/
namespace TickDesktop

variable {α : Type}

/-- The call that destroys the window. -/
def Window.destruction (w : Window α) : Call α :=
  .window w.id w.behavior.client? (.destroy w.pane.owner)

namespace Registry

/-- Over distinct numbers, a window is found by its own number. -/
theorem get?_of_mem {r : Registry α} (h : r.ids.Nodup) {w : Window α} (hw : w ∈ r.windows) :
    r.get? w.id = some w := by
  rw [get?, ← List.head?_filter, Workspace.filter_id_eq_singleton h hw]
  rfl

end Registry

namespace Workspace

/-- Removing a number destroys the window that it finds, and makes no other call. -/
theorem calls_remove (m : Workspace α) (id : WindowId) :
    (m.remove id).calls = (m.registry.get? id).toList.map (·.destruction) := by
  cases hget : m.registry.get? id with
  | none => simp [remove, Registry.remove, hget]
  | some w => simp [remove, Registry.remove, hget, Window.calls_destroy, Window.destruction]

theorem calls_sweep_cons (m : Workspace α) (id : WindowId) (gone : List WindowId) :
    (m.sweep (id :: gone)).calls =
      (m.remove id).calls ++ ((m.remove id).value.2.sweep gone).calls := by
  rw [sweep, Traced.calls_bind]
  obtain ⟨removed, m'⟩ := (m.remove id).value
  cases removed <;> simp

/-- Over distinct numbers, a sweep of some of the windows destroys these, each once and in order. -/
theorem calls_sweep {m : Workspace α} (h : m.ids.Nodup) {gone : List (Window α)}
    (hgone : gone.Sublist m.registry.windows) :
    (m.sweep (gone.map (·.id))).calls = gone.map (·.destruction) := by
  induction gone generalizing m with
  | nil => rfl
  | cons w gone ih =>
    have hfirst := Registry.get?_of_mem h (hgone.subset List.mem_cons_self)
    have hids : (m.remove w.id).value.2.ids = m.ids.erase w.id := m.ids_remove w.id
    -- the first one is taken out of both lists
    have hrest : gone.Sublist (m.remove w.id).value.2.registry.windows := by
      have herase := hgone.eraseP (p := fun u => decide (u.id = w.id))
      rw [List.eraseP_cons_of_pos (by simp)] at herase
      rwa [remove_eq, registry_damageIf]
    rw [List.map_cons, calls_sweep_cons, calls_remove, hfirst, ih (hids ▸ h.erase w.id) hrest]
    rfl

/-! ## The pass by slots -/

variable [WindowClient α]

/-- The windows that ask to be destroyed in a frame, as it leaves them. -/
def departing (m : Workspace α) (ctx : FrameContext) : List (Window α) :=
  (m.registry.windows.filter (·.verdict ctx = .destroy)).map fun w => (w.updated ctx).clean

theorem map_id_departing (m : Workspace α) (ctx : FrameContext) :
    (m.departing ctx).map (·.id) = m.doomed ctx := by
  rw [departing, List.map_map]
  rfl

theorem departing_sublist (m : Workspace α) (ctx : FrameContext) :
    (m.departing ctx).Sublist (m.framed ctx).registry.windows := by
  rw [registry_framed]
  exact List.filter_sublist.map _

/-- Over distinct numbers, the calls of an update are those that update the windows and then those
that destroy the ones that asked for it. -/
theorem calls_update {m : Workspace α} (h : m.ids.Nodup) (ctx : FrameContext) :
    (m.update ctx).calls =
      m.registry.windows.map (fun w => .window w.id w.behavior.client? (.update ctx)) ++
        (m.registry.windows.filter (·.verdict ctx = .destroy)).map
          fun w => (w.updated ctx).destruction := by
  have hdistinct : (m.framed ctx).ids.Nodup := by rwa [ids_framed]
  have hsweep := calls_sweep hdistinct (m.departing_sublist ctx)
  rw [map_id_departing, departing, List.map_map] at hsweep
  rw [update_eq, Traced.calls, List.filterMap_append]
  refine congrArg₂ (· ++ ·) ?_ hsweep
  rw [← List.map_eq_flatMap, List.filterMap_map]
  exact congrFun List.filterMap_eq_map m.registry.windows

end Workspace

end TickDesktop
