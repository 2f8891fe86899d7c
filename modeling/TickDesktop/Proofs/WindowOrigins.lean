import TickDesktop.Proofs.Freshness

/-!
# Where windows come from

A request of a workspace brings in no window: each one that it leaves behind was there before, under
the same number, and went through what the request does to windows. So what holds of a window after
a run is traced back to what held of it before, one request at a time.
-/
namespace TickDesktop

open Workspace (Request)

namespace Window

variable {α : Type} [WindowClient α]

/-- What a request of its workspace can make of a window that stays. -/
def Goes (w w' : Window α) : Request → Prop
  | .update ctx => w' = (w.updated ctx).clean
  | .type _ => w' = w ∨ ∃ ch, w' = (w.typed ch).value.clean
  | .compose | .refresh => w' = w ∨ w' = w.rendered
  | .setVisible _ visible => w' = w ∨ w' = w.setVisible visible
  | .place _ x y => w' = w ∨ w' = w.place x y
  | _ => w' = w

theorem Goes.id_eq {w w' : Window α} {r : Request} (h : w.Goes w' r) : w'.id = w.id := by
  cases r with
  | update ctx => exact h ▸ rfl
  | type code =>
    rcases h with rfl | ⟨ch, rfl⟩ <;> rfl
  | compose | refresh | setVisible | place =>
    rcases h with rfl | rfl <;> rfl
  | _ => exact h ▸ rfl

end Window

/-- Over distinct numbers, the only window with the number of a change is one that was changed. -/
theorem Registry.mem_modify_of_nodup {α : Type} {r : Registry α} {id : WindowId}
    {f : Window α → Window α} (hdistinct : r.ids.Nodup) {u : Window α}
    (hu : u ∈ (r.modify id f).windows) (hid : u.id = id) : ∃ w ∈ r.windows, u = f w := by
  have hgo (ws : List (Window α)) (hdistinct : (ws.map (·.id)).Nodup)
      (hu : u ∈ modify.go id f ws) : ∃ w ∈ ws, u = f w := by
    induction ws with
    | nil => cases hu
    | cons w ws ih =>
      obtain ⟨hnew, hrest⟩ := List.nodup_cons.1 hdistinct
      rw [modify.go] at hu
      by_cases hw : w.id = id
      · rw [if_pos hw] at hu
        rcases List.mem_cons.1 hu with rfl | htail
        · exact ⟨w, by simp, rfl⟩
        · exact absurd (List.mem_map.2 ⟨u, htail, hid.trans hw.symm⟩) hnew
      · rw [if_neg hw] at hu
        rcases List.mem_cons.1 hu with rfl | htail
        · exact absurd hid hw
        · obtain ⟨v, hv, heq⟩ := ih hrest htail
          exact ⟨v, by simp [hv], heq⟩
  exact hgo r.windows hdistinct hu

namespace Workspace

variable {α : Type} {m : Workspace α} {w' : Window α}

/-- A window after a registration is the new one or was there before. -/
theorem mem_add {w : Window α} {caller : String}
    (h : w' ∈ (m.add w caller).value.2.registry.windows) :
    w' ∈ m.registry.windows ∨ w' = { w with pane.owner := some caller } := by
  by_cases hroom : m.ids.length < m.registry.capacity
  · rw [add_of_room hroom] at h
    exact (List.mem_append.1 h).imp_right List.mem_singleton.1
  · rw [add_of_full (by omega)] at h
    exact .inl h

theorem mem_remove {id : WindowId} (h : w' ∈ (m.remove id).value.2.registry.windows) :
    w' ∈ m.registry.windows := by
  rw [remove_eq, registry_damageIf] at h
  exact List.mem_of_mem_eraseP h

theorem origin_modify {id : WindowId} {f : Window α → Window α}
    (h : w' ∈ (m.registry.modify id f).windows) :
    ∃ w ∈ m.registry.windows, w' = w ∨ w.id = id ∧ w' = f w := by
  rcases Registry.mem_modify h with hold | ⟨w, hw, hid, heq⟩
  · exact ⟨w', hold, .inl rfl⟩
  · exact ⟨w, hw, .inr ⟨hid, heq⟩⟩

variable [WindowClient α]

theorem origin_update {ctx : FrameContext} (h : w' ∈ (m.update ctx).value.2.registry.windows) :
    ∃ w ∈ m.registry.windows, w' = (w.updated ctx).clean := by
  rw [value_update, registry_damageIf] at h
  have hframed := mem_windows_withoutAll h
  rw [registry_framed] at hframed
  obtain ⟨w, hw, rfl⟩ := List.mem_map.1 hframed
  exact ⟨w, hw, rfl⟩

theorem origin_type {code : Nat} (h : w' ∈ (m.type code).value.2.registry.windows) :
    ∃ w ∈ m.registry.windows, w' = w ∨ ∃ ch, w' = (w.typed ch).value.clean := by
  cases hcode : Keyboard.charOf? code with
  | none =>
    rw [value_type_of_none hcode] at h
    exact ⟨w', h, .inl rfl⟩
  | some ch =>
    rw [value_type_of_some hcode, registry_damageIf] at h
    obtain ⟨w, hw, rfl⟩ := List.mem_map.1 h
    unfold keyed
    split
    · exact ⟨w, hw, .inr ⟨ch, rfl⟩⟩
    · exact ⟨w, hw, .inl rfl⟩

theorem origin_refreshed {ws : List (Window α)} (h : w' ∈ ws.map Window.refreshed) :
    ∃ w ∈ ws, w' = w ∨ w' = w.rendered := by
  obtain ⟨w, hw, rfl⟩ := List.mem_map.1 h
  unfold Window.refreshed
  split
  · exact ⟨w, hw, .inr rfl⟩
  · exact ⟨w, hw, .inl rfl⟩

/-- Every window that a request leaves behind was there before and went through the request. -/
theorem origin_serve {r : Request} (h : w' ∈ (m.serve r).value.registry.windows) :
    ∃ w ∈ m.registry.windows, w.Goes w' r := by
  cases r with
  | remove id => exact ⟨w', mem_remove h, rfl⟩
  | update ctx => exact origin_update h
  | type code => exact origin_type h
  | compose =>
    change w' ∈ (m.compositor.compose m.registry.windows).value.2.2 at h
    rcases m.compositor.windows_compose m.registry.windows with hsame | hpass
    · rw [hsame] at h
      exact ⟨w', h, .inl rfl⟩
    · rw [hpass] at h
      exact origin_refreshed h
  | refresh =>
    rw [serve, Traced.value_map, refresh_eq] at h
    exact origin_refreshed h
  | closeAll =>
    rw [serve, value_closeAll, registry_damageIf] at h
    cases h
  | setVisible id visible =>
    obtain ⟨w, hw, hgoes⟩ := origin_modify h
    exact ⟨w, hw, hgoes.imp_right And.right⟩
  | place id x y =>
    obtain ⟨w, hw, hgoes⟩ := origin_modify h
    exact ⟨w, hw, hgoes.imp_right And.right⟩
  | damage | attach | detach => exact ⟨w', h, rfl⟩

end Workspace

end TickDesktop
