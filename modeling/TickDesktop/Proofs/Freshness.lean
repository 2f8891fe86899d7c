import TickDesktop.Proofs.SessionRun

/-!
# No stale screen

What a pass would paint depends on the desktop and the windows. A change of them leaves a trace, on
the flag of a window or on that of the screen, and flags are cleared only by a pass that composes
the screen or after they were moved onto the screen. So over stock windows, a screen with no flag
raised anywhere shows what a pass would paint now.
-/
namespace TickDesktop

namespace Workspace

variable {α : Type}

/-- No window is marked as changed. -/
def Quiet (m : Workspace α) : Prop := ∀ w ∈ m.registry.windows, w.pane.dirty = false

/-- Neither the screen nor a window is marked as changed. -/
def Settled (m : Workspace α) : Prop := m.compositor.dirty = false ∧ m.Quiet

/-- Every open window is a stock window. -/
def Stocked (m : Workspace α) : Prop := ∀ w ∈ m.registry.windows, w.IsStock

variable [WindowClient α]

/-- A framebuffer shows what a pass would paint now. -/
def ShownOn (m : Workspace α) (fb : Framebuffer) : Prop :=
  ∀ px py, px < fb.width → py < fb.height →
    fb.get? px py = some (screenPixel m.compositor.backing m.registry.windows px py)

/-- All windows are stock, and if nothing is marked as changed the framebuffer shows what a pass
would paint now. -/
structure UpToDate (m : Workspace α) : Prop where
  stocked : m.Stocked
  shown : m.Settled → ∀ fb, m.compositor.framebuffer = some fb → m.ShownOn fb

end Workspace

namespace Window

variable {α : Type} [WindowClient α]

/-- Rendering neither shows nor hides a stock window, and it would paint the same again. -/
theorem IsStock.layer_rendered {w : Window α} (h : w.IsStock) :
    w.rendered.isVisible = w.isVisible ∧ w.rendered.layer = w.layer := by
  have hpane : w.rendered.pane = { w.pane with surface := w.rendered.pane.surface } :=
    h.paintsOnly
  constructor
  · rw [isVisible, hpane, isVisible]
  · unfold layer
    rw [h.rendered_rendered, hpane]

theorem IsStock.refreshed {w : Window α} (h : w.IsStock) : w.refreshed.IsStock := by
  unfold Window.refreshed
  split
  · exact h.rendered
  · exact h

end Window

/-- The visible ones among stock windows after a pass are those that were visible before it. -/
theorem Window.filter_refreshed {α : Type} [WindowClient α] {ws : List (Window α)}
    (hw : ∀ w ∈ ws, w.IsStock) : (ws.map Window.refreshed).filter (·.isVisible) =
      (ws.filter (·.isVisible)).map Window.rendered := by
  induction ws with
  | nil => rfl
  | cons w ws ih =>
    obtain ⟨hhead, htail⟩ := List.forall_mem_cons.1 hw
    by_cases hv : w.isVisible
    · have hv' : w.rendered.isVisible := hhead.layer_rendered.1.trans hv
      rw [List.map_cons, Window.refreshed, if_pos hv, List.filter_cons_of_pos hv',
        List.filter_cons_of_pos hv, List.map_cons, ih htail]
    · rw [List.map_cons, Window.refreshed, if_neg hv, List.filter_cons_of_neg hv,
        List.filter_cons_of_neg hv, ih htail]

/-- A pass over stock windows does not change what the next one would paint. -/
theorem screenPixel_refreshed {α : Type} [WindowClient α] (backing : Surface) {ws : List (Window α)}
    (hw : ∀ w ∈ ws, w.IsStock) (px py : Nat) :
    screenPixel backing (ws.map Window.refreshed) px py = screenPixel backing ws px py := by
  have hlayers : ((ws.filter (·.isVisible)).map Window.rendered).map Window.layer =
      (ws.filter (·.isVisible)).map Window.layer := by
    rw [List.map_map]
    exact List.map_congr_left fun w hmem => (hw w (List.mem_filter.1 hmem).1).layer_rendered.2
  rw [screenPixel, screenPixel, Window.filter_refreshed hw, hlayers]

namespace Compositor

variable {α : Type}

/-- What presenting windows amounts to when there is a framebuffer. -/
theorem present_of_some {c : Compositor} {fb : Framebuffer} (hfb : c.framebuffer = some fb)
    (ws : List (Window α)) : (c.present ws).value = (true, { c with framebuffer := none }.finish
      ((ws.filter Window.isVisible).foldl (fun fb w => Window.blendOnto w fb) (clear c.backing fb))
      (ws.filter Window.isVisible).length) := by
  obtain ⟨backing, framebuffer, dirty, warned, stats⟩ := c
  cases hfb
  rfl

/-- Presenting windows calls none of them. -/
theorem journal_present_of_some {c : Compositor} {fb : Framebuffer}
    (hfb : c.framebuffer = some fb) (ws : List (Window α)) : (c.present ws).journal = [] := by
  obtain ⟨backing, framebuffer, dirty, warned, stats⟩ := c
  cases hfb
  rfl

theorem framebuffer_present_of_none {c : Compositor} (hfb : c.framebuffer = none)
    (ws : List (Window α)) : (c.present ws).value.2.framebuffer = none := by
  obtain ⟨backing, framebuffer, dirty, warned, stats⟩ := c
  cases hfb
  cases warned <;> rfl

variable [WindowClient α]

/-- Without a framebuffer nothing is composed and none turns up. -/
theorem framebuffer_compose_of_none {c : Compositor} (hfb : c.framebuffer = none)
    (ws : List (Window α)) : (c.compose ws).value.2.1.framebuffer = none := by
  obtain ⟨backing, framebuffer, dirty, warned, stats⟩ := c
  cases hfb
  cases dirty <;> cases warned <;> rfl

end Compositor

namespace Registry

variable {α : Type} {r : Registry α} {id : WindowId} {f : Window α → Window α}

theorem mem_modify {u : Window α} (h : u ∈ (r.modify id f).windows) :
    u ∈ r.windows ∨ ∃ w ∈ r.windows, w.id = id ∧ u = f w := by
  have hgo : ∀ ws : List (Window α), u ∈ modify.go id f ws →
      u ∈ ws ∨ ∃ w ∈ ws, w.id = id ∧ u = f w := by
    intro ws hu
    induction ws with
    | nil => cases hu
    | cons w ws ih =>
      rw [modify.go] at hu
      split at hu
      · next hid =>
        rcases List.mem_cons.1 hu with rfl | htail
        · exact .inr ⟨w, List.mem_cons_self, hid, rfl⟩
        · exact .inl (List.mem_cons_of_mem w htail)
      · rcases List.mem_cons.1 hu with rfl | htail
        · exact .inl List.mem_cons_self
        · rcases ih htail with hold | ⟨v, hv, heq⟩
          · exact .inl (List.mem_cons_of_mem w hold)
          · exact .inr ⟨v, List.mem_cons_of_mem w hv, heq⟩
  exact hgo r.windows h

/-- A change that raises a flag leaves a window marked, unless there is no window to change. -/
theorem modify_of_quiet (hraise : ∀ w, (f w).pane.dirty = true)
    (hquiet : ∀ w ∈ (r.modify id f).windows, w.pane.dirty = false) : r.modify id f = r := by
  have hgo : ∀ ws : List (Window α), (∀ w ∈ modify.go id f ws, w.pane.dirty = false) →
      modify.go id f ws = ws := by
    intro ws hws
    induction ws with
    | nil => rfl
    | cons w ws ih =>
      rw [modify.go] at hws ⊢
      by_cases hid : w.id = id
      · rw [if_pos hid] at hws
        have hclash := hws (f w) List.mem_cons_self
        rw [hraise w] at hclash
        cases hclash
      · rw [if_neg hid] at hws ⊢
        rw [ih (List.forall_mem_cons.1 hws).2]
  rw [modify, hgo r.windows hquiet]

end Registry

namespace Window

variable {α : Type}

theorem clean_of_quiet {w : Window α} (h : w.pane.dirty = false) : w.clean = w := by
  obtain ⟨id, archetype, pane, behavior⟩ := w
  obtain ⟨title, flags, x, y, background, opacity, dirty, owner, surface⟩ := pane
  cases h
  rfl

end Window

namespace Workspace

variable {α : Type} {m : Workspace α}

/-- Taking every window through a change that leaves it as it was changes nothing. -/
theorem withWindows_of_still {f : Window α → Window α}
    (hf : ∀ w ∈ m.registry.windows, f w = w) : m.withWindows (m.registry.windows.map f) = m := by
  rw [(List.map_congr_left hf).trans (List.map_id _)]
  rfl

variable [WindowClient α]

theorem UpToDate.of_dirty (hstock : m.Stocked) (hdirty : m.compositor.dirty = true) :
    m.UpToDate := by
  refine ⟨hstock, fun hsettled => ?_⟩
  rw [hsettled.1] at hdirty
  cases hdirty

/-- Registering a stock window asks for the screen to be composed, if there is room for it. -/
theorem UpToDate.add (h : m.UpToDate) {w : Window α} (hw : w.IsStock) (caller : String) :
    (m.add w caller).value.2.UpToDate := by
  by_cases hroom : m.ids.length < m.registry.capacity
  · rw [add_of_room hroom]
    refine .of_dirty (fun u hu => ?_) rfl
    rcases List.mem_append.1 hu with hold | hnew
    · exact h.stocked u hold
    · rw [List.mem_singleton.1 hnew]
      exact hw
  · rw [add_of_full (by omega)]
    exact h

theorem UpToDate.remove (h : m.UpToDate) (id : WindowId) : (m.remove id).value.2.UpToDate := by
  rw [remove_eq]
  by_cases hid : id ∈ m.ids
  · refine .of_dirty (fun w hw => ?_) (by simp [hid])
    rw [registry_damageIf] at hw
    exact h.stocked w (List.mem_of_mem_eraseP hw)
  · rw [without_of_not_mem hid, decide_eq_false hid]
    exact h

theorem mem_doomed {ctx : FrameContext} {w : Window α} (hw : w ∈ m.registry.windows)
    (h : w.verdict ctx = .destroy) : w.id ∈ m.doomed ctx :=
  List.mem_map.2 ⟨w, List.mem_filter.2 ⟨hw, decide_eq_true h⟩, rfl⟩

/-- An update either asks for the screen to be composed or changes nothing. -/
theorem dirty_update_or_eq (hstock : m.Stocked) (ctx : FrameContext) :
    (m.update ctx).value.2.compositor.dirty = true ∨ (m.update ctx).value.2 = m := by
  rw [value_update]
  -- a doomed window is open, so taking it out asks for the screen to be composed
  by_cases hdoomed : ∃ id, id ∈ m.doomed ctx
  · obtain ⟨id, hid⟩ := hdoomed
    refine .inl ?_
    rw [dirty_damageIf, Bool.or_eq_true, List.any_eq_true]
    exact .inr ⟨id, hid, decide_eq_true (mem_ids_of_mem_doomed hid)⟩
  have hnone : m.doomed ctx = [] := List.eq_nil_iff_forall_not_mem.2 (not_exists.1 hdoomed)
  rw [hnone]
  by_cases hraise : (m.registry.windows.any fun w => (w.updated ctx).pane.dirty) = true
  · refine .inl ?_
    change (m.framed ctx).compositor.dirty = true
    simp [framed, hraise]
  · have hstill : ∀ w ∈ m.registry.windows, (w.updated ctx).clean = w := by
      intro w hw
      have hquiet : (w.updated ctx).pane.dirty = false := by
        simp only [List.any_eq_true, not_exists, not_and, Bool.not_eq_true] at hraise
        exact hraise w hw
      have hstay : w.verdict ctx = .stay := by
        cases hverdict : w.verdict ctx with
        | stay => rfl
        | destroy => exact absurd (mem_doomed hw hverdict) (not_exists.1 hdoomed w.id)
      have hclean := Window.clean_of_quiet hquiet
      exact hclean.trans ((hstock w hw).updated_of_quiet hstay hquiet)
    refine .inr ?_
    change m.framed ctx = m
    rw [framed, withWindows_of_still hstill, Bool.eq_false_iff.2 hraise]
    rfl

/-- A typed key either asks for the screen to be composed or changes nothing. -/
theorem dirty_type_or_eq (hstock : m.Stocked) (code : Nat) :
    (m.type code).value.2.compositor.dirty = true ∨ (m.type code).value.2 = m := by
  cases hcode : Keyboard.charOf? code with
  | none => exact .inr (by rw [value_type_of_none hcode])
  | some ch =>
    rw [value_type_of_some hcode]
    by_cases hstir : m.registry.windows.any (stirred ch) = true
    · exact .inl (by simp [hstir])
    · have hstill : ∀ w ∈ m.registry.windows, keyed ch w = w := by
        intro w hw
        simp only [List.any_eq_true, not_exists, not_and, Bool.not_eq_true] at hstir
        have hquiet := hstir w hw
        unfold stirred at hquiet
        unfold keyed
        by_cases htakes : takesKeys w
        · rw [htakes, Bool.true_and] at hquiet
          rw [if_pos htakes, Window.clean_of_quiet hquiet, (hstock w hw).typed_of_quiet hquiet]
        · rw [if_neg htakes]
      refine .inr ?_
      simp only
      rw [withWindows_of_still hstill, Bool.eq_false_iff.2 hstir]
      rfl

theorem stocked_update (hstock : m.Stocked) (ctx : FrameContext) :
    (m.update ctx).value.2.Stocked ∧ (m.update ctx).value.2.Quiet := by
  have hall : ∀ w ∈ (m.update ctx).value.2.registry.windows,
      ∃ u ∈ m.registry.windows, w = (u.updated ctx).clean := by
    intro w hw
    rw [value_update, registry_damageIf] at hw
    have hmem := mem_windows_withoutAll hw
    rw [registry_framed] at hmem
    obtain ⟨u, hu, rfl⟩ := List.mem_map.1 hmem
    exact ⟨u, hu, rfl⟩
  constructor
  · intro w hw
    obtain ⟨u, hu, rfl⟩ := hall w hw
    exact (hstock u hu).updated ctx
  · intro w hw
    obtain ⟨u, hu, rfl⟩ := hall w hw
    rfl

theorem stocked_type (hstock : m.Stocked) (code : Nat) : (m.type code).value.2.Stocked := by
  cases hcode : Keyboard.charOf? code with
  | none =>
    rw [value_type_of_none hcode]
    exact hstock
  | some ch =>
    intro w hw
    rw [value_type_of_some hcode, registry_damageIf] at hw
    obtain ⟨u, hu, rfl⟩ := List.mem_map.1 hw
    unfold keyed
    split
    · exact (hstock u hu).typed ch
    · exact hstock u hu

theorem UpToDate.of_dirty_or_eq {m' : Workspace α} (h : m.UpToDate) (hstock : m'.Stocked)
    (hkeep : m'.compositor.dirty = true ∨ m' = m) : m'.UpToDate := by
  rcases hkeep with hdirty | rfl
  · exact .of_dirty hstock hdirty
  · exact h

/-- A change that raises the flag of the window that it is made to keeps the screen up to date. -/
theorem UpToDate.modify (h : m.UpToDate) (id : WindowId) {f : Window α → Window α}
    (hstock : ∀ w, w.IsStock → (f w).IsStock) (hraise : ∀ w, (f w).pane.dirty = true) :
    ({ m with registry := m.registry.modify id f } : Workspace α).UpToDate := by
  refine ⟨fun u hu => ?_, fun hsettled => ?_⟩
  · rcases Registry.mem_modify hu with hold | ⟨w, hw, -, rfl⟩
    · exact h.stocked u hold
    · exact hstock w (h.stocked w hw)
  · have hkeep : ({ m with registry := m.registry.modify id f } : Workspace α) = m := by
      rw [Registry.modify_of_quiet hraise hsettled.2]
    rw [hkeep] at hsettled ⊢
    exact h.shown hsettled

/-- What a pass over stock windows leaves on a framebuffer is what the next one would paint. -/
theorem shownOn_pass (hstock : m.Stocked) (old : Framebuffer) {after : Workspace α}
    (hbacking : after.compositor.backing = m.compositor.backing)
    (hwindows : after.registry.windows = m.registry.windows.map Window.refreshed) :
    after.ShownOn (Compositor.renderOnto (Compositor.clear m.compositor.backing old)
      m.registry.windows).value.1 := by
  have hpaint : ∀ w ∈ m.registry.windows, w.isVisible → w.PaintsOnly :=
    fun w hw _ => (hstock w hw).paintsOnly
  have hlayout := Compositor.sameLayout_renderOnto hpaint m.compositor.backing old
  intro px py hx hy
  rw [hlayout.width] at hx
  rw [hlayout.height] at hy
  rw [hbacking, hwindows, screenPixel_refreshed m.compositor.backing hstock px py]
  exact Compositor.get?_renderOnto hpaint m.compositor.backing old hx hy

/-- Composing a changed screen shows it. -/
theorem shownOn_compose_of_dirty (hstock : m.Stocked) (hdirty : m.compositor.dirty = true)
    {fb : Framebuffer} (hfb : m.compose.value.2.compositor.framebuffer = some fb) :
    m.compose.value.2.ShownOn fb := by
  cases hbefore : m.compositor.framebuffer with
  | none =>
    have hnone := Compositor.framebuffer_compose_of_none hbefore m.registry.windows
    exact absurd (hnone.symm.trans hfb) nofun
  | some old =>
    have hcompose := Compositor.compose_of_dirty hbefore hdirty m.registry.windows
    rw [value_compose, hcompose] at hfb ⊢
    cases hfb
    exact shownOn_pass hstock old rfl (Compositor.windows_renderOnto m.registry.windows _)

theorem stocked_compose (hstock : m.Stocked) : m.compose.value.2.Stocked := by
  intro w hw
  rw [value_compose] at hw
  rcases m.compositor.windows_compose m.registry.windows with hsame | hpass
  · exact hstock w (hsame ▸ hw)
  · rw [hpass] at hw
    obtain ⟨u, hu, rfl⟩ := List.mem_map.1 hw
    exact (hstock u hu).refreshed

/-- Composing a screen that is up to date and whose windows are not marked as changed shows it. -/
theorem UpToDate.shownOn_compose (h : m.UpToDate) (hquiet : m.Quiet) {fb : Framebuffer}
    (hfb : m.compose.value.2.compositor.framebuffer = some fb) : m.compose.value.2.ShownOn fb := by
  cases hdirty : m.compositor.dirty with
  | true => exact shownOn_compose_of_dirty h.stocked hdirty hfb
  | false =>
    have hcompose := Compositor.compose_of_clean hdirty m.registry.windows
    rw [value_compose, hcompose] at hfb ⊢
    exact h.shown ⟨hdirty, hquiet⟩ fb hfb

theorem UpToDate.compose (h : m.UpToDate) : m.compose.value.2.UpToDate := by
  refine ⟨stocked_compose h.stocked, fun hsettled fb hfb => ?_⟩
  cases hdirty : m.compositor.dirty with
  | true => exact shownOn_compose_of_dirty h.stocked hdirty hfb
  | false =>
    have hcompose := Compositor.compose_of_clean hdirty m.registry.windows
    rw [value_compose, hcompose] at hfb hsettled ⊢
    exact h.shown ⟨hdirty, hsettled.2⟩ fb hfb

theorem UpToDate.refresh (h : m.UpToDate) : m.refresh.value.2.UpToDate := by
  rw [refresh_eq]
  refine ⟨fun w hw => ?_, fun _ fb hfb => ?_⟩
  · obtain ⟨u, hu, rfl⟩ := List.mem_map.1 hw
    exact (h.stocked u hu).refreshed
  · cases hbefore : m.compositor.framebuffer with
    | none =>
      have hnone := Compositor.framebuffer_present_of_none hbefore
        (m.registry.windows.map Window.refreshed)
      exact absurd (hnone.symm.trans hfb) nofun
    | some old =>
      have hpresent := Compositor.present_of_some hbefore (m.registry.windows.map Window.refreshed)
      rw [Window.filter_refreshed h.stocked, ← Compositor.blended_renderOnto] at hpresent
      rw [hpresent] at hfb ⊢
      cases hfb
      exact shownOn_pass h.stocked old rfl rfl

/-- Every request keeps the screen up to date. -/
theorem UpToDate.serve (h : m.UpToDate) (r : Request) : (m.serve r).value.UpToDate := by
  cases r with
  | remove id => exact h.remove id
  | update ctx =>
    exact h.of_dirty_or_eq (stocked_update h.stocked ctx).1 (dirty_update_or_eq h.stocked ctx)
  | type code =>
    exact h.of_dirty_or_eq (stocked_type h.stocked code) (dirty_type_or_eq h.stocked code)
  | damage => exact .of_dirty (fun w hw => h.stocked w hw) rfl
  | compose => exact h.compose
  | refresh => exact h.refresh
  | closeAll =>
    change m.closeAll.value.UpToDate
    have hclosed := m.value_closeAll
    cases hempty : m.registry.windows with
    | nil =>
      have hsame : m.withWindows [] = m := by
        rw [← hempty]
        rfl
      rw [hclosed, hsame, hempty]
      exact h
    | cons w ws =>
      rw [hclosed, hempty]
      refine .of_dirty (fun u hu => ?_) (by simp)
      rw [registry_damageIf] at hu
      cases hu
  | attach fb => exact .of_dirty (fun w hw => h.stocked w hw) rfl
  | detach =>
    refine ⟨fun w hw => h.stocked w hw, fun _ fb hfb => ?_⟩
    change none = some fb at hfb
    cases hfb
  | setVisible id visible => exact h.modify id (fun w hw => hw) fun w => rfl
  | place id x y => exact h.modify id (fun w hw => hw) fun w => rfl

/-- A framebuffer shows what a pass that is forced upon the screen now leaves on it. -/
def ForcedOn (m : Workspace α) (fb : Framebuffer) : Prop :=
  ∃ forced, m.damage.compose.value.2.compositor.framebuffer = some forced ∧ fb.SameLayout forced ∧
    ∀ px py, forced.get? px py = fb.get? px py

/-- Where the screen shows what a pass would paint, a forced pass paints the same. -/
theorem ShownOn.forcedOn {fb : Framebuffer} (hshown : m.ShownOn fb) (hstock : m.Stocked)
    (hfb : m.compositor.framebuffer = some fb) : m.ForcedOn fb := by
  have hpaint : ∀ w ∈ m.registry.windows, w.isVisible → w.PaintsOnly :=
    fun w hw _ => (hstock w hw).paintsOnly
  have hlayout := Compositor.sameLayout_renderOnto hpaint m.compositor.backing fb
  have hcompose := Compositor.compose_of_dirty (c := m.compositor.damage) hfb rfl m.registry.windows
  refine ⟨(Compositor.renderOnto (Compositor.clear m.compositor.backing fb)
    m.registry.windows).value.1, ?_, hlayout, ?_⟩
  · rw [value_compose]
    exact congrArg (·.2.1.framebuffer) hcompose
  · refine hlayout.get?_congr fun px py hx hy => ?_
    rw [Compositor.get?_renderOnto hpaint m.compositor.backing fb hx hy, hshown px py hx hy]

theorem UpToDate.serveAll (h : m.UpToDate) (rs : List Request) :
    (m.serveAll rs).value.UpToDate := by
  induction rs generalizing m with
  | nil => exact h
  | cons r rs ih => exact ih (h.serve r)

/-- A fresh workspace has no window, and asks for the screen to be composed. -/
theorem upToDate_fresh (capacity : Nat) (backing : Surface) :
    (⟨.empty capacity, { backing }⟩ : Workspace α).UpToDate :=
  .of_dirty (fun _ hw => absurd hw List.not_mem_nil) rfl

end Workspace

namespace Bench

variable {α : Type} [WindowClient α]

/-- The screen is up to date, and the windows that wait are stock. -/
structure UpToDate (b : Bench α) : Prop where
  waiting : ∀ w ∈ b.waiting, w.IsStock
  workspace : b.workspace.UpToDate

/-- Every step that orders no driven window keeps a bench up to date. -/
theorem UpToDate.step {b : Bench α} (h : b.UpToDate) {s : Step α}
    (hs : ∀ heap o, s = .order heap o → o.client? = none) : (b.step s).2.UpToDate := by
  cases s with
  | order heap o =>
    have hmakes := o.makes_make heap b.shop
    rw [hs heap o rfl] at hmakes
    simp only [Bench.step]
    generalize (o.make heap b.shop).value = made at hmakes
    cases hmakes with
    | noMemory bytes => exact h
    | noNumber hnone => exact h
    | window w hid hclient hleft =>
      refine ⟨fun u hu => ?_, h.workspace⟩
      rcases List.mem_append.1 hu with hold | hnew
      · exact h.waiting u hold
      · rw [List.mem_singleton.1 hnew]
        exact hclient
  | hand k caller =>
    simp only [Bench.step]
    cases hk : b.waiting[k]? with
    | none => exact h
    | some w =>
      have hb : ({ b with
          waiting := b.waiting.eraseIdx k
          workspace := (b.workspace.add w caller).value.2 } : Bench α).UpToDate :=
        ⟨fun u hu => h.waiting u (List.mem_of_mem_eraseIdx hu),
          h.workspace.add (h.waiting w (List.mem_of_getElem? hk)) caller⟩
      dsimp only
      split <;> exact hb
  | request r => exact ⟨h.waiting, h.workspace.serve r⟩

theorem UpToDate.run {b : Bench α} (h : b.UpToDate) {steps : List (Step α)}
    (hs : ∀ heap o, .order heap o ∈ steps → o.client? = none) : (b.run steps).2.UpToDate := by
  induction steps generalizing b with
  | nil => exact h
  | cons s ss ih =>
    have hstep : (b.step s).2.UpToDate :=
      h.step fun heap o ho => hs heap o (ho ▸ List.mem_cons_self)
    exact ih hstep fun heap o ho => hs heap o (List.mem_cons_of_mem s ho)

end Bench

namespace Session

variable {α : Type} [WindowClient α] [ModuleClient α] [ProcessClient α]

/-- Every request that spawns no driven window keeps the screen of a session up to date. -/
theorem upToDate_serve {s : Session α} (h : s.workspace.UpToDate) {r : Request α}
    (hr : ∀ heap sp, r = .spawn heap sp → sp.order.client? = none) :
    (s.serve r).value.workspace.UpToDate := by
  by_cases hspawn : ∃ heap sp, r = .spawn heap sp
  · obtain ⟨heap, sp, rfl⟩ := hspawn
    rw [serve, Traced.value_map]
    rcases s.spawn_cases heap sp with ⟨e, -, hvalue, -⟩ | ⟨w, -, -, hclient, hvalue, -⟩
    · rw [hvalue]
      exact h
    · rw [hvalue]
      exact h.add (hclient.trans (hr heap sp rfl)) sp.caller
  · rw [(s.comes_serve hspawn).workspace]
    exact h.serveAll _

theorem upToDate_chronicle {s : Session α} (h : s.workspace.UpToDate) {rs : List (Request α)}
    (hrs : ∀ heap sp, .spawn heap sp ∈ rs → sp.order.client? = none) :
    (s.chronicle rs).session.workspace.UpToDate := by
  have hrun : ∀ c : Chronicle α, c.session.workspace.UpToDate →
      (rs.foldl Chronicle.extend c).session.workspace.UpToDate := by
    induction rs with
    | nil => exact fun c hc => hc
    | cons r rs ih =>
      intro c hc
      have hstep : (c.extend r).session.workspace.UpToDate :=
        upToDate_serve hc fun heap sp hsp => hrs heap sp (hsp ▸ List.mem_cons_self)
      exact ih (fun heap sp hsp => hrs heap sp (List.mem_cons_of_mem r hsp)) (c.extend r) hstep
  exact hrun _ h

/-- After a frame whose windows are stock, the framebuffer shows the screen as it is. -/
theorem shownOn_tick {s : Session α} (h : s.workspace.UpToDate) {now : Nat} {ctx : FrameContext}
    (hctx : (s.tick now).value.1 = some ctx) {fb : Framebuffer}
    (hfb : (s.tick now).value.2.workspace.compositor.framebuffer = some fb) :
    (s.tick now).value.2.workspace.ShownOn fb ∧ (s.tick now).value.2.workspace.Stocked := by
  cases hrunning : s.scheduler.running with
  | false =>
    rw [tick_of_stopped hrunning] at hctx
    cases hctx
  | true =>
    obtain ⟨ctx', -, -, hcomes⟩ := tick_of_running hrunning now
    -- an update leaves every flag of a window cleared, so only that of the screen counts
    have hspace : (s.tick now).value.2.workspace =
        (s.workspace.update ctx').value.2.compose.value.2 := hcomes.workspace
    have hquiet := (Workspace.stocked_update h.stocked ctx').2
    have hupdated : (s.workspace.update ctx').value.2.UpToDate := h.serve (.update ctx')
    rw [hspace] at hfb ⊢
    exact ⟨hupdated.shownOn_compose hquiet hfb, Workspace.stocked_compose hupdated.stocked⟩

end Session

/-- Over stock windows no screen is stale. Whatever is done at a bench: when a framebuffer is
attached and neither the screen nor a window is marked as changed, the framebuffer shows the windows
as they are, as a forced pass would. And in the course of a session that is the case after every
frame. -/
theorem no_stale_screen {α : Type} [WindowClient α] [ModuleClient α] [ProcessClient α] :
    (∀ (config : Config) (capacity : Nat) (backing : Surface) (steps : List (Bench.Step α)),
      (∀ heap o, .order heap o ∈ steps → o.client? = none) →
      let m := ((Bench.fresh config capacity backing).run steps).2.workspace
      ∀ fb, m.compositor.framebuffer = some fb → m.Settled → m.ShownOn fb ∧ m.ForcedOn fb) ∧
    (∀ (config : Config) (heap : Heap) (start : Nat) (s : Session α),
      (Session.create config heap start).value = .ok s →
      ∀ rs : List (Session.Request α),
      (∀ heap sp, .spawn heap sp ∈ rs → sp.order.client? = none) →
      ∀ now ctx, ((s.chronicle rs).session.tick now).value.1 = some ctx →
      let m := ((s.chronicle rs).session.tick now).value.2.workspace
      ∀ fb, m.compositor.framebuffer = some fb → m.ShownOn fb ∧ m.ForcedOn fb) := by
  constructor
  · intro config capacity backing steps hsteps m fb hfb hsettled
    have hfresh : (Bench.fresh config capacity backing : Bench α).UpToDate :=
      ⟨fun _ hw => absurd hw List.not_mem_nil, Workspace.upToDate_fresh capacity backing⟩
    have hrun := (hfresh.run hsteps).workspace
    have hshown := hrun.shown hsettled fb hfb
    exact ⟨hshown, hshown.forcedOn hrun.stocked hfb⟩
  · intro config heap start s hs rs hrs now ctx hctx m fb hfb
    obtain ⟨backing, rfl⟩ := Session.eq_atStart hs
    have hstart : (Session.atStart config start backing : Session α).workspace.UpToDate :=
      Workspace.upToDate_fresh _ backing
    obtain ⟨hshown, hstock⟩ := Session.shownOn_tick (Session.upToDate_chronicle hstart hrs) hctx hfb
    exact ⟨hshown, hshown.forcedOn hstock hfb⟩

/-- A black window of one pixel in front of a white desktop of one pixel, handed over at a bench and
opened in a session. -/
theorem no_stale_screen_black_window :
    let fb : Framebuffer := ⟨1, 1, 1, #[0], by decide, by decide⟩
    let place : Geometry := ⟨0, 0, 1, 1⟩
    let steps : List (Bench.Step Empty) :=
      [.order .ample (.placed .generic "w" place { visible := true }), .hand 0 "bench",
        .request (.attach fb), .request (.update ⟨1, 0, 0⟩), .request .compose]
    let m := ((Bench.fresh {} 1 (.filled 1 1 0xFFFFFFFF)).run steps).2.workspace
    let config : Config := { display := ⟨1, 1, .white⟩ }
    let rs : List (Session.Request Empty) :=
      [.spawn .ample (.windowAt .generic "w" place { visible := true }), .attach fb]
    (∃ shown, m.compositor.framebuffer = some shown ∧ m.Settled ∧ shown.get? 0 0 = some .black) ∧
      ∃ s, (Session.create config .ample 0).value = .ok s ∧
        ∃ shown, ((s.chronicle rs).session.tick 16).value.2.workspace.compositor.framebuffer =
          some shown ∧ shown.get? 0 0 = some .black := by
  intro fb place steps m config rs
  constructor
  · have hsteps : ∀ heap o, .order heap o ∈ steps → o.client? = none := by
      intro heap o ho
      simp only [steps, List.mem_cons, Bench.Step.order.injEq, reduceCtorEq, List.not_mem_nil,
        or_false] at ho
      rw [ho.2]
      rfl
    have hsettled : m.Settled := by
      unfold Workspace.Settled Workspace.Quiet
      decide +kernel
    have hsize : m.compositor.framebuffer.map (fun f => (f.width, f.height)) = some (1, 1) := by
      decide +kernel
    have hblack : screenPixel m.compositor.backing m.registry.windows 0 0 = .black := by
      decide +kernel
    obtain ⟨shown, hshown, hextent⟩ := Option.map_eq_some_iff.1 hsize
    obtain ⟨hwidth, hheight⟩ := Prod.mk.inj hextent
    have hpixels := ((no_stale_screen (α := Empty)).1 {} 1 _ steps hsteps shown hshown hsettled).1
    refine ⟨shown, hshown, hsettled, ?_⟩
    rw [hpixels 0 0 (by omega) (by omega), hblack]
  · let s : Session Empty := .atStart config 0 (.filled 1 1 Color.white.toPixel)
    have hs : (Session.create config .ample 0).value = .ok s := Session.create_of_has (by decide) 0
    have hrs : ∀ heap sp, .spawn heap sp ∈ rs → sp.order.client? = none := by
      intro heap sp hsp
      simp only [rs, List.mem_cons, Session.Request.spawn.injEq, reduceCtorEq, List.not_mem_nil,
        or_false] at hsp
      rw [hsp.2]
      rfl
    obtain ⟨ctx, -, hctx, -⟩ := Session.tick_of_running (s := (s.chronicle rs).session) rfl 16
    let after := ((s.chronicle rs).session.tick 16).value.2.workspace
    have hsize : after.compositor.framebuffer.map (fun f => (f.width, f.height)) = some (1, 1) := by
      decide +kernel
    have hblack : screenPixel after.compositor.backing after.registry.windows 0 0 = .black := by
      decide +kernel
    obtain ⟨shown, hshown, hextent⟩ := Option.map_eq_some_iff.1 hsize
    obtain ⟨hwidth, hheight⟩ := Prod.mk.inj hextent
    have hticked := (no_stale_screen (α := Empty)).2 config .ample 0 s hs rs hrs 16 ctx hctx shown
      hshown
    have hpixels := hticked.1
    refine ⟨s, hs, shown, hshown, ?_⟩
    rw [hpixels 0 0 (by omega) (by omega), hblack]

end TickDesktop
