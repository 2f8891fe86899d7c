import TickDesktop.Proofs.Numbering
import TickDesktop.Proofs.Settling
import TickDesktop.Proofs.WindowOrigins

/-!
# Windows by their number

What a frame does to the windows with one number, and how it calls them, does not depend on the
other windows: each is called once to update, and as many of them as asked for it are destroyed, the
oldest first. A number without a window is never called. On a bench a number has at most one window.
-/
namespace TickDesktop

section Lists

variable {β : Type} {p q : β → Bool}

theorem filter_eraseP_self (p : β → Bool) (bs : List β) :
    (bs.eraseP p).filter p = (bs.filter p).tail := by
  induction bs with
  | nil => rfl
  | cons b bs ih => by_cases hb : p b <;> simp [hb, ih]

theorem filter_eraseP_of_disjoint (h : ∀ b, q b = true → p b = false) (bs : List β) :
    (bs.eraseP q).filter p = bs.filter p := by
  induction bs with
  | nil => rfl
  | cons b bs ih =>
    by_cases hb : q b
    · simp [hb, h b hb]
    · simp [hb, List.filter_cons, ih]

end Lists

namespace Workspace

variable {α : Type}

/-- The windows with a number, the oldest first. -/
def named (m : Workspace α) (id : WindowId) : List (Window α) :=
  m.registry.windows.filter (·.id = id)

theorem named_eq_nil_iff {m : Workspace α} {id : WindowId} : m.named id = [] ↔ id ∉ m.ids := by
  simp [named, ids, Registry.ids]

/-- Over distinct numbers every window is alone with its number. -/
theorem named_of_nodup {m : Workspace α} (h : m.ids.Nodup) {w : Window α}
    (hw : w ∈ m.registry.windows) : m.named w.id = [w] := filter_id_eq_singleton h hw

@[simp] theorem named_damageIf (m : Workspace α) (b : Bool) (id : WindowId) :
    (m.damageIf b).named id = m.named id := by
  simp [named]

/-- Taking out a number takes out the oldest window with it. -/
theorem named_without (m : Workspace α) (id i : WindowId) :
    (m.without id).named i = if id = i then (m.named i).tail else m.named i := by
  split
  · next heq =>
    subst heq
    exact filter_eraseP_self _ _
  · next hne =>
    apply filter_eraseP_of_disjoint
    intro w hw
    simp_all

theorem named_remove (m : Workspace α) (id i : WindowId) :
    (m.remove id).value.2.named i = if id = i then (m.named i).tail else m.named i := by
  rw [remove_eq, named_damageIf, named_without]

theorem named_withoutAll (m : Workspace α) (gone : List WindowId) (i : WindowId) :
    (m.withoutAll gone).named i = (m.named i).drop (gone.count i) := by
  induction gone generalizing m with
  | nil => rfl
  | cons id gone ih =>
    change ((m.without id).withoutAll gone).named i = _
    rw [ih, named_without]
    by_cases heq : id = i
    · simp [heq]
    · simp [heq]

theorem take_one_named (m : Workspace α) (id : WindowId) :
    (m.named id).take 1 = (m.registry.get? id).toList := by
  rw [List.take_one, named, List.head?_filter]
  rfl

/-- A sweep destroys as many windows with a number as it names it. -/
theorem callsTo_sweep (m : Workspace α) (gone : List WindowId) (i : WindowId) :
    callsTo i (m.sweep gone).journal =
      ((m.named i).take (gone.count i)).map (.destroy ·.pane.owner) := by
  induction gone generalizing m with
  | nil => simp [sweep]
  | cons id gone ih =>
    have hrest : callsTo i (m.sweep (id :: gone)).journal = callsTo i (m.remove id).journal ++
        callsTo i ((m.remove id).value.2.sweep gone).journal := by
      rw [sweep, Traced.journal_bind, callsTo_append]
      generalize (m.remove id).value = answer
      obtain ⟨removed, m'⟩ := answer
      cases removed with
      | ok u => rfl
      | error e => simp [callsTo_cons, Entry.callTo?]
    rw [hrest, callsTo_remove, ← take_one_named, ih, named_remove]
    by_cases heq : id = i
    · subst heq
      cases m.named id <;> simp
    · simp [heq]

variable [WindowClient α]

theorem named_framed (m : Workspace α) (ctx : FrameContext) (i : WindowId) :
    (m.framed ctx).named i = (m.named i).map fun w => (w.updated ctx).clean := by
  rw [named, registry_framed, List.filter_map]
  rfl

theorem count_doomed (m : Workspace α) (ctx : FrameContext) (i : WindowId) :
    (m.doomed ctx).count i = (m.named i).countP (·.verdict ctx = .destroy) := by
  rw [doomed, List.count, List.countP_map, named, List.countP_filter, List.countP_filter]
  simp only [Function.comp_apply, Bool.and_comm]
  rfl

/-- A frame keeps the windows with a number but for the oldest ones, as many as ask to go. -/
theorem named_update (m : Workspace α) (ctx : FrameContext) (i : WindowId) :
    (m.update ctx).value.2.named i = ((m.named i).map fun w => (w.updated ctx).clean).drop
      ((m.named i).countP (·.verdict ctx = .destroy)) := by
  rw [value_update, named_damageIf, named_withoutAll, named_framed, count_doomed]

/-- A frame updates each window with a number and destroys the oldest ones, as many as ask to go. -/
theorem callsTo_update (m : Workspace α) (ctx : FrameContext) (i : WindowId) :
    callsTo i (m.update ctx).journal = (m.named i).map (fun _ => .update ctx) ++
      (((m.named i).map fun w => (w.updated ctx).clean).take
        ((m.named i).countP (·.verdict ctx = .destroy))).map (.destroy ·.pane.owner) := by
  have hpass (ws : List (Window α)) :
      callsTo i (ws.flatMap fun w => [w.callEntry (.update ctx)]) =
        (ws.filter (·.id = i)).map fun _ => .update ctx := by
    induction ws with
    | nil => rfl
    | cons w ws ih =>
      rw [List.flatMap_cons, callsTo_append, ih]
      by_cases hid : w.id = i <;> simp [callsTo_cons, hid]
  rw [update_eq, callsTo_append, hpass, callsTo_sweep, named_framed, count_doomed]
  rfl

/-- A number without a window stays so, and is not called. -/
theorem not_mem_serve {m : Workspace α} {id : WindowId} (h : id ∉ m.ids) (r : Request) :
    id ∉ (m.serve r).value.ids ∧ callsTo id (m.serve r).journal = [] := by
  have hnone : m.named id = [] := named_eq_nil_iff.2 h
  constructor
  · intro hmem
    obtain ⟨w', hw', rfl⟩ := List.mem_map.1 hmem
    obtain ⟨w, hw, hgoes⟩ := origin_serve hw'
    exact h (List.mem_map.2 ⟨w, hw, hgoes.id_eq.symm⟩)
  · cases r with
    | remove i =>
      rw [serve, Traced.journal_map, callsTo_remove, ← take_one_named]
      split
      · next heq => simp [heq, hnone]
      · rfl
    | update ctx =>
      rw [serve, Traced.journal_map, callsTo_update]
      simp [hnone]
    | type code =>
      rw [serve, Traced.journal_map]
      exact (m.settles_type code).foreign id h
    | compose =>
      rw [serve, Traced.journal_map]
      exact m.settles_compose.foreign id h
    | refresh =>
      rw [serve, Traced.journal_map]
      exact m.settles_refresh.foreign id h
    | closeAll =>
      rw [serve, callsTo_closeAll, List.filter_reverse]
      exact congrArg (List.map _ ·.reverse) hnone
    | _ => rfl

/-- A request, or the registration of a window for a caller. -/
inductive Command (α : Type) where
  | request (r : Request)
  | register (w : Window α) (caller : String)

/-- A workspace after a command. -/
def obey (m : Workspace α) : Command α → Traced α (Workspace α)
  | .request r => m.serve r
  | .register w caller => (·.2) <$> m.add w caller

/-- A workspace after several commands. -/
def obeyAll (m : Workspace α) : List (Command α) → Traced α (Workspace α)
  | [] => pure m
  | c :: cs => do
    let m ← m.obey c
    m.obeyAll cs

theorem obeyAll_request (m : Workspace α) (rs : List Request) :
    m.obeyAll (rs.map .request) = m.serveAll rs := by
  induction rs generalizing m with
  | nil => rfl
  | cons r rs ih => simp [obeyAll, serveAll, obey, ih]

/-- A number without a window is not called until a window with that number is registered. -/
theorem not_mem_obey {m : Workspace α} {id : WindowId} (h : id ∉ m.ids) {c : Command α}
    (hc : ∀ w caller, c = .register w caller → w.id ≠ id) :
    id ∉ (m.obey c).value.ids ∧ callsTo id (m.obey c).journal = [] := by
  cases c with
  | request r => exact not_mem_serve h r
  | register w caller =>
    have hne : w.id ≠ id := hc w caller rfl
    constructor
    · intro hmem
      obtain ⟨w', hw', rfl⟩ := List.mem_map.1 hmem
      rcases mem_add hw' with hold | rfl
      · exact h (List.mem_map.2 ⟨w', hold, rfl⟩)
      · exact hne rfl
    · rw [obey, Traced.journal_map]
      by_cases hroom : m.ids.length < m.registry.capacity
      · exact callsTo_add_of_room hroom w caller id
      · rw [callsTo_add_of_full (Nat.le_of_not_lt hroom), if_neg hne]

theorem not_mem_obeyAll {m : Workspace α} {id : WindowId} (h : id ∉ m.ids)
    {cs : List (Command α)} (hcs : ∀ w caller, .register w caller ∈ cs → w.id ≠ id) :
    id ∉ (m.obeyAll cs).value.ids ∧ callsTo id (m.obeyAll cs).journal = [] := by
  induction cs generalizing m with
  | nil => exact ⟨h, rfl⟩
  | cons c cs ih =>
    have hc (w : Window α) (caller : String) (heq : c = .register w caller) : w.id ≠ id :=
      hcs w caller (by simp [heq])
    obtain ⟨hgone, hsilent⟩ := not_mem_obey h hc
    obtain ⟨hstill, hrest⟩ := ih hgone fun w caller hmem => hcs w caller (by simp [hmem])
    refine ⟨hstill, ?_⟩
    rw [obeyAll, Traced.journal_bind, callsTo_append, hsilent, hrest]
    rfl

theorem not_mem_serveAll {m : Workspace α} {id : WindowId} (h : id ∉ m.ids) (rs : List Request) :
    id ∉ (m.serveAll rs).value.ids ∧ callsTo id (m.serveAll rs).journal = [] := by
  rw [← obeyAll_request]
  exact not_mem_obeyAll h (by simp)

end Workspace

/-- Over every run at a bench, each window is alone with its number. -/
theorem Bench.named_run {α : Type} [WindowClient α] (config : Config) (capacity : Nat)
    (backing : Surface) (steps : List (Bench.Step α)) {w : Window α}
    (hw : w ∈ ((Bench.fresh config capacity backing).run steps).2.workspace.registry.windows) :
    ((Bench.fresh config capacity backing).run steps).2.workspace.named w.id = [w] := by
  have hstart : (Bench.fresh config capacity backing : Bench α).ledger.Sound :=
    Ledger.sound_fresh capacity
  have hsound := hstart.replay (Bench.replay_run _ hstart steps)
  exact Workspace.named_of_nodup (List.nodup_append.1 hsound.distinct).2.1 hw

end TickDesktop
