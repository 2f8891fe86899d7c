import TickDesktop.Proofs.SessionMoves

/-!
# Deeds of a session

Whoever holds a session can have its workshop make a window and keep the window. Together with the
moves of the session this is all that can be done to it: its deeds. The sessions of a configuration
are those that come from one just created by deeds. All of them have tables of the capacities that
the configuration says, and a scheduler whose tables are within theirs.
-/
namespace TickDesktop

variable {α : Type}

theorem Workspace.capacity_add (m : Workspace α) (w : Window α) (caller : String) :
    (m.add w caller).value.2.registry.capacity = m.registry.capacity := by
  by_cases hroom : m.ids.length < m.registry.capacity
  · simp [add_of_room hroom, damage]
  · simp [add_of_full (Nat.le_of_not_lt hroom)]

namespace Session

/-- What can be done to a session: one of its moves, or an order to its workshop for a window that
is not registered, in the memory that there is by then. -/
inductive Deed (α : Type) where
  | move (m : Move α)
  | order (heap : Heap) (o : Order α)

namespace Deed

/-- What a deed passes on to the scheduler. -/
def scheduled : Deed α → List (Scheduler.Request α)
  | move m => m.scheduled
  | order _ _ => []

/-- The deed leaves the capacity of the workspace alone. -/
def KeepsRoom : Deed α → Prop
  | move (.rework f) => ∀ m : Workspace α, (f m).registry.capacity = m.registry.capacity
  | _ => True

end Deed

/-- The session has tables of the capacities that a configuration says. -/
structure Fits (config : Config) (s : Session α) : Prop where
  scheduler : s.scheduler.Tidy config.scheduler
  capacity : s.workspace.registry.capacity = config.windows.maxWindows

theorem capacity_spawn (s : Session α) (heap : Heap) (sp : Spawn α) :
    (s.spawn heap sp).value.2.workspace.registry.capacity = s.workspace.registry.capacity := by
  rcases s.spawn_cases heap sp with ⟨e, -, hvalue, -⟩ | ⟨w, -, -, -, hvalue, -⟩
  · rw [hvalue]
  · rw [hvalue]
    exact s.workspace.capacity_add w sp.caller

variable [WindowClient α] [ModuleClient α] [ProcessClient α]

/-- A session after a deed. -/
def enact (s : Session α) : Deed α → Traced α (Session α)
  | .move m => s.perform m
  | .order heap o => do
    let (_, workshop) ← o.make heap s.workshop
    return { s with workshop := workshop }

/-- A session after several deeds. -/
def enactAll (s : Session α) (ds : List (Deed α)) : Traced α (Session α) := ds.foldlM enact s

theorem schedules_enact (s : Session α) (d : Deed α) : s.Schedules (s.enact d) d.scheduled := by
  cases d with
  | move m => exact s.schedules_perform m
  | order heap o =>
    refine .of_windowsOnly rfl ?_
    exact (o.windowsOnly_make heap s.workshop).bind fun _ => Traced.windowsOnly_pure _

theorem schedules_enactAll (s : Session α) (ds : List (Deed α)) :
    s.Schedules (s.enactAll ds) (ds.flatMap (·.scheduled)) :=
  .foldlM schedules_enact s ds

/-- The sessions of a configuration. -/
inductive Reached (config : Config) : Session α → Prop where
  | created {heap : Heap} {now : Nat} {s : Session α}
      (hs : (create config heap now).value = .ok s) : Reached config s
  | enacted {s : Session α} (h : Reached config s) (d : Deed α) (hroom : d.KeepsRoom) :
      Reached config (s.enact d).value

/-- Every deed leaves the capacity of the workspace alone, a rework if it says so. -/
theorem capacity_enact (s : Session α) {d : Deed α} (hroom : d.KeepsRoom) :
    (s.enact d).value.workspace.registry.capacity = s.workspace.registry.capacity := by
  cases d with
  | order heap o => rfl
  | move m =>
    cases m with
    | request r =>
      by_cases hspawn : ∃ heap sp, r = .spawn heap sp
      · obtain ⟨heap, sp, rfl⟩ := hspawn
        exact s.capacity_spawn heap sp
      · have hcomes := s.comes_serve hspawn
        change (s.serve r).value.workspace.registry.capacity = _
        rw [hcomes.workspace, Workspace.capacity_serveAll]
    | schedule r => rfl
    | boot before left =>
      exact boot_keeps (s := s)
        (R := fun s' => s'.workspace.registry.capacity = s.workspace.registry.capacity)
        (fun s' heap sp hs' => (s'.capacity_spawn heap sp).trans hs') rfl before left
    | register w caller => exact s.workspace.capacity_add w caller
    | rework f => exact hroom s.workspace

namespace Fits

variable {config : Config} {s : Session α}

theorem enact (h : s.Fits config) {d : Deed α} (hroom : d.KeepsRoom) :
    (s.enact d).value.Fits config where
  scheduler := (s.schedules_enact d).scheduler ▸ (h.scheduler.serveAll d.scheduled).1
  capacity := (s.capacity_enact hroom).trans h.capacity

end Fits

namespace Reached

variable {config : Config} {s : Session α}

/-- Every session of a configuration has tables of the capacities that it says. -/
theorem fits (h : Reached config s) : s.Fits config := by
  induction h with
  | @created heap now s hs =>
    obtain ⟨backing, rfl⟩ := eq_atStart hs
    exact ⟨.create config.scheduler now, rfl⟩
  | enacted h d hroom ih => exact ih.enact hroom

theorem enactAll (h : Reached config s) {ds : List (Deed α)} (hroom : ∀ d ∈ ds, d.KeepsRoom) :
    Reached config (s.enactAll ds).value := by
  induction ds generalizing s with
  | nil => exact h
  | cons d ds ih =>
    rw [Session.enactAll, List.foldlM_cons]
    exact ih (h.enacted d (hroom d List.mem_cons_self))
      fun d' hd => hroom d' (List.mem_cons_of_mem d hd)

end Reached

end Session

end TickDesktop
