import TickDesktop.Proofs.Deeds

/-!
# Refusals

An operation of a session is refused for one reason each: its table is full, the number that it is
given is not there, or the memory that a window needs is not to be had. Then the session stays as
it was, and the log is all that hears of it. The one exception is a window that finds the registry
full. By then it has been made, so its number is used up, and it is destroyed.
-/
namespace TickDesktop

variable {α β γ σ τ : Type}

/-- The entry hands a record to the log. -/
def Entry.isRecord : Entry α → Bool
  | record _ => true
  | _ => false

namespace Traced

/-- What an operation did besides handing records to the log. -/
def effects (x : Traced α β) : List (Entry α) := x.journal.filter (!·.isRecord)

@[simp] theorem effects_pure (b : β) : (pure b : Traced α β).effects = [] := rfl

@[simp] theorem effects_bind (x : Traced α β) (f : β → Traced α γ) :
    (x >>= f).effects = x.effects ++ (f x.value).effects := List.filter_append ..

@[simp] theorem effects_map (f : β → γ) (x : Traced α β) : (f <$> x).effects = x.effects := by
  simp [effects]

@[simp] theorem effects_log (l : Log.Level) (target text : String) :
    (log l target text : Traced α Unit).effects = [] := rfl

@[simp] theorem effects_tell_call (c : Call α) : (tell (.call c)).effects = [.call c] := rfl

/-- An operation on a state is refused with a fault just under a condition. Then it leaves the state
as it was and does nothing but write to the log. -/
structure RefusedIf (x : Traced α (Except Fault β × σ)) (s : σ) (cause : Prop) (fault : Fault) :
    Prop where
  refused : cause → x.value = (.error fault, s) ∧ x.effects = []
  granted : ¬ cause → ∃ b, x.value.1 = .ok b

namespace RefusedIf

variable {x : Traced α (Except Fault β × σ)} {s : σ} {cause : Prop} {fault : Fault}

/-- An operation on a part is refused as an operation on the whole. -/
theorem within (h : x.RefusedIf s cause fault) (f : σ → τ) :
    RefusedIf ((fun r => (r.1, f r.2)) <$> x) (f s) cause fault where
  refused hcause := by
    obtain ⟨hvalue, heffects⟩ := h.refused hcause
    rw [value_map, hvalue, effects_map]
    exact ⟨rfl, heffects⟩
  granted hcause := h.granted hcause

theorem congr {cause' : Prop} (h : x.RefusedIf s cause fault) (hcause : cause ↔ cause') :
    x.RefusedIf s cause' fault := by
  rwa [← propext hcause]

end RefusedIf

end Traced

open Traced

/-! ## The tables of the scheduler -/

namespace Scheduler

theorem refusedIf_addModule (s : Scheduler α) (name : String) (client : α) :
    (s.addModule name client).RefusedIf s (s.maxModules ≤ s.modules.length)
      (.moduleTableFull s.maxModules) := by
  constructor
  · intro hfull
    simp [addModule, hfull]
  · intro hroom
    exact ⟨(), by simp [addModule, hroom]⟩

theorem refusedIf_addProcess (s : Scheduler α) (priority : Priority) (client : α) :
    (s.addProcess priority client).RefusedIf s (s.maxProcesses ≤ s.processes.length)
      (.processTableFull s.maxProcesses) := by
  constructor
  · intro hfull
    simp [addProcess, hfull]
  · intro hroom
    exact ⟨s.processes.length, by simp [addProcess, hroom]⟩

theorem refusedIf_setState (s : Scheduler α) (pid : Nat) (state : ProcessState) :
    (s.setState pid state).RefusedIf s (s.processes[pid]? = none) (.processNotFound pid) := by
  constructor
  · intro hnone
    simp [setState, hnone]
  · intro hfound
    obtain ⟨p, hp⟩ := Option.ne_none_iff_exists'.1 hfound
    exact ⟨(), by rw [value_setState_of_some hp]⟩

/-- A slot is empty just if no process carries its number. -/
theorem Tidy.getElem?_eq_none_iff [ModuleClient α] [ProcessClient α] {c : Config.Scheduler}
    {s : Scheduler α} (h : s.Tidy c) (pid : Nat) :
    s.processes[pid]? = none ↔ ∀ p ∈ s.processes, p.pid ≠ pid := by
  constructor
  · rintro hnone p hp rfl
    obtain ⟨i, hi⟩ := List.getElem?_of_mem hp
    rw [← h.numbered i p hi, hnone] at hi
    cases hi
  · intro hne
    cases hp : s.processes[pid]? with
    | none => rfl
    | some p => exact absurd (h.numbered pid p hp) (hne p (List.mem_of_getElem? hp))

end Scheduler

/-! ## The registry -/

theorem Window.effects_destroy (w : Window α) :
    w.destroy.effects = [.call (.window w.id w.behavior.client? (.destroy w.pane.owner))] := by
  obtain ⟨id, archetype, pane, behavior⟩ := w
  cases behavior <;> simp [destroy, callEntry]

namespace Workspace

theorem refusedIf_remove (m : Workspace α) (id : WindowId) :
    (m.remove id).RefusedIf m (id ∉ m.ids) (.windowNotFound id) := by
  constructor
  · intro hgone
    have hget : m.registry.get? id = none := Registry.get?_eq_none_iff.2 hgone
    exact ⟨remove_of_not_mem hgone, by simp [remove, Registry.remove, hget]⟩
  · intro hopen
    exact ⟨(), by rw [remove_of_mem (Decidable.of_not_not hopen)]⟩

/-- A window that finds no room is destroyed in the name of the caller. -/
theorem effects_add_of_full {m : Workspace α} (h : m.registry.capacity ≤ m.ids.length)
    (w : Window α) (caller : String) : (m.add w caller).effects =
      [.call (.window w.id w.behavior.client? (.destroy (some caller)))] := by
  have hfull : m.registry.capacity ≤ m.registry.windows.length := by
    simpa [ids, Registry.ids] using h
  simp [add, Registry.add, Registry.isFull, Registry.size, hfull, Window.effects_destroy]

end Workspace

/-! ## The workshop -/

namespace Workshop

theorem effects_build (shop : Workshop) (heap : Heap) (archetype : Archetype) (title : String)
    (g : Geometry) (flags : WindowFlags) (background : Color) (behavior : Behavior α) :
    (shop.build heap archetype title g flags background behavior).effects = [] := by
  unfold build
  split
  · simp
  · split <;> simp

end Workshop

namespace Order

theorem effects_make (o : Order α) (heap : Heap) (shop : Workshop) :
    (o.make heap shop).effects = [] := by
  cases o with
  | plain archetype title flags => exact shop.effects_build ..
  | placed archetype title g flags => exact shop.effects_build ..
  | driven title g flags client => exact shop.effects_build ..
  | picture title flags image =>
    have hmake : (shop.make heap .splash title flags : Traced α _).effects = [] :=
      shop.effects_build ..
    exact (effects_bind _ _).trans (by rw [hmake]; rfl)

end Order

namespace Session

/-- An order that something stands in the way of leaves the session as it was. -/
theorem spawn_of_obstacle {s : Session α} {heap : Heap} {sp : Spawn α} {e : Fault}
    (h : s.workshop.obstacle? heap (sp.order.geometry s.workshop) = some e) :
    (s.spawn heap sp).value = (.error e, s) ∧ (s.spawn heap sp).effects = [] := by
  have hmade := (sp.order.make_eq_error_iff heap s.workshop).2 h
  rcases s.spawn_cases heap sp with ⟨e', hmade', hvalue, -⟩ | ⟨w, hmade', -⟩
  · obtain rfl : e = e' := Except.error.inj (hmade.symm.trans hmade')
    refine ⟨hvalue, ?_⟩
    rw [spawn_eq, effects_bind, sp.order.effects_make, adopt, hmade]
    rfl
  · rw [hmade] at hmade'
    cases hmade'

/-- Otherwise the next window is made and handed to the workspace. -/
theorem spawn_of_clear {s : Session α} {heap : Heap} {sp : Spawn α}
    (h : s.workshop.obstacle? heap (sp.order.geometry s.workshop) = none) :
    ∃ w : Window α, w.id = ⟨s.workshop.next⟩ ∧ w.behavior.client? = sp.order.client? ∧
      (s.spawn heap sp).value = ((s.workspace.add w sp.caller).value.1, { s with
        workspace := (s.workspace.add w sp.caller).value.2
        workshop.next := s.workshop.next + 1 }) ∧
      (s.spawn heap sp).effects = (s.workspace.add w sp.caller).effects := by
  rcases s.spawn_cases heap sp with ⟨e, hmade, -⟩ | ⟨w, hmade, hid, hclient, hvalue, -⟩
  · rw [(sp.order.make_eq_error_iff heap s.workshop).1 hmade] at h
    cases h
  · refine ⟨w, hid, hclient, hvalue, ?_⟩
    rw [spawn_eq, effects_bind, sp.order.effects_make, adopt, hmade]
    exact (effects_bind _ _).trans (List.append_nil _)

variable [WindowClient α] [ModuleClient α] [ProcessClient α]

/-- In every session of a configuration, an operation is refused just when its table is at the
capacity that the configuration says, when no process or window carries the number that it is given,
or when the memory for a window is not to be had, whichever requests are granted at that moment, as
long as there are numbers left. It names the capacity, the number or the memory, and leaves the
session as it was; nothing is called. Only a window that finds the registry full uses up its number,
and is called once, to be destroyed. -/
theorem refused_without_trace (config : Config) (s : Session α) (h : Reached config s) :
    (∀ name client, (s.addModule name client).RefusedIf s
        (s.scheduler.modules.length = config.scheduler.maxModules)
        (.moduleTableFull config.scheduler.maxModules)) ∧
      (∀ priority client, (s.addProcess priority client).RefusedIf s
        (s.scheduler.processes.length = config.scheduler.maxProcesses)
        (.processTableFull config.scheduler.maxProcesses)) ∧
      (∀ pid state, (s.scheduler.setState pid state).RefusedIf s.scheduler
        (∀ p ∈ s.scheduler.processes, p.pid ≠ pid) (.processNotFound pid)) ∧
      (∀ pid, (s.scheduler.stop pid).RefusedIf s.scheduler
        (∀ p ∈ s.scheduler.processes, p.pid ≠ pid) (.processNotFound pid)) ∧
      (∀ id, (s.close id).RefusedIf s (id ∉ s.workspace.ids) (.windowNotFound id)) ∧
      ∀ (heap : Heap) (sp : Spawn α),
        let g := sp.order.geometry s.workshop
        let bytes := 4 * (g.width * g.height)
        let opened := s.spawn heap sp
        (heap.has bytes = false →
          opened.value = (.error (.allocationFailed (min bytes 0xFFFFFFFFFFFFFFFF)), s) ∧
            opened.effects = []) ∧
          (heap.has bytes = true → Workshop.maxNumber < s.workshop.next →
            opened.value = (.error .idSpaceExhausted, s) ∧ opened.effects = []) ∧
          (heap.has bytes = true → s.workshop.next ≤ Workshop.maxNumber →
            (config.windows.maxWindows ≤ s.workspace.registry.size →
              opened.value = (.error (.registryFull config.windows.maxWindows),
                { s with workshop.next := s.workshop.next + 1 }) ∧
              opened.effects =
                [.call (.window ⟨s.workshop.next⟩ sp.order.client?
                  (.destroy (some sp.caller)))]) ∧
            (s.workspace.registry.size < config.windows.maxWindows →
              opened.value.1 = .ok ⟨s.workshop.next⟩)) := by
  refine ⟨fun name client => ?_, fun priority client => ?_, fun pid state => ?_, fun pid => ?_,
    fun id => ?_, fun heap sp => ?_⟩
  · have hfull : config.scheduler.maxModules ≤ s.scheduler.modules.length ↔
        s.scheduler.modules.length = config.scheduler.maxModules := by
      have hle := h.fits.scheduler.modules_le
      omega
    have hscheduler := s.scheduler.refusedIf_addModule name client
    rw [h.fits.scheduler.maxModules, hfull] at hscheduler
    exact hscheduler.within fun scheduler => { s with scheduler }
  · have hfull : config.scheduler.maxProcesses ≤ s.scheduler.processes.length ↔
        s.scheduler.processes.length = config.scheduler.maxProcesses := by
      have hle := h.fits.scheduler.processes_le
      omega
    have hscheduler := s.scheduler.refusedIf_addProcess priority client
    rw [h.fits.scheduler.maxProcesses, hfull] at hscheduler
    exact hscheduler.within fun scheduler => { s with scheduler }
  · exact (s.scheduler.refusedIf_setState pid state).congr
      (h.fits.scheduler.getElem?_eq_none_iff pid)
  · exact (s.scheduler.refusedIf_setState pid .stopped).congr
      (h.fits.scheduler.getElem?_eq_none_iff pid)
  · exact (s.workspace.refusedIf_remove id).within fun workspace => { s with workspace }
  · intro g bytes opened
    refine ⟨fun hlacks => ?_, fun hhas hnone => ?_, fun hhas hleft => ?_⟩
    · apply spawn_of_obstacle
      rw [Workshop.obstacle?, if_neg (Bool.not_eq_true _ ▸ hlacks)]
    · apply spawn_of_obstacle
      rw [Workshop.obstacle?, if_pos hhas, if_pos hnone]
    · have hclear : s.workshop.obstacle? heap g = none := by
        rw [Workshop.obstacle?, if_pos hhas, if_neg (Nat.not_lt.2 hleft)]
      obtain ⟨w, hid, hclient, hvalue, heffects⟩ := spawn_of_clear hclear
      have hsize : s.workspace.ids.length = s.workspace.registry.size := List.length_map ..
      rw [← h.fits.capacity, ← hsize]
      refine ⟨fun hfull => ⟨?_, ?_⟩, fun hroom => ?_⟩
      · exact hvalue.trans (by rw [Workspace.add_of_full hfull])
      · exact heffects.trans (by rw [Workspace.effects_add_of_full hfull, hid, hclient])
      · exact (congrArg Prod.fst hvalue).trans (by rw [Workspace.add_of_room hroom, hid])

/-- A session with one module, one process and one window, whose tables have no more room. A second
window is turned away. A third one needs more memory than can be asked for, and the memory for one
pixel is refused when it is used up. -/
theorem refused_without_trace_one_each :
    let config : Config := {
      display := ⟨1, 1, .white⟩
      scheduler := { maxModules := 1, maxProcesses := 1 }
      windows := { maxWindows := 1 } }
    let client : Routine := ⟨.all, []⟩
    let exhausted : Heap := ⟨fun _ => false⟩
    let ds : List (Deed Routine) := [.move (.request (.addModule "a" client)),
      .move (.schedule (.addProcess .normal client)),
      .move (.request (.spawn .ample (.windowAt .generic "v" ⟨0, 0, 1, 1⟩ {})))]
    ∃ start, (create config .ample 0).value = .ok start ∧
      let s := (start.enactAll ds).value
      (s.addModule "b" client).value = (.error (.moduleTableFull 1), s) ∧
      (s.addProcess .low client).value = (.error (.processTableFull 1), s) ∧
      (s.scheduler.stop 1).value = (.error (.processNotFound 1), s.scheduler) ∧
      (s.close ⟨2⟩).value = (.error (.windowNotFound ⟨2⟩), s) ∧
      (s.spawn .ample (.driven "w" ⟨0, 0, 1, 1⟩ {} client)).value =
        (.error (.registryFull 1), { s with workshop.next := 3 }) ∧
      (s.spawn .ample (.driven "w" ⟨0, 0, 1, 1⟩ {} client)).effects =
        [.call (.window ⟨2⟩ (some client) (.destroy (some "session")))] ∧
      (s.spawn .ample (.windowAt .generic "x" ⟨0, 0, 0x80000000, 0x80000000⟩ {})).value =
        (.error (.allocationFailed 0xFFFFFFFFFFFFFFFF), s) ∧
      (s.spawn exhausted (.windowAt .generic "x" ⟨0, 0, 1, 1⟩ {})).value =
        (.error (.allocationFailed 4), s) := by
  intro config client exhausted ds
  have hstart : (create config .ample 0 : Traced Routine _).value =
      .ok (atStart config 0 (.filled 1 1 Color.white.toPixel)) := create_of_has (by decide) 0
  refine ⟨_, hstart, ?_⟩
  intro s
  have hreached : Reached config s :=
    (Reached.created hstart).enactAll (by simp [ds, Deed.KeepsRoom])
  obtain ⟨hmodule, hprocess, -, hstop, hclose, hspawn⟩ := refused_without_trace config s hreached
  obtain ⟨-, -, hfull⟩ := hspawn .ample (.driven "w" ⟨0, 0, 1, 1⟩ {} client)
  obtain ⟨hlarge, -⟩ := hspawn .ample (.windowAt .generic "x" ⟨0, 0, 0x80000000, 0x80000000⟩ {})
  obtain ⟨hsmall, -⟩ := hspawn exhausted (.windowAt .generic "x" ⟨0, 0, 1, 1⟩ {})
  obtain ⟨hvalue, heffects⟩ := (hfull (by decide) (by decide)).1 (by decide)
  have hbytes : min (4 * (0x80000000 * 0x80000000)) 0xFFFFFFFFFFFFFFFF = 0xFFFFFFFFFFFFFFFF := by
    decide
  refine ⟨((hmodule "b" client).refused rfl).1, ((hprocess .low client).refused rfl).1,
    ((hstop 1).refused (by decide +kernel)).1, ((hclose ⟨2⟩).refused (by decide +kernel)).1, hvalue,
    heffects, ?_, (hsmall (by decide)).1⟩
  rw [← hbytes]
  exact (hlarge (by decide)).1

end Session

end TickDesktop
