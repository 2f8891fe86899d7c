import TickDesktop.Proofs.Frames

/-!
# Runs of the scheduler

What can be asked of a scheduler is gathered as requests, so that a run of it is a list. Over every
run, the entries of the two tables keep their slots, a process keeps the number of its slot, and a
process that is not running is called by no request until one puts it into the running state.
-/
namespace TickDesktop

/-- The number of the process that is run, if the call runs one. -/
def Call.runs? {α : Type} : Call α → Option Nat
  | process pid _ _ _ => some pid
  | _ => none

/-- A client that makes the same calls whenever it is run, and stays what it is. -/
structure Routine where
  caps : Interests
  calls : List ControlCall

instance : ModuleClient Routine where
  caps := Routine.caps
  update r _ := r
  shutdown r := r
  handle r _ := r

instance : ProcessClient Routine where
  run r _ _ := (r, r.calls)

section Runs

variable {α β σ ρ : Type}

/-- What every step of a run keeps holds after the run, and what is true of the calls of every step
holds of all its calls. -/
theorem Traced.foldlM_keeps {f : σ → ρ → Traced α σ} {P : σ → Prop} {Q : Call α → Prop}
    {rs : List ρ}
    (hstep : ∀ r ∈ rs, ∀ s, P s → P (f s r).value ∧ ∀ c ∈ (f s r).calls, Q c)
    {s : σ} (hs : P s) :
    P (rs.foldlM f s).value ∧ ∀ c ∈ (rs.foldlM f s).calls, Q c := by
  induction rs generalizing s with
  | nil => exact ⟨hs, nofun⟩
  | cons r rs ih =>
    obtain ⟨hvalue, hcalls⟩ := hstep r List.mem_cons_self s hs
    obtain ⟨hvalues, hrest⟩ := ih (fun r' hr => hstep r' (List.mem_cons_of_mem r hr)) hvalue
    rw [List.foldlM_cons]
    refine ⟨hvalues, fun c hc => ?_⟩
    rw [Traced.calls_bind, List.mem_append] at hc
    exact hc.elim (hcalls c) (hrest c)

/-- Every entry of a list keeps its place in another one, up to a relation. -/
def KeepsPlaces (R : β → β → Prop) (old new : List β) : Prop :=
  ∀ (i : Nat) (b : β), old[i]? = some b → ∃ b', new[i]? = some b' ∧ R b b'

namespace KeepsPlaces

variable {R : β → β → Prop} {old mid new : List β}

theorem refl (hR : ∀ b, R b b) (old : List β) : KeepsPlaces R old old :=
  fun _ b hb => ⟨b, hb, hR b⟩

theorem trans (hR : ∀ {a b c}, R a b → R b c → R a c) (h : KeepsPlaces R old mid)
    (h' : KeepsPlaces R mid new) : KeepsPlaces R old new := by
  intro i a ha
  obtain ⟨b, hb, hab⟩ := h i a ha
  obtain ⟨c, hc, hbc⟩ := h' i b hb
  exact ⟨c, hc, hR hab hbc⟩

theorem map {f : β → β} (hf : ∀ b, R b (f b)) (old : List β) :
    KeepsPlaces R old (old.map f) := by
  intro i b hb
  refine ⟨f b, ?_, hf b⟩
  simp [hb]

theorem append (hR : ∀ b, R b b) (old added : List β) : KeepsPlaces R old (old ++ added) := by
  intro i b hb
  refine ⟨b, ?_, hR b⟩
  obtain ⟨hi, rfl⟩ := List.getElem?_eq_some_iff.1 hb
  simp [List.getElem?_append_left hi, hi]

theorem set (hR : ∀ b, R b b) {i : Nat} {b b' : β} (hb : old[i]? = some b) (hbb : R b b') :
    KeepsPlaces R old (old.set i b') := by
  intro j a ha
  obtain ⟨hj, -⟩ := List.getElem?_eq_some_iff.1 ha
  by_cases hij : i = j
  · subst j
    obtain rfl : b = a := Option.some.inj (hb.symm.trans ha)
    exact ⟨b', by simp [hj], hbb⟩
  · exact ⟨a, by simp [List.getElem?_set_ne hij, ha], hR a⟩

theorem length_le (h : KeepsPlaces R old new) : old.length ≤ new.length := by
  apply Nat.le_of_not_lt
  intro hlt
  obtain ⟨b', hb', -⟩ := h new.length old[new.length] (List.getElem?_eq_getElem hlt)
  simp at hb'

end KeepsPlaces

end Runs

namespace Scheduler

variable {α : Type}

/-- What can be asked of a scheduler. -/
inductive Request (α : Type) where
  | addModule (name : String) (client : α)
  | addProcess (priority : Priority) (client : α)
  | stop (pid : Nat)
  | setState (pid : Nat) (state : ProcessState)
  | dispatch (e : Event)
  | tick (now : Nat)
  | shutdown

/-- The state that a request puts a process into, if it names one. -/
def Request.puts? (pid : Nat) : Request α → Option ProcessState
  | stop i => if i = pid then some .stopped else none
  | setState i state => if i = pid then some state else none
  | _ => none

/-- The tables of a scheduler as they always are: within their capacities, and with every process in
the slot of its number. -/
structure Tidy (c : Config.Scheduler) (s : Scheduler α) : Prop where
  maxModules : s.maxModules = c.maxModules
  maxProcesses : s.maxProcesses = c.maxProcesses
  modules_le : s.modules.length ≤ c.maxModules
  processes_le : s.processes.length ≤ c.maxProcesses
  numbered : ∀ (i : Nat) (p : Process α), s.processes[i]? = some p → p.pid = i

namespace Tidy

variable {c : Config.Scheduler} {s : Scheduler α}

theorem create (c : Config.Scheduler) (now : Nat) :
    Tidy c (create c now : Traced α (Scheduler α)).value where
  maxModules := rfl
  maxProcesses := rfl
  modules_le := Nat.zero_le _
  processes_le := Nat.zero_le _
  numbered := nofun

end Tidy

variable [ModuleClient α] [ProcessClient α]

/-- A scheduler after a request. -/
def serve (s : Scheduler α) : Request α → Traced α (Scheduler α)
  | .addModule name client => (·.2) <$> s.addModule name client
  | .addProcess priority client => (·.2) <$> s.addProcess priority client
  | .stop pid => (·.2) <$> s.stop pid
  | .setState pid state => (·.2) <$> s.setState pid state
  | .dispatch e => (·.2) <$> s.dispatch e
  | .tick now => (·.2) <$> s.tick now
  | .shutdown => s.shutdown

/-- A scheduler after several requests. -/
def serveAll (s : Scheduler α) (rs : List (Request α)) : Traced α (Scheduler α) :=
  rs.foldlM serve s

theorem serveAll_cons (s : Scheduler α) (r : Request α) (rs : List (Request α)) :
    s.serveAll (r :: rs) = s.serve r >>= fun s => s.serveAll rs := by
  simp [serveAll]

theorem serveAll_append (s : Scheduler α) (rs more : List (Request α)) :
    s.serveAll (rs ++ more) = s.serveAll rs >>= fun s => s.serveAll more := by
  simp [serveAll]

theorem serveAll_singleton (s : Scheduler α) (r : Request α) : s.serveAll [r] = s.serve r := by
  simp [serveAll]

/-- What a request can make of the tables of a scheduler. -/
inductive Moves (s : Scheduler α) : Scheduler α → Prop where
  /-- The modules and processes went through calls. -/
  | call (clock : FrameClock) (running : Bool) (f : Module α → Module α)
      (hf : ∀ m : Module α, m.Becomes (f m))
      (g : Process α → Process α) (hg : ∀ p : Process α, p.Becomes (g p)) :
      Moves s { s with
        clock := clock
        running := running
        modules := s.modules.map f
        processes := s.processes.map g }
  | addModule (m : Module α) (hroom : s.modules.length < s.maxModules) :
      Moves s { s with modules := s.modules ++ [m] }
  | addProcess (priority : Priority) (client : α) (hroom : s.processes.length < s.maxProcesses) :
      Moves s { s with processes :=
        s.processes ++ [⟨s.processes.length, .running, priority, client⟩] }
  | setState (pid : Nat) (p : Process α) (hp : s.processes[pid]? = some p) (state : ProcessState) :
      Moves s { s with processes := s.processes.set pid { p with state := state } }

theorem Moves.stay (s : Scheduler α) : s.Moves s := by
  have hcall := Moves.call (s := s) s.clock s.running id Module.Becomes.refl id Process.Becomes.refl
  simpa using hcall

theorem moves_setState (s : Scheduler α) (pid : Nat) (state : ProcessState) :
    s.Moves (s.setState pid state).value.2 := by
  cases hp : s.processes[pid]? with
  | none =>
    rw [value_setState_of_none hp]
    exact .stay s
  | some p =>
    rw [value_setState_of_some hp]
    exact .setState pid p hp state

theorem moves_serve (s : Scheduler α) (r : Request α) : s.Moves (s.serve r).value := by
  cases r with
  | addModule name client =>
    rw [serve, Traced.value_map, value_addModule]
    split
    · exact .stay s
    · exact .addModule ⟨name, client⟩ (by omega)
  | addProcess priority client =>
    rw [serve, Traced.value_map, value_addProcess]
    split
    · exact .stay s
    · exact .addProcess priority client (by omega)
  | stop pid => exact s.moves_setState pid .stopped
  | setState pid state => exact s.moves_setState pid state
  | dispatch e =>
    rw [serve, Traced.value_map, value_dispatch]
    have hcall := Moves.call (s := s) s.clock s.running (fun m => (m.handle e).value)
      (fun m => m.becomes_handle e) id Process.Becomes.refl
    simpa using hcall
  | tick now =>
    rw [serve, Traced.value_map]
    cases h : s.running with
    | false =>
      rw [tick_of_stopped h]
      exact .stay s
    | true =>
      rw [value_tick_of_running h]
      exact .call _ _ _ (fun m => m.becomes_update _) _ fun p => becomes_runProcess p _
  | shutdown =>
    rw [serve]
    cases h : s.running with
    | false =>
      rw [shutdown_of_stopped h]
      exact .stay s
    | true =>
      have hf (m : Module α) : m.Becomes (m.shutdown.value.handle .shutdown).value :=
        m.becomes_shutdown.trans (Module.becomes_handle _ _)
      have hcall := Moves.call (s := s) s.clock false _ hf id Process.Becomes.refl
      rw [value_shutdown_of_running h, List.map_map]
      simpa [Function.comp_def] using hcall

namespace Moves

variable {s s' : Scheduler α}

theorem keepsModules (h : s.Moves s') : KeepsPlaces Module.Becomes s.modules s'.modules := by
  cases h with
  | call clock running f hf g hg => exact .map hf s.modules
  | addModule m hroom => exact .append Module.Becomes.refl s.modules [m]
  | addProcess priority client hroom => exact .refl Module.Becomes.refl s.modules
  | setState pid p hp state => exact .refl Module.Becomes.refl s.modules

theorem keepsProcesses (h : s.Moves s') :
    KeepsPlaces Process.Becomes s.processes s'.processes := by
  cases h with
  | call clock running f hf g hg => exact .map hg s.processes
  | addModule m hroom => exact .refl Process.Becomes.refl s.processes
  | addProcess priority client hroom => exact .append Process.Becomes.refl s.processes _
  | setState pid p hp state => exact .set Process.Becomes.refl hp ⟨rfl, rfl, .refl⟩

end Moves

namespace Tidy

theorem move {c : Config.Scheduler} {s s' : Scheduler α} (h : s.Tidy c) (hmove : s.Moves s') :
    s'.Tidy c := by
  have hmodules := h.modules_le
  have hprocesses := h.processes_le
  cases hmove with
  | call clock running f hf g hg =>
    refine ⟨h.maxModules, h.maxProcesses, by simpa, by simpa, fun i p hp => ?_⟩
    rw [List.getElem?_map, Option.map_eq_some_iff] at hp
    obtain ⟨q, hq, rfl⟩ := hp
    exact (hg q).pid.trans (h.numbered i q hq)
  | addModule m hroom =>
    rw [h.maxModules] at hroom
    exact ⟨h.maxModules, h.maxProcesses, by simp; omega, hprocesses, h.numbered⟩
  | addProcess priority client hroom =>
    rw [h.maxProcesses] at hroom
    refine ⟨h.maxModules, h.maxProcesses, hmodules, by simp; omega, fun i p hp => ?_⟩
    by_cases hi : i < s.processes.length
    · rw [List.getElem?_append_left hi] at hp
      exact h.numbered i p hp
    · rw [List.getElem?_append_right (by omega), List.getElem?_singleton] at hp
      split at hp
      · obtain rfl := Option.some.inj hp
        change s.processes.length = i
        omega
      · cases hp
  | setState pid q hq state =>
    refine ⟨h.maxModules, h.maxProcesses, hmodules, by simpa, fun i p hp => ?_⟩
    by_cases hi : pid = i
    · subst i
      obtain ⟨hlt, -⟩ := List.getElem?_eq_some_iff.1 hq
      rw [List.getElem?_set_self hlt] at hp
      obtain rfl := Option.some.inj hp
      exact h.numbered pid q hq
    · rw [List.getElem?_set_ne hi] at hp
      exact h.numbered i p hp

end Tidy

/-- A frame runs a process only if it is running. -/
theorem Tidy.state?_of_runs {c : Config.Scheduler} {s : Scheduler α} (h : s.Tidy c) {now pid : Nat}
    {call : Call α} (hcall : call ∈ (s.tick now).calls) (hruns : call.runs? = some pid) :
    s.state? pid = some .running := by
  cases hrunning : s.running with
  | false => simp [tick_of_stopped hrunning] at hcall
  | true =>
    rw [calls_tick_of_running hrunning, List.mem_append] at hcall
    rcases hcall with hmodule | hprocess
    · obtain ⟨m, -, rfl⟩ := List.mem_map.1 hmodule
      cases hruns
    · obtain ⟨p, hp, rfl⟩ := List.mem_map.1 hprocess
      obtain ⟨hmem, hstate⟩ := List.mem_filter.1 hp
      obtain ⟨i, hi⟩ := List.getElem?_of_mem hmem
      -- the process stands in the slot of its number
      obtain rfl : i = pid := (h.numbered i p hi).symm.trans (Option.some.inj hruns)
      simpa [state?, hi] using hstate

/-- A process that is not running is called by no request, and changes its state only if the request
puts it into one. -/
theorem Tidy.idle_serve {c : Config.Scheduler} {s : Scheduler α} (h : s.Tidy c) {pid : Nat}
    {state : ProcessState} (hstate : s.state? pid = some state) (hidle : state ≠ .running)
    (r : Request α) :
    (s.serve r).value.state? pid = some ((r.puts? pid).getD state) ∧
      ∀ call ∈ (s.serve r).calls, call.runs? ≠ some pid := by
  cases r with
  | addModule name client =>
    refine ⟨?_, by simp [serve, calls_addModule]⟩
    rw [serve, Traced.value_map, value_addModule]
    split <;> exact hstate
  | addProcess priority client =>
    exact ⟨state?_addProcess hstate priority client, by simp [serve, calls_addProcess]⟩
  | stop i =>
    refine ⟨(state?_setState hstate i .stopped).trans ?_, by simp [serve, stop, calls_setState]⟩
    by_cases hi : i = pid <;> simp [Request.puts?, hi]
  | setState i state' =>
    refine ⟨(state?_setState hstate i state').trans ?_, by simp [serve, calls_setState]⟩
    by_cases hi : i = pid <;> simp [Request.puts?, hi]
  | dispatch e =>
    refine ⟨by simpa [serve, value_dispatch, Request.puts?, state?] using hstate, ?_⟩
    intro call hcall
    rw [serve, Traced.calls_map, calls_dispatch] at hcall
    obtain ⟨m, -, rfl⟩ := List.mem_map.1 hcall
    simp [Call.runs?]
  | tick now =>
    refine ⟨?_, fun call hcall hruns => ?_⟩
    · rw [serve, Traced.value_map]
      cases hrunning : s.running with
      | false => simpa [tick_of_stopped hrunning, Request.puts?] using hstate
      | true =>
        obtain ⟨p, hp, rfl⟩ := Option.map_eq_some_iff.1 hstate
        simp [state?_tick hrunning, hp, Process.stateAfter, hidle, Request.puts?]
    · rw [serve, Traced.calls_map] at hcall
      have hrunning := h.state?_of_runs hcall hruns
      rw [hstate] at hrunning
      exact hidle (Option.some.inj hrunning)
  | shutdown =>
    refine ⟨by simpa [serve, state?, processes_shutdown, Request.puts?] using hstate, ?_⟩
    rw [serve]
    cases hrunning : s.running with
    | false => simp [shutdown_of_stopped hrunning]
    | true =>
      intro call hcall
      rw [calls_shutdown_of_running hrunning, List.mem_append] at hcall
      rcases hcall with hend | hevent
      · obtain ⟨m, -, rfl⟩ := List.mem_map.1 hend
        simp [Call.runs?]
      · obtain ⟨m, -, rfl⟩ := List.mem_map.1 hevent
        simp [Call.runs?]

/-! ## The laws of a run -/

/-- Only a shutdown ends the running of a scheduler, and nothing brings it back. -/
theorem running_serve (s : Scheduler α) (r : Request α) :
    (s.serve r).value.running = true ↔ s.running = true ∧ r ≠ .shutdown := by
  cases r with
  | addModule name client =>
    rw [serve, Traced.value_map, value_addModule]
    split <;> simp
  | addProcess priority client =>
    rw [serve, Traced.value_map, value_addProcess]
    split <;> simp
  | stop pid =>
    rw [serve, Traced.value_map, stop]
    cases hp : s.processes[pid]? with
    | none => simp [value_setState_of_none hp]
    | some p => simp [value_setState_of_some hp]
  | setState pid state =>
    rw [serve, Traced.value_map]
    cases hp : s.processes[pid]? with
    | none => simp [value_setState_of_none hp]
    | some p => simp [value_setState_of_some hp]
  | dispatch e => simp [serve, value_dispatch]
  | tick now =>
    rw [serve, Traced.value_map]
    cases h : s.running with
    | false => simp [tick_of_stopped h, h]
    | true => simp [value_tick_of_running h, h]
  | shutdown =>
    rw [serve]
    cases h : s.running with
    | false => simp [shutdown_of_stopped h, h]
    | true => simp [value_shutdown_of_running h]

theorem running_serveAll (s : Scheduler α) (rs : List (Request α)) :
    (s.serveAll rs).value.running = true ↔ s.running = true ∧ .shutdown ∉ rs := by
  induction rs generalizing s with
  | nil => simp [serveAll]
  | cons r rs ih =>
    rw [serveAll_cons, Traced.value_bind, ih, running_serve, List.mem_cons, not_or, and_assoc,
      ne_comm]

/-- A run moves the tables by one request after the other. -/
theorem Tidy.serveAll {c : Config.Scheduler} {s : Scheduler α} (h : s.Tidy c)
    (rs : List (Request α)) :
    (s.serveAll rs).value.Tidy c ∧
      KeepsPlaces Module.Becomes s.modules (s.serveAll rs).value.modules ∧
      KeepsPlaces Process.Becomes s.processes (s.serveAll rs).value.processes := by
  have hstep (r : Request α) (hr : r ∈ rs) (s' : Scheduler α)
      (h' : s'.Tidy c ∧ KeepsPlaces Module.Becomes s.modules s'.modules ∧
        KeepsPlaces Process.Becomes s.processes s'.processes) :
      ((s'.serve r).value.Tidy c ∧
        KeepsPlaces Module.Becomes s.modules (s'.serve r).value.modules ∧
        KeepsPlaces Process.Becomes s.processes (s'.serve r).value.processes) ∧
      ∀ call ∈ (s'.serve r).calls, True := by
    obtain ⟨htidy, hmodules, hprocesses⟩ := h'
    have hmoves := s'.moves_serve r
    refine ⟨⟨htidy.move hmoves, ?_, ?_⟩, fun _ _ => trivial⟩
    · exact hmodules.trans Module.Becomes.trans hmoves.keepsModules
    · exact hprocesses.trans Process.Becomes.trans hmoves.keepsProcesses
  exact (Traced.foldlM_keeps hstep
    ⟨h, .refl Module.Becomes.refl s.modules, .refl Process.Becomes.refl s.processes⟩).1

/-- A process that is not running stays in the states that requests put it into, and is not called,
as long as none of these is the running state. -/
theorem Tidy.idle_serveAll {c : Config.Scheduler} {s : Scheduler α} (h : s.Tidy c) {pid : Nat}
    (among : ProcessState → Prop) (hidle : ¬ among .running)
    (hstate : ∃ state, s.state? pid = some state ∧ among state) (rs : List (Request α))
    (hrs : ∀ r ∈ rs, ∀ state, r.puts? pid = some state → among state) :
    (∃ state, (s.serveAll rs).value.state? pid = some state ∧ among state) ∧
      ∀ call ∈ (s.serveAll rs).calls, call.runs? ≠ some pid := by
  have hstep (r : Request α) (hr : r ∈ rs) (s' : Scheduler α)
      (h' : s'.Tidy c ∧ ∃ state, s'.state? pid = some state ∧ among state) :
      ((s'.serve r).value.Tidy c ∧
        ∃ state, (s'.serve r).value.state? pid = some state ∧ among state) ∧
      ∀ call ∈ (s'.serve r).calls, call.runs? ≠ some pid := by
    obtain ⟨htidy, state, hstate, hamong⟩ := h'
    obtain ⟨hafter, hcalls⟩ := htidy.idle_serve hstate (fun heq => hidle (heq ▸ hamong)) r
    refine ⟨⟨htidy.move (s'.moves_serve r), _, hafter, ?_⟩, hcalls⟩
    cases hputs : r.puts? pid with
    | none => exact hamong
    | some state' => exact hrs r hr state' hputs
  obtain ⟨⟨-, hend⟩, hcalls⟩ := Traced.foldlM_keeps hstep ⟨h, hstate⟩
  exact ⟨hend, hcalls⟩

end Scheduler

end TickDesktop
