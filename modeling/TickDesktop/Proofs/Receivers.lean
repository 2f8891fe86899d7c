import TickDesktop.Proofs.SchedulerRun

/-!
# Receivers of an event

An event for one name is compared with the name of each module in turn, so it reaches every module
that takes events and was registered under that name. The names in the table are those that were
asked for, in order, until the table is full: none is turned down because it is taken. So there is
a single receiver as long as no two modules that take events share their name, and not otherwise.
-/
namespace TickDesktop

/-- Cutting a list first changes nothing when more is put behind it and all of it is cut. -/
theorem take_take_append {β : Type} (k : Nat) (xs ys : List β) :
    (xs.take k ++ ys).take k = (xs ++ ys).take k := by
  have hrest : k - min k xs.length = k - xs.length := by omega
  rw [List.take_append, List.take_append, List.take_take, Nat.min_self, List.length_take, hrest]

/-- The module takes events and is registered under the name. -/
def Module.answersTo {α : Type} [ModuleClient α] (m : Module α) (name : String) : Bool :=
  (ModuleClient.caps m.client).events && m.name = name

theorem Module.answersTo_iff {α : Type} [ModuleClient α] {m : Module α} {name : String} :
    m.answersTo name = true ↔ (ModuleClient.caps m.client).events = true ∧ m.name = name := by
  rw [answersTo, Bool.and_eq_true, decide_eq_true_iff]

namespace Scheduler

variable {α : Type}

/-- The name that a request asks to register a module under. -/
def Request.registers? : Request α → Option String
  | addModule name _ => some name
  | _ => none

theorem moduleNames_setState (s : Scheduler α) (pid : Nat) (state : ProcessState) :
    (s.setState pid state).value.2.moduleNames = s.moduleNames := by
  unfold setState
  split <;> rfl

variable [ModuleClient α]

/-- The names under which modules take events, in order. -/
def addresses (s : Scheduler α) : List String :=
  (s.modules.filter fun m => (ModuleClient.caps m.client).events).map (·.name)

theorem addresses_sublist (s : Scheduler α) : s.addresses.Sublist s.moduleNames :=
  List.filter_sublist.map _

theorem map_name_map {f : Module α → Module α} (hf : ∀ m : Module α, m.Becomes (f m))
    (ms : List (Module α)) : (ms.map f).map (·.name) = ms.map (·.name) := by
  rw [List.map_map]
  exact List.map_congr_left fun m _ => (hf m).name

/-- An event for a name is received by the modules that answer to it. -/
theorem receives_of_target {e : Event} {name : String} (h : e.target = some name) (m : Module α) :
    m.receives e = m.answersTo name := by
  simp [Module.receives, Module.answersTo, Event.isFor, h, eq_comm]

/-- An event for a name is handed to the modules that answer to it. -/
theorem calls_dispatch_of_target {e : Event} {name : String} (h : e.target = some name)
    (s : Scheduler α) : (s.dispatch e).calls =
      (s.modules.filter (·.answersTo name)).map fun m => .module name m.client (.handle e) := by
  simp only [calls_dispatch, receives_of_target h]
  refine List.map_congr_left fun m hm => ?_
  rw [(Module.answersTo_iff.1 (List.mem_filter.1 hm).2).2]

/-- An event for a name goes through the clients of the modules that answer to it, and the result is
how many there are. -/
theorem value_dispatch_of_target {e : Event} {name : String} (h : e.target = some name)
    (s : Scheduler α) : (s.dispatch e).value =
      ((s.modules.filter (·.answersTo name)).length, { s with
        modules := s.modules.map fun m =>
          if m.answersTo name then { m with client := ModuleClient.handle m.client e }
          else m }) := by
  have hhandle (m : Module α) : (m.handle e).value =
      if m.answersTo name then { m with client := ModuleClient.handle m.client e } else m := by
    rw [Module.handle, receives_of_target h]
    split <;> rfl
  simp only [value_dispatch, receives_of_target h, hhandle, List.countP_eq_length_filter]

/-- A name is answered to as often as modules take events under it. -/
theorem count_addresses (s : Scheduler α) (name : String) :
    s.addresses.count name = (s.modules.filter (·.answersTo name)).length := by
  rw [← List.countP_eq_length_filter, addresses, List.count, List.countP_map, List.countP_filter]
  refine List.countP_congr fun m _ => ?_
  simp [Module.answersTo, and_comm]

/-- Every event for a name has a single receiver, if any, just if no two modules take events under
one name. -/
theorem single_receiver_iff (s : Scheduler α) :
    (∀ e : Event, e.target ≠ none → (s.dispatch e).value.1 ≤ 1) ↔ s.addresses.Nodup := by
  rw [List.nodup_iff_count]
  constructor
  · intro hsingle name
    have hcount := hsingle ⟨.input, .none, "", some name⟩ nofun
    rwa [value_dispatch_of_target rfl, ← count_addresses] at hcount
  · intro hcount e htarget
    obtain ⟨name, hname⟩ := Option.ne_none_iff_exists'.1 htarget
    rw [value_dispatch_of_target hname, ← count_addresses]
    exact hcount name

variable [ProcessClient α]

/-- A request adds the name that it asks for, if there is room, and no other one. -/
theorem moduleNames_serve {s : Scheduler α} (h : s.modules.length ≤ s.maxModules) (r : Request α) :
    (s.serve r).value.moduleNames = (s.moduleNames ++ r.registers?.toList).take s.maxModules := by
  have hsame : (s.moduleNames ++ []).take s.maxModules = s.moduleNames := by
    rw [List.append_nil, List.take_of_length_le]
    rwa [moduleNames, List.length_map]
  cases r with
  | addModule name client =>
    rw [serve, Traced.value_map, value_addModule]
    split
    · next hfull =>
      have hlength : s.moduleNames.length = s.maxModules := by
        rw [moduleNames, List.length_map]
        omega
      rw [List.take_append_of_le_length (Nat.le_of_eq hlength.symm),
        List.take_of_length_le (Nat.le_of_eq hlength)]
    · next hroom =>
      rw [List.take_of_length_le]
      · simp [moduleNames, Request.registers?]
      · simp [moduleNames, Request.registers?]
        omega
  | addProcess priority client =>
    rw [serve, Traced.value_map, value_addProcess]
    split <;> exact hsame.symm
  | stop pid => exact (s.moduleNames_setState pid .stopped).trans hsame.symm
  | setState pid state => exact (s.moduleNames_setState pid state).trans hsame.symm
  | dispatch e =>
    rw [serve, Traced.value_map, value_dispatch]
    exact (map_name_map (fun m => m.becomes_handle e) _).trans hsame.symm
  | tick now =>
    rw [serve, Traced.value_map]
    cases hrunning : s.running with
    | false => rw [tick_of_stopped hrunning]; exact hsame.symm
    | true =>
      rw [value_tick_of_running hrunning]
      exact (map_name_map (fun m => m.becomes_update _) _).trans hsame.symm
  | shutdown =>
    rw [serve]
    cases hrunning : s.running with
    | false => rw [shutdown_of_stopped hrunning]; exact hsame.symm
    | true =>
      rw [value_shutdown_of_running hrunning]
      refine (map_name_map (fun m => m.becomes_handle _) _).trans ?_
      exact (map_name_map (fun m => m.becomes_shutdown) _).trans hsame.symm

/-- A run adds the names that it asks for, in order and until the table is full. -/
theorem Tidy.moduleNames_serveAll {c : Config.Scheduler} {s : Scheduler α} (h : s.Tidy c)
    (rs : List (Request α)) : (s.serveAll rs).value.moduleNames =
      (s.moduleNames ++ rs.filterMap (·.registers?)).take c.maxModules := by
  induction rs generalizing s with
  | nil =>
    have hlength : s.moduleNames.length ≤ c.maxModules := by
      rw [moduleNames, List.length_map]
      exact h.modules_le
    rw [List.filterMap_nil, List.append_nil, List.take_of_length_le hlength]
    rfl
  | cons r rs ih =>
    have hroom : s.modules.length ≤ s.maxModules := h.maxModules ▸ h.modules_le
    rw [serveAll_cons, Traced.value_bind, ih (h.move (s.moves_serve r)), moduleNames_serve hroom r,
      h.maxModules, take_take_append, List.append_assoc]
    cases hname : r.registers? <;> simp [hname]

/-- In every run of a new scheduler, the names in the table are those that were asked for, in order
and until it is full. An event for a name is handed to all modules that take events under that name,
in order and once each, to no other one, and the result is how many there are. So there is never
more than one receiver just if no two modules that take events share a name, which is so if all
names that were asked for are distinct. -/
theorem targeted_event_receivers (c : Config.Scheduler) (now : Nat) (rs : List (Request α)) :
    let s := ((create c now).value.serveAll rs).value
    let asked := rs.filterMap (·.registers?)
    s.moduleNames = asked.take c.maxModules ∧
      (∀ e name, e.target = some name →
        let receivers := s.modules.filter (·.answersTo name)
        (s.dispatch e).calls = receivers.map (fun m => .module name m.client (.handle e)) ∧
          (s.dispatch e).value.1 = receivers.length ∧
          (s.dispatch e).value.2 = { s with
            modules := s.modules.map fun m =>
              if m.answersTo name then { m with client := ModuleClient.handle m.client e }
              else m }) ∧
      ((∀ e : Event, e.target ≠ none → (s.dispatch e).value.1 ≤ 1) ↔ s.addresses.Nodup) ∧
      (asked.Nodup → ∀ e name, e.target = some name →
        (s.dispatch e).value.1 = 0 ∧ (s.dispatch e).calls = [] ∨
          ∃ m ∈ s.modules, m.name = name ∧ (s.dispatch e).value.1 = 1 ∧
            (s.dispatch e).calls = [.module name m.client (.handle e)]) := by
  intro s asked
  have hnames : s.moduleNames = asked.take c.maxModules :=
    (Tidy.create c now).moduleNames_serveAll rs
  refine ⟨hnames, fun e name htarget => ?_, s.single_receiver_iff, fun hasked e name htarget => ?_⟩
  · rw [value_dispatch_of_target htarget]
    exact ⟨calls_dispatch_of_target htarget s, rfl, rfl⟩
  · have hdistinct : s.addresses.Nodup := by
      refine List.Nodup.sublist s.addresses_sublist ?_
      rw [hnames]
      exact hasked.sublist (List.take_sublist c.maxModules asked)
    have hcount := List.nodup_iff_count.1 hdistinct name
    rw [calls_dispatch_of_target htarget, value_dispatch_of_target htarget]
    rw [count_addresses] at hcount
    rcases hreceivers : s.modules.filter (·.answersTo name) with _ | ⟨m, ms⟩
    · left
      rw [hreceivers]
      exact ⟨rfl, rfl⟩
    · right
      rw [hreceivers, List.length_cons] at hcount
      obtain rfl : ms = [] := List.length_eq_zero_iff.1 (by omega)
      have hmem : m ∈ s.modules.filter (·.answersTo name) := by simp [hreceivers]
      obtain ⟨hm, hanswers⟩ := List.mem_filter.1 hmem
      rw [hreceivers]
      exact ⟨m, hm, (Module.answersTo_iff.1 hanswers).2, rfl, rfl⟩

/-- Two modules with names of their own, of which the second one takes no events, and a third one
that finds no room. -/
theorem targeted_event_receivers_distinct :
    let c : Config.Scheduler := { maxModules := 2 }
    let rs : List (Request Routine) := [.addModule "a" ⟨.all, []⟩,
      .addModule "b" ⟨⟨true, true, false⟩, []⟩, .addModule "c" ⟨.all, []⟩]
    let s := ((create c 0).value.serveAll rs).value
    let e (name : String) : Event := ⟨.memory, .none, "t", some name⟩
    (rs.filterMap (·.registers?)).Nodup ∧
      s.moduleNames = ["a", "b"] ∧
      (s.dispatch (e "a")).calls = [.module "a" ⟨.all, []⟩ (.handle (e "a"))] ∧
      (s.dispatch (e "b")).value.1 = 0 ∧
      (∀ e : Event, e.target ≠ none → (s.dispatch e).value.1 ≤ 1) ∧
      ∃ m ∈ s.modules, m.name = "a" ∧ (s.dispatch (e "a")).value.1 = 1 := by
  intro c rs s e
  have hasked : (rs.filterMap (·.registers?)).Nodup := by decide
  obtain ⟨hnames, hdispatch, hsingle, hdistinct⟩ := targeted_event_receivers c 0 rs
  refine ⟨hasked, hnames, (hdispatch (e "a") "a" rfl).1, (hdispatch (e "b") "b" rfl).2.1,
    hsingle.2 (by decide), ?_⟩
  rcases hdistinct hasked (e "a") "a" rfl with ⟨hnone, -⟩ | ⟨m, hm, hname, hone, -⟩
  · cases hnone
  · exact ⟨m, hm, hname, hone⟩

/-- Two modules under one name both receive the event for that name. -/
theorem targeted_event_received_twice :
    let s : Scheduler Routine := ((create {} 0).value.serveAll
      [.addModule "a" ⟨.all, []⟩, .addModule "a" ⟨.all, []⟩]).value
    let e : Event := ⟨.memory, .none, "t", some "a"⟩
    (s.dispatch e).value.1 = 2 ∧
      (s.dispatch e).calls =
        [.module "a" ⟨.all, []⟩ (.handle e), .module "a" ⟨.all, []⟩ (.handle e)] := by
  intro s e
  exact ⟨rfl, rfl⟩

end Scheduler

end TickDesktop
