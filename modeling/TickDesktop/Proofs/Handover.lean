import TickDesktop.Proofs.Deeds
import TickDesktop.Proofs.Teardown
import TickDesktop.SessionSlot

/-!
# Hand-over of the installed session

A run of the slot is a list of accesses: sessions are installed, taken out and put to use. What is
in the slot is decided by the last access that was not a use. An access that takes a session out
shuts it down, and whoever looks into the slot from a teardown sees what came after the session. A
session that was shut down by one of its uses already has its modules told of the end only then.
-/
namespace TickDesktop

variable {α β γ : Type}

/-- What follows an operation matters only at its result. -/
theorem Traced.bind_congr {x : Traced α β} {f g : β → Traced α γ} (h : f x.value = g x.value) :
    x >>= f = x >>= g := by
  apply ext'
  · rw [value_bind, h, value_bind]
  · rw [journal_bind, h, journal_bind]

/-! ## Told of the end at most once -/

namespace Scheduler

variable [ModuleClient α]

/-- In the course of some calls, the modules of a scheduler were told of the end once at most:
never, or at one moment those that wanted to know it, each of them once. Since then they keep their
slots. -/
def ToldOnce (s : Scheduler α) (calls : List (Call α)) : Prop :=
  calls.filter (·.isFarewell) = [] ∨
    ∃ t : Scheduler α, calls.filter (·.isFarewell) = t.farewells ∧
      KeepsPlaces Module.Becomes t.modules s.modules

variable [ProcessClient α]

theorem keepsModules_serveAll (s : Scheduler α) (rs : List (Request α)) :
    KeepsPlaces Module.Becomes s.modules (s.serveAll rs).value.modules := by
  induction rs generalizing s with
  | nil => exact .refl Module.Becomes.refl s.modules
  | cons r rs ih =>
    rw [serveAll_cons]
    exact (s.moves_serve r).keepsModules.trans Module.Becomes.trans (ih (s.serve r).value)

/-- Whatever is asked of a scheduler, its modules are told of the end once at most. -/
theorem toldOnce_serveAll (s : Scheduler α) (rs : List (Request α)) :
    (s.serveAll rs).value.ToldOnce (s.serveAll rs).calls := by
  by_cases hend : s.running = true ∧ .shutdown ∈ rs
  · obtain ⟨hrunning, hmem⟩ := hend
    -- the first shutdown is the one that tells them
    obtain ⟨before, after, rfl, hfirst⟩ := List.eq_append_cons_of_mem hmem
    have hstill : (s.serveAll before).value.running = true :=
      (s.running_serveAll before).2 ⟨hrunning, hfirst⟩
    refine .inr ⟨(s.serveAll before).value, ?_, ?_⟩
    · rw [serveAll_append, Traced.calls_bind, List.filter_append,
        no_farewell_serveAll (.inr hfirst), farewells_serveAll hstill, List.nil_append]
    · rw [serveAll_append, Traced.value_bind]
      exact keepsModules_serveAll _ _
  · left
    apply no_farewell_serveAll
    exact (Classical.not_and_iff_not_or_not.1 hend).imp_left eq_false_of_ne_true

end Scheduler

namespace Session

variable [ModuleClient α]

/-- A shutdown leaves a scheduler that runs no more and no window open. -/
theorem ended_shutdown (s : Session α) :
    s.shutdown.value.scheduler.running = false ∧ s.shutdown.value.workspace.ids = [] := by
  refine ⟨?_, s.workspace.ids_closeAll⟩
  change s.scheduler.shutdown.value.running = false
  cases hrunning : s.scheduler.running with
  | false => rw [Scheduler.shutdown_of_stopped hrunning]; exact hrunning
  | true => rw [Scheduler.value_shutdown_of_running hrunning]

variable [WindowClient α] [ProcessClient α]

/-- What a session is put to use for: the deeds that are done to it, as it is found. -/
abbrev Plan (α : Type) : Type := Session α → List (Deed α)

/-- A session after several uses. -/
def follow (s : Session α) (plans : List (Plan α)) : Traced α (Session α) :=
  plans.foldlM (fun s plan => s.enactAll (plan s)) s

theorem follow_cons (s : Session α) (plan : Plan α) (plans : List (Plan α)) :
    s.follow (plan :: plans) = s.enactAll (plan s) >>= fun s => s.follow plans := by
  simp [follow]

theorem enactAll_append (s : Session α) (ds more : List (Deed α)) :
    s.enactAll (ds ++ more) = s.enactAll ds >>= fun s => s.enactAll more := by
  simp [enactAll]

/-- Several uses come to a list of deeds. -/
theorem follow_eq_enactAll (s : Session α) (plans : List (Plan α)) :
    ∃ ds, s.follow plans = s.enactAll ds := by
  induction plans generalizing s with
  | nil => exact ⟨[], rfl⟩
  | cons plan plans ih =>
    obtain ⟨ds, hds⟩ := ih (s.enactAll (plan s)).value
    refine ⟨plan s ++ ds, ?_⟩
    rw [follow_cons, enactAll_append]
    exact Traced.bind_congr hds

/-- From its beginning through its uses to its shutdown, a session has its modules told of the end
once at most. -/
theorem toldOnce_life (born : Session α) (early : List (Deed α)) (plans : List (Plan α)) :
    let s := (born.enactAll early).value
    let used := s.follow plans
    used.value.shutdown.value.scheduler.ToldOnce
      ((born.enactAll early).calls ++ used.calls ++ used.value.shutdown.calls) := by
  intro s used
  obtain ⟨ds, hds⟩ := s.follow_eq_enactAll plans
  let life : List (Deed α) := early ++ ds ++ [.move (.request .shutdown)]
  have hlast (s' : Session α) : s'.enactAll [.move (.request .shutdown)] = s'.shutdown := by
    simp [enactAll, enact, perform, serve]
  have hvalue : (born.enactAll life).value = used.value.shutdown.value := by
    simp only [life, enactAll_append, Traced.value_bind, hlast, used, s, hds]
  have hcalls : (born.enactAll life).calls =
      (born.enactAll early).calls ++ used.calls ++ used.value.shutdown.calls := by
    simp only [life, enactAll_append, Traced.calls_bind, Traced.value_bind, hlast, used, s, hds]
  have hschedules := born.schedules_enactAll life
  rw [← hvalue, ← hcalls, Scheduler.ToldOnce, hschedules.filter_isFarewell, hschedules.scheduler]
  exact born.scheduler.toldOnce_serveAll _

end Session

/-! ## Accesses -/

/-- The calls of what was witnessed. -/
def Witness.calls (ws : List (Witness α)) : List (Call α) := ws.filterMap (·.entry.call?)

/-- What can be done with the slot. -/
inductive SessionSlot.Access (α : Type) where
  | install (s : Session α)
  | uninstall
  | use (plan : Session.Plan α)

namespace SessionSlot

theorem calls_witnessed (slot : SessionSlot α) (journal : List (Entry α)) :
    Witness.calls (slot.witnessed journal) = journal.filterMap Entry.call? := by
  rw [Witness.calls, witnessed, List.filterMap_map]
  rfl

namespace Access

/-- The access takes the session that it finds out of the slot. -/
def TakesOut : Access α → Prop
  | use _ => False
  | _ => True

/-- A list of accesses consists of uses, or its last access that is not one takes a session out or
installs one. -/
theorem split_last (as : List (Access α)) :
    (∃ plans : List (Session.Plan α), as = plans.map .use) ∨
      (∃ before, ∃ plans : List (Session.Plan α), as = before ++ .uninstall :: plans.map .use) ∨
      ∃ before s, ∃ plans : List (Session.Plan α), as = before ++ .install s :: plans.map .use := by
  induction as with
  | nil => exact .inl ⟨[], rfl⟩
  | cons a as ih =>
    rcases ih with ⟨plans, rfl⟩ | ⟨before, plans, rfl⟩ | ⟨before, s, plans, rfl⟩
    · cases a with
      | install s => exact .inr (.inr ⟨[], s, plans, rfl⟩)
      | uninstall => exact .inr (.inl ⟨[], plans, rfl⟩)
      | use plan => exact .inl ⟨plan :: plans, rfl⟩
    · exact .inr (.inl ⟨a :: before, plans, rfl⟩)
    · exact .inr (.inr ⟨a :: before, s, plans, rfl⟩)

/-- A list of accesses consists of uses, or its first access that is not one takes a session out or
installs one. -/
theorem split_first (as : List (Access α)) :
    (∃ plans : List (Session.Plan α), as = plans.map .use) ∨
      ∃ plans : List (Session.Plan α), ∃ stop after,
        as = plans.map .use ++ stop :: after ∧ stop.TakesOut := by
  induction as with
  | nil => exact .inl ⟨[], rfl⟩
  | cons a as ih =>
    cases a with
    | install s => exact .inr ⟨[], _, as, rfl, trivial⟩
    | uninstall => exact .inr ⟨[], _, as, rfl, trivial⟩
    | use plan =>
      rcases ih with ⟨plans, rfl⟩ | ⟨plans, stop, after, rfl, hstop⟩
      · exact .inl ⟨plan :: plans, rfl⟩
      · exact .inr ⟨plan :: plans, stop, after, rfl, hstop⟩

end Access

variable [ModuleClient α] [WindowClient α] [ProcessClient α]

/-- The slot after an access, and what was witnessed meanwhile. -/
def access (slot : SessionSlot α) : Access α → SessionSlot α × List (Witness α)
  | .install s => slot.install s
  | .uninstall => slot.uninstall
  | .use plan => (slot.use fun s => Prod.mk () <$> s.enactAll (plan s)).2

/-- The slot after several accesses, and what was witnessed meanwhile. -/
def accessAll (slot : SessionSlot α) : List (Access α) → SessionSlot α × List (Witness α)
  | [] => (slot, [])
  | a :: as =>
    let (slot, witnessed) := slot.access a
    let (slot, more) := slot.accessAll as
    (slot, witnessed ++ more)

theorem accessAll_append (slot : SessionSlot α) (as more : List (Access α)) :
    slot.accessAll (as ++ more) =
      (((slot.accessAll as).1.accessAll more).1,
        (slot.accessAll as).2 ++ ((slot.accessAll as).1.accessAll more).2) := by
  induction as generalizing slot with
  | nil => rfl
  | cons a as ih => simp [accessAll, ih]

/-- Uses find nothing in an empty slot. -/
theorem accessAll_uses_of_empty (plans : List (Session.Plan α)) :
    (empty : SessionSlot α).accessAll (plans.map .use) = (empty, []) := by
  induction plans with
  | nil => rfl
  | cons plan plans ih =>
    change ((empty.accessAll (plans.map .use)).1, [] ++ (empty.accessAll (plans.map .use)).2) = _
    rw [ih]
    rfl

theorem access_use (s : Session α) (plan : Session.Plan α) :
    (⟨some s⟩ : SessionSlot α).access (.use plan) = (⟨some (s.enactAll (plan s)).value⟩,
      (s.enactAll (plan s)).journal.map fun e => ⟨.locked, e⟩) := by
  change (_, (Prod.mk () <$> s.enactAll (plan s)).journal.map _) = _
  rw [Traced.journal_map]
  rfl

/-- Uses take the session in the slot through their plans while the slot is locked. -/
theorem accessAll_uses (s : Session α) (plans : List (Session.Plan α)) :
    (⟨some s⟩ : SessionSlot α).accessAll (plans.map .use) =
      (⟨some (s.follow plans).value⟩, (s.follow plans).journal.map fun e => ⟨.locked, e⟩) := by
  induction plans generalizing s with
  | nil => rfl
  | cons plan plans ih =>
    rw [List.map_cons, accessAll, access_use]
    dsimp only
    rw [ih, Session.follow_cons, Traced.journal_bind, List.map_append]
    rfl

theorem slot_install (slot : SessionSlot α) (s : Session α) :
    (slot.access (.install s)).1 = ⟨some s⟩ := by
  obtain ⟨_ | old⟩ := slot <;> rfl

theorem slot_uninstall (slot : SessionSlot α) : (slot.access .uninstall).1 = empty := by
  obtain ⟨_ | old⟩ := slot <;> rfl

/-- After a session was installed, uses find it as the uses before them left it. -/
theorem slot_of_installed (slot : SessionSlot α) (s : Session α) (plans : List (Session.Plan α)) :
    (slot.accessAll (.install s :: plans.map .use)).1 = ⟨some (s.follow plans).value⟩ := by
  rw [accessAll]
  dsimp only
  rw [slot_install, accessAll_uses]

/-- After a session was taken out, uses find nothing. -/
theorem slot_of_uninstalled (slot : SessionSlot α) (plans : List (Session.Plan α)) :
    (slot.accessAll (.uninstall :: plans.map .use)).1 = empty := by
  rw [accessAll]
  dsimp only
  rw [slot_uninstall, accessAll_uses_of_empty]

/-- What is witnessed of a session in the slot: its installation, its uses and the access that takes
it out. -/
theorem witnessed_stay (slot : SessionSlot α) (before : List (Access α)) (s : Session α)
    (plans : List (Session.Plan α)) (stop : Access α) (after : List (Access α)) :
    let last : SessionSlot α := ⟨some (s.follow plans).value⟩
    (slot.accessAll (before ++ .install s :: (plans.map .use ++ stop :: after))).2 =
      (slot.accessAll (before ++ [.install s])).2 ++
        (s.follow plans).journal.map (fun e => ⟨.locked, e⟩) ++ (last.access stop).2 ++
          ((last.access stop).1.accessAll after).2 := by
  intro last
  have hinstalled : (slot.accessAll (before ++ [.install s])).1 = ⟨some s⟩ := by
    rw [accessAll_append]
    exact slot_of_installed _ s []
  have hsplit : before ++ .install s :: (plans.map .use ++ stop :: after) =
      (before ++ [.install s]) ++ (plans.map .use ++ stop :: after) := by simp
  rw [hsplit, accessAll_append, hinstalled, accessAll_append, accessAll_uses, List.append_assoc,
    List.append_assoc]
  rfl

/-- An access that takes a session out of the slot shuts it down, in sight of what comes after
it. -/
theorem access_stop (s : Session α) {stop : Access α} (hstop : stop.TakesOut) :
    let teardown := ((⟨some s⟩ : SessionSlot α).access stop).2
    Witness.calls teardown = s.shutdown.calls ∧
      (stop = .uninstall ∧ (∀ w ∈ teardown, w.view = .vacant) ∨
        ∃ new, stop = .install new ∧ ∀ w ∈ teardown, w.view = .holds new) := by
  have hview (slot : SessionSlot α) (journal : List (Entry α)) :
      ∀ w ∈ slot.witnessed journal, w.view = slot.look := by
    intro w hw
    obtain ⟨e, -, rfl⟩ := List.mem_map.1 hw
    rfl
  cases stop with
  | use plan => exact hstop.elim
  | uninstall => exact ⟨calls_witnessed empty _, .inl ⟨rfl, hview empty _⟩⟩
  | install new => exact ⟨calls_witnessed ⟨some new⟩ _, .inr ⟨new, rfl, hview ⟨some new⟩ _⟩⟩

/-- In every run of the slot, the session that a use finds is the one that was installed last, if it
was not taken out since, as its uses left it. Every other session that was installed was shut down
when it lost its place, and whoever looked into the slot meanwhile found nothing, or the session
that replaced it. From its beginning on, its modules were told of the end once at most. -/
theorem session_handed_over (as : List (Access α)) :
    let slot := (empty.accessAll as).1
    let told := (empty.accessAll as).2
    (∀ s', slot.session = some s' ↔ ∃ before s, ∃ plans : List (Session.Plan α),
        as = before ++ .install s :: plans.map .use ∧ s' = (s.follow plans).value) ∧
      (∀ f : Session α → Traced α (β × Session α),
        (slot.use f).1 = slot.session.map fun s => (f s).value.1) ∧
      (∀ before s more, as = before ++ .install s :: more →
        (∃ plans : List (Session.Plan α), more = plans.map .use) ∨
          ∃ plans : List (Session.Plan α), ∃ stop after,
            more = plans.map .use ++ stop :: after ∧ stop.TakesOut) ∧
      ∀ before s, ∀ plans : List (Session.Plan α), ∀ stop after,
        as = before ++ .install s :: (plans.map .use ++ stop :: after) → stop.TakesOut →
        let last := (s.follow plans).value
        let ended := last.shutdown.value
        ∃ teardown rest,
          told = (empty.accessAll (before ++ [.install s])).2 ++
            (s.follow plans).journal.map (fun e => ⟨.locked, e⟩) ++ teardown ++ rest ∧
          Witness.calls teardown = last.shutdown.calls ∧
          (stop = .uninstall ∧ (∀ w ∈ teardown, w.view = .vacant) ∨
            ∃ new, stop = .install new ∧ ∀ w ∈ teardown, w.view = .holds new) ∧
          ended.scheduler.running = false ∧ ended.workspace.ids = [] ∧
          ∀ (born : Session α) (early : List (Session.Deed α)), s = (born.enactAll early).value →
            ended.scheduler.ToldOnce
              ((born.enactAll early).calls ++ (s.follow plans).calls ++ last.shutdown.calls) := by
  intro slot told
  refine ⟨fun s' => ?_, fun f => ?_, fun _ _ more _ => Access.split_first more,
    fun before s plans stop after has hstop => ?_⟩
  · constructor
    · intro hs
      rcases Access.split_last as with ⟨plans, rfl⟩ | ⟨before, plans, rfl⟩ | ⟨before, s, plans, rfl⟩
      · simp only [slot, accessAll_uses_of_empty] at hs
        cases hs
      · simp only [slot, accessAll_append, slot_of_uninstalled] at hs
        cases hs
      · refine ⟨before, s, plans, rfl, ?_⟩
        simp only [slot, accessAll_append, slot_of_installed] at hs
        exact (Option.some.inj hs).symm
    · rintro ⟨before, s, plans, rfl, rfl⟩
      simp only [slot, accessAll_append, slot_of_installed]
  · obtain ⟨session⟩ := slot
    cases session <;> rfl
  · have htold := witnessed_stay empty before s plans stop after
    rw [← has] at htold
    obtain ⟨hcalls, hviews⟩ := access_stop (s.follow plans).value hstop
    obtain ⟨hrunning, hwindows⟩ := (s.follow plans).value.ended_shutdown
    refine ⟨_, _, htold, hcalls, hviews, hrunning, hwindows, ?_⟩
    rintro born early rfl
    exact Session.toldOnce_life born early plans

/-- Two sessions with a module each. The first one is shut down while it is in use, then replaced by
the second one, which is taken out. -/
theorem session_handed_over_used_up :
    let config : Config := { display := ⟨1, 1, .white⟩ }
    let furnish (name : String) : List (Session.Deed Routine) :=
      [.move (.request (.addModule name ⟨.all, []⟩))]
    let spend : Session.Plan Routine := fun _ => [.move (.request .shutdown)]
    ∃ born, (Session.create config .ample 0).value = .ok born ∧
      let first := (born.enactAll (furnish "a")).value
      let second := (born.enactAll (furnish "b")).value
      let as : List (Access Routine) := [.install first, .use spend, .install second]
      (empty.accessAll as).1.session = some second ∧
        (∃ teardown rest : List (Witness Routine), (empty.accessAll as).2 =
            (first.follow [spend]).journal.map (fun e => ⟨.locked, e⟩) ++ teardown ++ rest ∧
          (∀ w ∈ teardown, w.view = .holds second) ∧ Witness.calls teardown = []) ∧
        ∃ teardown : List (Witness Routine), (∀ w ∈ teardown, w.view = .vacant) ∧
          Witness.calls teardown = [.module "b" ⟨.all, []⟩ .shutdown,
            .module "b" ⟨.all, []⟩ (.handle .shutdown)] := by
  intro config furnish spend
  have hstart : (Session.create config .ample 0 : Traced Routine _).value =
      .ok (Session.atStart config 0 (.filled 1 1 Color.white.toPixel)) :=
    Session.create_of_has (by decide) 0
  refine ⟨_, hstart, ?_⟩
  intro first second as
  obtain ⟨hholds, -, -, hreplaced⟩ := session_handed_over (β := Unit) as
  obtain ⟨-, -, -, hremoved⟩ := session_handed_over (β := Unit) (as ++ [.uninstall])
  obtain ⟨teardown, rest, htold, hcalls, hviews, -⟩ :=
    hreplaced [] first [spend] (.install second) [] rfl trivial
  obtain ⟨teardown', -, -, hcalls', hviews', -⟩ :=
    hremoved (as.take 2) second [] .uninstall [] rfl trivial
  refine ⟨(hholds second).2 ⟨as.take 2, second, [], rfl, rfl⟩, ⟨teardown, rest, htold, ?_, hcalls⟩,
    teardown', ?_, hcalls'⟩
  · rcases hviews with ⟨hstop, -⟩ | ⟨new, hstop, hviews⟩
    · cases hstop
    · rwa [← Access.install.inj hstop] at hviews
  · rcases hviews' with ⟨-, hviews⟩ | ⟨new, hstop, -⟩
    · exact hviews
    · cases hstop

end SessionSlot

end TickDesktop
