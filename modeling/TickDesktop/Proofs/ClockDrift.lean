import Mathlib.Algebra.Group.Nat.Defs
import TickDesktop.Proofs.FrameCount
import TickDesktop.Proofs.SessionMoves
import TickDesktop.Proofs.WindowOrigins

/-!
# The clock overlay does not drift

A session passes frames on to its clock overlays, and nothing else that it does touches their
count. So a clock that was opened or reset at some time has the stand that follows from the readings
of the frames since then, of which only the first and the last one matter, whatever else happened to
the session in between.
-/
namespace TickDesktop

/-! ## Clocks -/

/-- The stand of a clock after frames at a list of readings: the frames between the first and the
last one are counted. -/
structure ClockFace.After (rate : Nat) (readings : List Nat) (c : ClockFace) : Prop where
  rate_eq : c.rate = rate
  unstarted : readings = [] → c.Unstarted
  counted : ∀ h : readings ≠ [], c.Counted (wholeFrames (readings.head h) rate)
    (wholeFrames (readings.getLast h) rate)

/-- Readings of a counter: they never go back. -/
structure Readings (ms : List Nat) : Prop where
  sorted : ms.Pairwise (· ≤ ·)
  bounded : ∀ m ∈ ms, m < 0x10000000000000000

theorem Readings.of_append {ms more : List Nat} (h : Readings (ms ++ more)) : Readings ms :=
  ⟨(List.pairwise_append.1 h.sorted).1, fun m hm => h.bounded m (List.mem_append_left more hm)⟩

namespace ClockFace

variable {rate : Nat} {c : ClockFace}

theorem Unstarted.after (h : c.Unstarted) (hrate : c.rate = rate) : c.After rate [] :=
  ⟨hrate, fun _ => h, fun hne => absurd rfl hne⟩

/-- One more frame takes a clock to the stand after one more reading. -/
theorem After.update {readings : List Nat} (h : c.After rate readings) (hlow : 1 ≤ rate)
    (hhigh : rate ≤ 1000) {now : Nat} (hreadings : Readings (readings ++ [now])) (p : Pane) :
    (c.update p (wholeFrames now rate)).1.After rate (readings ++ [now]) := by
  refine ⟨?_, by simp, fun hne => ?_⟩
  · rw [rate_update, h.rate_eq]
  · have hnewest : (readings ++ [now]).getLast hne = now := by simp
    rw [hnewest]
    by_cases hnil : readings = []
    · subst hnil
      exact (h.unstarted rfl).update p _
    · have hlast : readings.getLast hnil ≤ now := by
        have hcross := (List.pairwise_append.1 hreadings.sorted).2.2
        exact hcross _ (List.getLast_mem hnil) now (by simp)
      have hnow : now < 0x10000000000000000 := hreadings.bounded now (by simp)
      have hpositive : 0 < c.rate := by
        rw [h.rate_eq]
        omega
      rw [List.head_append_of_ne_nil hnil]
      exact (h.counted hnil).update hpositive p (wholeFrames_mono hlast hnow hhigh)

end ClockFace

namespace Window

variable {α : Type}

/-- The clock behind a window, if it is a clock overlay. -/
def face? (w : Window α) : Option ClockFace :=
  match w.behavior with
  | .clock c => some c
  | _ => none

theorem face?_eq_some_iff {w : Window α} {c : ClockFace} :
    w.face? = some c ↔ w.behavior = .clock c := by
  unfold face?
  split <;> simp_all

/-- The window with its clock set back. -/
def resetFace (w : Window α) : Window α :=
  match w.behavior with
  | .clock c => { w with behavior := .clock c.reset }
  | _ => w

@[simp] theorem id_resetFace (w : Window α) : w.resetFace.id = w.id := by
  unfold resetFace
  split <;> simp

theorem face?_resetFace (w : Window α) : w.resetFace.face? = w.face?.map ClockFace.reset := by
  obtain ⟨id, archetype, pane, behavior⟩ := w
  cases behavior <;> rfl

variable [WindowClient α]

theorem face?_updated (w : Window α) (ctx : FrameContext) :
    (w.updated ctx).clean.face? = w.face?.map fun c => (c.update w.pane ctx.tick).1 := by
  obtain ⟨id, archetype, pane, behavior⟩ := w
  cases behavior <;> rfl

/-- Only an update moves a clock. -/
theorem Goes.face?_eq {w w' : Window α} {r : Workspace.Request} (h : w.Goes w' r)
    (hr : ∀ ctx, r ≠ .update ctx) : w'.face? = w.face? := by
  have htyped (ch : Char) : (w.typed ch).value.clean.face? = w.face? := by
    obtain ⟨id, archetype, pane, behavior⟩ := w
    cases behavior <;> rfl
  have hrendered : w.rendered.face? = w.face? := by
    obtain ⟨id, archetype, pane, behavior⟩ := w
    cases behavior <;> rfl
  cases r with
  | update ctx => exact absurd rfl (hr ctx)
  | type code =>
    rcases h with rfl | ⟨ch, rfl⟩
    · rfl
    · exact htyped ch
  | compose | refresh =>
    rcases h with rfl | rfl
    · rfl
    · exact hrendered
  | setVisible | place => rcases h with rfl | rfl <;> rfl
  | _ => rw [show w' = w from h]

end Window

/-! ## Workspaces -/

namespace Workspace

variable {α : Type} {m : Workspace α} {id : WindowId} {P Q : ClockFace → Prop}

/-- The clocks with a number have a property. -/
def Shows (m : Workspace α) (id : WindowId) (P : ClockFace → Prop) : Prop :=
  ∀ w ∈ m.registry.windows, w.id = id → ∀ c, w.face? = some c → P c

theorem Shows.imp (h : m.Shows id P) (hPQ : ∀ c, P c → Q c) : m.Shows id Q :=
  fun w hw hid c hc => hPQ c (h w hw hid c hc)

theorem shows_of_not_mem (h : id ∉ m.ids) : m.Shows id P := by
  rintro w hw rfl
  exact absurd (List.mem_map.2 ⟨w, hw, rfl⟩) h

theorem Shows.add (h : m.Shows id P) {w : Window α} (caller : String)
    (hw : w.id = id → ∀ c, w.face? = some c → P c) : (m.add w caller).value.2.Shows id P := by
  intro w' hw' hid c hc
  rcases mem_add hw' with hold | rfl
  · exact h w' hold hid c hc
  · exact hw hid c hc

/-- Over distinct numbers, the clock that is set back is the only one with its number. -/
theorem Shows.reset (h : m.Shows id P) (hdistinct : m.ids.Nodup) (hPQ : ∀ c, P c → Q c.reset) :
    Shows { m with registry := m.registry.modify id Window.resetFace } id Q := by
  intro w' hw' hid c hc
  obtain ⟨w, hw, rfl⟩ := Registry.mem_modify_of_nodup hdistinct hw' hid
  rw [Window.id_resetFace] at hid
  rw [Window.face?_resetFace] at hc
  obtain ⟨c', hc', rfl⟩ := Option.map_eq_some_iff.1 hc
  exact hPQ c' (h w hw hid c' hc')

/-- The other clocks stay as they are. -/
theorem Shows.reset_other (h : m.Shows id P) {other : WindowId} (hne : other ≠ id) :
    Shows { m with registry := m.registry.modify other Window.resetFace } id P := by
  intro w' hw' hid c hc
  obtain ⟨w, hw, rfl | ⟨hother, rfl⟩⟩ := origin_modify hw'
  · exact h w' hw hid c hc
  · rw [Window.id_resetFace, hother] at hid
    exact absurd hid hne

variable [WindowClient α]

theorem Shows.serve (h : m.Shows id P) {r : Request} (hr : ∀ ctx, r ≠ .update ctx) :
    (m.serve r).value.Shows id P := by
  intro w' hw' hid c hc
  obtain ⟨w, hw, hgoes⟩ := origin_serve hw'
  rw [hgoes.face?_eq hr] at hc
  rw [hgoes.id_eq] at hid
  exact h w hw hid c hc

theorem Shows.serveAll (h : m.Shows id P) {rs : List Request}
    (hrs : ∀ r ∈ rs, ∀ ctx, r ≠ .update ctx) : (m.serveAll rs).value.Shows id P := by
  induction rs generalizing m with
  | nil => exact h
  | cons r rs ih =>
    rw [List.forall_mem_cons] at hrs
    exact ih (h.serve hrs.1) hrs.2

theorem Shows.update (h : m.Shows id P) {ctx : FrameContext}
    (hPQ : ∀ c p, P c → Q (c.update p ctx.tick).1) :
    (m.serve (.update ctx)).value.Shows id Q := by
  intro w' hw' hid c hc
  obtain ⟨w, hw, rfl⟩ := origin_update hw'
  rw [Window.face?_updated] at hc
  obtain ⟨c', hc', rfl⟩ := Option.map_eq_some_iff.1 hc
  exact hPQ c' w.pane (h w hw hid c' hc')

end Workspace

/-! ## Sessions -/

/-- A clock overlay comes out of the workshop unstarted, and counts at its rate. -/
theorem Order.face_of_make {α : Type} {o : Order α} {heap : Heap} {shop : Workshop} {w : Window α}
    (h : (o.make heap shop).value.1 = .ok w) {c : ClockFace} (hc : w.face? = some c) :
    c.Unstarted ∧ c.rate = max shop.tickRate 1 := by
  have hstock {archetype : Archetype} (hb : w.behavior = shop.behaviorOf archetype) :
      c.Unstarted ∧ c.rate = max shop.tickRate 1 := by
    rw [Window.face?_eq_some_iff.1 hc] at hb
    cases archetype <;> cases hb
    exact ⟨ClockFace.unstarted_new .., rfl⟩
  cases o with
  | plain archetype title flags => exact hstock (Workshop.of_build h).2
  | placed archetype title g flags => exact hstock (Workshop.of_build h).2
  | picture title flags image =>
    change Except.map _ (shop.make heap .splash title flags : Traced α _).value.1 = _ at h
    cases hmade : (shop.make heap .splash title flags : Traced α _).value.1 with
    | error e =>
      rw [hmade] at h
      cases h
    | ok u =>
      have hb : u.behavior = .splash ⟨shop.splash.fadeSpeed, none, shop.splash.fallback⟩ :=
        (Workshop.of_build hmade).2
      rw [hmade] at h
      obtain rfl := Except.ok.inj h
      rw [Window.face?_eq_some_iff] at hc
      dsimp only at hc
      rw [hb] at hc
      cases hc
  | driven title g flags client =>
    have hb := (Workshop.of_build h).2
    rw [Window.face?_eq_some_iff.1 hc] at hb
    cases hb

namespace Scheduler

variable {α : Type} [ModuleClient α] [ProcessClient α]

theorem rate_serve (s : Scheduler α) (r : Request α) :
    (s.serve r).value.clock.rate = s.clock.rate := by
  have hstate (pid : Nat) (state : ProcessState) :
      (s.setState pid state).value.2.clock = s.clock := by
    cases hp : s.processes[pid]? with
    | none => rw [value_setState_of_none hp]
    | some p => rw [value_setState_of_some hp]
  cases r with
  | addModule name client =>
    rw [serve, Traced.value_map, value_addModule]
    split <;> rfl
  | addProcess priority client =>
    rw [serve, Traced.value_map, value_addProcess]
    split <;> rfl
  | stop pid => rw [serve, Traced.value_map, stop, hstate]
  | setState pid state => rw [serve, Traced.value_map, hstate]
  | dispatch e =>
    rw [serve, Traced.value_map, value_dispatch]
  | tick now =>
    rw [serve, Traced.value_map]
    cases h : s.running with
    | false => rw [tick_of_stopped h, Traced.value_pure]
    | true =>
      rw [value_tick_of_running h]
      rfl
  | shutdown =>
    rw [serve]
    cases h : s.running with
    | false => rw [shutdown_of_stopped h, Traced.value_pure]
    | true => rw [value_shutdown_of_running h]

theorem rate_serveAll (s : Scheduler α) (rs : List (Request α)) :
    (s.serveAll rs).value.clock.rate = s.clock.rate := by
  induction rs generalizing s with
  | nil => rfl
  | cons r rs ih => rw [serveAll_cons, Traced.value_bind, ih, rate_serve]

end Scheduler

namespace Session

variable {α : Type}

/-- What can happen to a session: requests of its own, work of its scheduler, the opening of the
boot windows, and a clock that is set back. -/
inductive Act (α : Type) where
  | request (r : Request α)
  | schedule (r : Scheduler.Request α)
  | boot (before left : Heap)
  | reset (id : WindowId)

/-- The move that an act is. -/
def Act.move : Act α → Move α
  | request r => .request r
  | schedule r => .schedule r
  | boot before left => .boot before left
  | reset id => .rework fun m => { m with registry := m.registry.modify id Window.resetFace }

/-- Nobody updates the windows past the session. -/
def Act.Ordinary : Act α → Prop
  | request (.ask (.update _)) => False
  | _ => True

/-- The reading at which an act takes the windows through a frame, if it does. -/
def frame? (s : Session α) : Act α → Option Nat
  | .request (.tick now) => if s.scheduler.running then some now else none
  | _ => none

/-- A session whose clocks count at a rate. Its windows have distinct numbers, all below the next
one. -/
structure Timed (rate : Nat) (s : Session α) : Prop where
  shop : max s.workshop.tickRate 1 = rate
  clock : s.scheduler.clock.rate = rate
  distinct : s.workspace.ids.Nodup
  numbered : ∀ id ∈ s.workspace.ids, id.number < s.workshop.next
  faces : ∀ id, s.workspace.Shows id fun c => c.rate = rate

variable {s : Session α} {rate : Nat} {id : WindowId} {P Q : ClockFace → Prop}

theorem timed_atStart (config : Config) (now : Nat) (backing : Surface) :
    Timed (max config.scheduler.tickRate 1) (atStart config now backing : Session α) where
  shop := rfl
  clock := rfl
  distinct := List.nodup_nil
  numbered := fun _ hid => absurd hid List.not_mem_nil
  faces := fun _ => Workspace.shows_of_not_mem List.not_mem_nil

/-- A spawn brings in at most one clock, an unstarted one with the next number. -/
theorem shows_spawn (hshows : s.workspace.Shows id P) (heap : Heap) (sp : Spawn α)
    (hfresh : id.number = s.workshop.next →
      ∀ c : ClockFace, c.Unstarted → c.rate = max s.workshop.tickRate 1 → P c) :
    (s.spawn heap sp).value.2.workspace.Shows id P := by
  rcases s.spawn_cases heap sp with ⟨e, -, hvalue, -⟩ | ⟨w, hmade, hid, -, hvalue, -⟩
  · rwa [hvalue]
  · rw [hvalue]
    refine hshows.add sp.caller fun hw c hc => ?_
    obtain ⟨hunstarted, hrate⟩ := Order.face_of_make hmade hc
    exact hfresh (by rw [← hw, hid]) c hunstarted hrate

theorem Timed.spawn (h : s.Timed rate) (heap : Heap) (sp : Spawn α) :
    (s.spawn heap sp).value.2.Timed rate := by
  have hclock : (s.spawn heap sp).value.2.scheduler.clock.rate = rate := by
    rw [scheduler_spawn, h.clock]
  have hfaces (id : WindowId) :
      (s.spawn heap sp).value.2.workspace.Shows id fun c => c.rate = rate :=
    shows_spawn (h.faces id) heap sp fun _ c _ hrate => hrate.trans h.shop
  rcases s.spawn_cases heap sp with ⟨e, -, hvalue, -⟩ | ⟨w, -, hid, -, hvalue, -⟩
  · rwa [hvalue]
  · rw [hvalue] at hclock hfaces ⊢
    have hnew : w.id ∉ s.workspace.ids := fun hmem => by
      have hlt := h.numbered w.id hmem
      rw [hid] at hlt
      exact Nat.lt_irrefl _ hlt
    have hids : (s.workspace.add w sp.caller).value.2.ids = s.workspace.ids ∨
        (s.workspace.add w sp.caller).value.2.ids = s.workspace.ids ++ [w.id] := by
      by_cases hroom : s.workspace.ids.length < s.workspace.registry.capacity
      · exact .inr (Workspace.ids_add_of_room hroom w sp.caller)
      · rw [Workspace.add_of_full (by omega)]
        exact .inl rfl
    refine ⟨h.shop, hclock, ?_, fun id hmem => ?_, hfaces⟩
    · rcases hids with hsame | hmore
      · rw [hsame]
        exact h.distinct
      · rw [hmore, List.nodup_append]
        refine ⟨h.distinct, by simp, ?_⟩
        rintro id hold _ (⟨⟩ | ⟨_, ⟨⟩⟩) rfl
        exact hnew hold
    · dsimp only at hmem ⊢
      rcases hids with hsame | hmore
      · rw [hsame] at hmem
        have hlt := h.numbered id hmem
        omega
      · rw [hmore, List.mem_append, List.mem_singleton] at hmem
        rcases hmem with hold | rfl
        · have hlt := h.numbered id hold
          omega
        · rw [hid]
          exact Nat.lt_succ_self _

/-- What an act comes to: a spawn, the boot, a clock set back, or requests of the workspace that
hold an update just if the act takes the windows through a frame. -/
theorem perform_cases [WindowClient α] [ModuleClient α] [ProcessClient α] (s : Session α)
    (a : Act α) (ha : a.Ordinary) :
    (∃ heap sp, a = .request (.spawn heap sp)) ∨ (∃ before left, a = .boot before left) ∨
      (∃ id, a = .reset id) ∨
      ∃ rs, (s.perform a.move).value.workspace = (s.workspace.serveAll rs).value ∧
        (s.perform a.move).value.workshop = s.workshop ∧
        match s.frame? a with
        | none => ∀ r ∈ rs, ∀ ctx, r ≠ .update ctx
        | some now => rs = [.update (s.scheduler.clock.sample now).1, .compose] := by
  cases a with
  | boot before left => exact .inr (.inl ⟨before, left, rfl⟩)
  | reset id => exact .inr (.inr (.inl ⟨id, rfl⟩))
  | schedule r => exact .inr (.inr (.inr ⟨[], rfl, rfl, nofun⟩))
  | request r =>
    by_cases hspawn : ∃ heap sp, r = .spawn heap sp
    · obtain ⟨heap, sp, rfl⟩ := hspawn
      exact .inl ⟨heap, sp, rfl⟩
    · have hcomes := s.comes_serve hspawn
      refine .inr (.inr (.inr ⟨s.asked r, hcomes.workspace, hcomes.workshop, ?_⟩))
      cases r with
      | tick now =>
        cases hrunning : s.scheduler.running <;> simp [frame?, asked, hrunning]
      | ask r =>
        cases r with
        | update ctx => exact ha.elim
        | _ => simp [frame?, asked]
      | _ => simp [frame?, asked]

theorem next_le_spawn (s : Session α) (heap : Heap) (sp : Spawn α) :
    s.workshop.next ≤ (s.spawn heap sp).value.2.workshop.next := by
  rcases s.spawn_cases heap sp with ⟨e, -, hvalue, -⟩ | ⟨w, -, -, -, hvalue, -⟩ <;> simp [hvalue]

variable [WindowClient α] [ModuleClient α] [ProcessClient α]

/-- How an act takes the clocks with a number from one property to another. -/
structure Carries (s : Session α) (a : Act α) (rate : Nat) (id : WindowId)
    (P Q : ClockFace → Prop) : Prop where
  fresh : s.workshop.next ≤ id.number → ∀ c : ClockFace, c.Unstarted → c.rate = rate → Q c
  keep : s.frame? a = none → ∀ c, P c → Q c
  frame : ∀ now, s.frame? a = some now → ∀ c p, P c → Q (c.update p (wholeFrames now rate)).1

theorem Timed.shows_perform (h : s.Timed rate) {a : Act α} (ha : a.Ordinary)
    (hreset : a ≠ .reset id) (hshows : s.workspace.Shows id P)
    (hcarries : s.Carries a rate id P Q) :
    (s.perform a.move).value.workspace.Shows id Q := by
  rcases s.perform_cases a ha with
    ⟨heap, sp, rfl⟩ | ⟨before, left, rfl⟩ | ⟨other, rfl⟩ | ⟨rs, hspace, -, hrs⟩
  · refine shows_spawn (hshows.imp (hcarries.keep rfl)) heap sp fun hid c hc hrate => ?_
    exact hcarries.fresh (Nat.le_of_eq hid.symm) c hc (hrate.trans h.shop)
  · have hboth := boot_keeps (s := s) (R := fun s' => s'.Timed rate ∧
        s.workshop.next ≤ s'.workshop.next ∧ s'.workspace.Shows id Q)
      (fun s' heap sp ⟨htimed, hnext, hshows⟩ => by
        refine ⟨htimed.spawn heap sp, Nat.le_trans hnext (s'.next_le_spawn heap sp), ?_⟩
        refine shows_spawn hshows heap sp fun hid c hc hrate => ?_
        exact hcarries.fresh (by omega) c hc (hrate.trans htimed.shop))
      ⟨h, Nat.le_refl _, hshows.imp (hcarries.keep rfl)⟩ before left
    exact hboth.2.2
  · have hne : other ≠ id := fun heq => hreset (by rw [heq])
    exact (hshows.imp (hcarries.keep rfl)).reset_other hne
  · rw [hspace]
    cases hframe : s.frame? a with
    | none =>
      rw [hframe] at hrs
      exact (hshows.imp (hcarries.keep hframe)).serveAll hrs
    | some now =>
      rw [hframe] at hrs
      subst hrs
      have hupdate : (s.workspace.serve
          (.update (s.scheduler.clock.sample now).1)).value.Shows id Q := by
        refine hshows.update fun c p hc => ?_
        have hcarried := hcarries.frame now hframe c p hc
        rwa [← h.clock] at hcarried
      have hcompose : ∀ r ∈ [Workspace.Request.compose], ∀ ctx, r ≠ .update ctx := by simp
      exact hupdate.serveAll hcompose

theorem Timed.faces_perform (h : s.Timed rate) {a : Act α} (ha : a.Ordinary) (id : WindowId) :
    (s.perform a.move).value.workspace.Shows id fun c => c.rate = rate := by
  by_cases hreset : a = .reset id
  · subst hreset
    exact (h.faces id).reset h.distinct fun c hc => hc
  · refine h.shows_perform ha hreset (h.faces id) ⟨?_, ?_, ?_⟩
    · exact fun _ c _ hrate => hrate
    · exact fun _ c hc => hc
    · intro now _ c p hc
      rw [ClockFace.rate_update, hc]

/-- An act keeps the rates and the numbering. -/
theorem Timed.perform (h : s.Timed rate) {a : Act α} (ha : a.Ordinary) :
    (s.perform a.move).value.Timed rate := by
  have hclock : (s.perform a.move).value.scheduler.clock.rate = rate := by
    rw [(s.schedules_perform a.move).scheduler, Scheduler.rate_serveAll, h.clock]
  have hfaces := h.faces_perform ha
  rcases s.perform_cases a ha with
    ⟨heap, sp, rfl⟩ | ⟨before, left, rfl⟩ | ⟨other, rfl⟩ | ⟨rs, hspace, hshop, -⟩
  · exact h.spawn heap sp
  · exact boot_keeps (R := (Timed rate)) (fun s' heap sp hs' => hs'.spawn heap sp) h before left
  · have hids : (s.perform (Act.move (.reset other))).value.workspace.ids = s.workspace.ids :=
      Registry.ids_modify _ other Window.id_resetFace
    refine ⟨h.shop, hclock, ?_, ?_, hfaces⟩
    · rw [hids]
      exact h.distinct
    · rw [hids]
      exact h.numbered
  · have hsub := (s.workspace.settles_serveAll h.distinct rs).sublist
    rw [← hspace] at hsub
    refine ⟨by rw [hshop, h.shop], hclock, h.distinct.sublist hsub, fun id hid => ?_, hfaces⟩
    rw [hshop]
    exact h.numbered id (hsub.subset hid)

theorem next_le_perform (s : Session α) {a : Act α} (ha : a.Ordinary) :
    s.workshop.next ≤ (s.perform a.move).value.workshop.next := by
  rcases s.perform_cases a ha with
    ⟨heap, sp, rfl⟩ | ⟨before, left, rfl⟩ | ⟨other, rfl⟩ | ⟨rs, -, hshop, -⟩
  · exact s.next_le_spawn heap sp
  · exact boot_keeps (R := fun s' => s.workshop.next ≤ s'.workshop.next)
      (fun s' heap sp hle => Nat.le_trans hle (s'.next_le_spawn heap sp)) (Nat.le_refl _) before
      left
  · exact Nat.le_refl _
  · exact Nat.le_of_eq (by rw [hshop])

/-! ## Runs -/

/-- A session after several acts. -/
def after (s : Session α) (acts : List (Act α)) : Session α :=
  (s.performAll (acts.map Act.move)).value

/-- The readings of the frames that acts take the windows through. -/
def frames (s : Session α) : List (Act α) → List Nat
  | [] => []
  | a :: acts => (s.frame? a).toList ++ frames (s.perform a.move).value acts

theorem after_cons (s : Session α) (a : Act α) (acts : List (Act α)) :
    s.after (a :: acts) = (s.perform a.move).value.after acts := rfl

theorem Timed.after (h : s.Timed rate) {acts : List (Act α)} (hacts : ∀ a ∈ acts, a.Ordinary) :
    (s.after acts).Timed rate := by
  induction acts generalizing s with
  | nil => exact h
  | cons a acts ih =>
    rw [List.forall_mem_cons] at hacts
    exact ih (h.perform hacts.1) hacts.2

/-- One act takes the clocks with a number to the stand after the frame that it may bring. -/
theorem Timed.stand_perform (h : s.Timed rate) (hlow : 1 ≤ rate) (hhigh : rate ≤ 1000)
    {a : Act α} (ha : a.Ordinary) (hreset : a ≠ .reset id) (hid : id.number < s.workshop.next)
    {seen : List Nat} (hseen : s.workspace.Shows id (ClockFace.After rate seen))
    (hreadings : Readings (seen ++ (s.frame? a).toList)) :
    (s.perform a.move).value.workspace.Shows id
      (ClockFace.After rate (seen ++ (s.frame? a).toList)) := by
  refine h.shows_perform ha hreset hseen ⟨fun hnext => ?_, fun hframe c hc => ?_, ?_⟩
  · omega
  · simpa [hframe] using hc
  · intro now hframe c p hc
    rw [hframe] at hreadings ⊢
    exact hc.update hlow hhigh hreadings p

/-- However many acts there are, the stand is the one after the frames that they brought. -/
theorem Timed.stand_after (h : s.Timed rate) (hlow : 1 ≤ rate) (hhigh : rate ≤ 1000)
    {acts : List (Act α)} (hacts : ∀ a ∈ acts, a.Ordinary) (hreset : .reset id ∉ acts)
    (hid : id.number < s.workshop.next) {seen : List Nat}
    (hseen : s.workspace.Shows id (ClockFace.After rate seen))
    (hreadings : Readings (seen ++ s.frames acts)) :
    (s.after acts).workspace.Shows id (ClockFace.After rate (seen ++ s.frames acts)) := by
  induction acts generalizing s seen with
  | nil =>
    rw [frames, List.append_nil]
    exact hseen
  | cons a acts ih =>
    rw [List.forall_mem_cons] at hacts
    rw [List.mem_cons, not_or] at hreset
    rw [frames, ← List.append_assoc] at hreadings ⊢
    have hstep := h.stand_perform hlow hhigh hacts.1 (Ne.symm hreset.1) hid hseen
      hreadings.of_append
    have hnext := s.next_le_perform hacts.1
    exact ih (h.perform hacts.1) hacts.2 hreset.2 (by omega) hstep hreadings

/-- A clock that was just opened or set back has not started. -/
theorem Timed.stand_start (h : s.Timed rate) {a : Act α} (ha : a.Ordinary)
    (hstart : a = .reset id ∨ id ∉ s.workspace.ids) :
    (s.perform a.move).value.workspace.Shows id (ClockFace.After rate []) := by
  by_cases hreset : a = .reset id
  · subst hreset
    exact (h.faces id).reset h.distinct fun c hc => c.unstarted_reset.after hc
  · have hnone : s.workspace.Shows id fun _ => False :=
      Workspace.shows_of_not_mem (hstart.resolve_left hreset)
    exact h.shows_perform ha hreset hnone
      ⟨fun _ c hc hrate => hc.after hrate, fun _ _ => False.elim, fun _ _ _ _ => False.elim⟩

theorem after_append (s : Session α) (acts more : List (Act α)) :
    s.after (acts ++ more) = (s.after acts).after more := by
  induction acts generalizing s with
  | nil => rfl
  | cons a acts ih => exact ih _

/-- Whatever happens to a session that runs at up to a thousand frames per second: from the act that
opens a clock overlay or sets it back on, the overlay counts the whole seconds of frames between the
first and the last reading of a frame, if the readings never go back. These are the whole seconds of
the time between the two readings, or one more. -/
theorem clock_never_drifts (config : Config) (hlow : 1 ≤ config.scheduler.tickRate)
    (hhigh : config.scheduler.tickRate ≤ 1000) (heap : Heap) (now : Nat) (s : Session α)
    (hs : (create config heap now).value = .ok s) (before : List (Act α)) (a : Act α)
    (later : List (Act α)) (hacts : ∀ a' ∈ before ++ a :: later, a'.Ordinary) (id : WindowId)
    (hstart : a = .reset id ∨ id ∉ (s.after before).workspace.ids)
    (hopen : id ∈ (s.after (before ++ [a])).workspace.ids) (hreset : .reset id ∉ later)
    (w : Window α) (hw : w ∈ (s.after (before ++ a :: later)).workspace.registry.windows)
    (hid : w.id = id) (c : ClockFace) (hc : w.behavior = .clock c) (first : Nat) (rest : List Nat)
    (hframes : (s.after (before ++ [a])).frames later = first :: rest)
    (hsorted : (first :: rest).Pairwise (· ≤ ·)) (hbounded : ∀ m ∈ first :: rest, m < 2 ^ 64) :
    let rate := config.scheduler.tickRate
    let last := (first :: rest).getLast (List.cons_ne_nil first rest)
    c.elapsed = (wholeFrames last rate - wholeFrames first rate) / rate ∧
      (last - first) / 1000 ≤ c.elapsed ∧ c.elapsed ≤ (last - first) / 1000 + 1 := by
  intro rate last
  obtain ⟨backing, rfl⟩ := eq_atStart hs
  have hrate : max config.scheduler.tickRate 1 = rate := by omega
  have htimed := timed_atStart (α := α) config now backing
  rw [hrate] at htimed
  have hbefore : ((atStart config now backing : Session α).after before).Timed rate :=
    htimed.after fun a' ha' => hacts a' (by simp [ha'])
  have ha : a.Ordinary := hacts a (by simp)
  have hmid : (atStart config now backing).after (before ++ [a]) =
      (((atStart config now backing : Session α).after before).perform a.move).value := by
    rw [after_append]
    rfl
  rw [hmid] at hopen hframes
  have hfinal : (atStart config now backing).after (before ++ a :: later) =
      (((atStart config now backing : Session α).after before).perform
        a.move).value.after later := by
    rw [after_append, after_cons]
  rw [hfinal] at hw
  have hopened := hbefore.perform ha
  have hreadings : Readings ([] ++ first :: rest) := ⟨hsorted, hbounded⟩
  rw [← hframes] at hreadings
  have hstand := hopened.stand_after hlow hhigh (fun a' ha' => hacts a' (by simp [ha'])) hreset
    (hopened.numbered id hopen) (hbefore.stand_start ha hstart) hreadings
  have hc' := hstand w hw hid c (Window.face?_eq_some_iff.2 hc)
  rw [hframes, List.nil_append] at hc'
  have helapsed : c.elapsed = (wholeFrames last rate - wholeFrames first rate) / rate := by
    have hcounted := (hc'.counted (List.cons_ne_nil first rest)).elapsed
    rwa [hc'.rate_eq] at hcounted
  have hle : first ≤ last := by
    rcases List.mem_cons.1 (List.getLast_mem (List.cons_ne_nil first rest)) with heq | hmem
    · exact Nat.le_of_eq heq.symm
    · exact (List.pairwise_cons.1 hsorted).1 last hmem
  have hlast : last < 2 ^ 64 := hbounded last (List.getLast_mem _)
  refine ⟨helapsed, ?_⟩
  rw [helapsed, wholeFrames_eq (by omega) hhigh, wholeFrames_eq (by omega) hhigh]
  exact seconds_between hle hlow

/-- A clock that is opened after a first frame, with seven frames per second, while keys are pressed
and the splash fades: it shows a second after 858 milliseconds. -/
theorem clock_never_drifts_seven_hertz :
    let config : Config := {
      display := { width := 1, height := 1 }
      scheduler := { tickRate := 7 }
      splash := { width := 1, height := 1, fadeSpeed := 2 }
      clock := { width := 1, height := 1 } }
    let before : List (Act Empty) := [.request (.tick 9)]
    let later : List (Act Empty) := [.request (.tick 142), .request (.press 0x1E),
      .request (.tick 500), .request (.tick 1000)]
    let open2 : Act Empty := .boot .ample .ample
    ∃ (s : Session Empty) (w : Window Empty) (c : ClockFace),
      (create config .ample 5).value = .ok s ∧
      w ∈ (s.after (before ++ open2 :: later)).workspace.registry.windows ∧ w.id = ⟨2⟩ ∧
      w.behavior = .clock c ∧ c.elapsed = 1 ∧ (1000 - 142) / 1000 = 0 := by
  intro config before later open2
  let backing := Surface.filled 1 1 config.display.desktop.toPixel
  let s : Session Empty := atStart config 5 backing
  have hs : (create config .ample 5 : Traced Empty _).value = .ok s := create_of_has (by decide) 5
  let windows := (s.after (before ++ open2 :: later)).workspace.registry.windows
  have hface : (windows.head?.bind Window.face?).isSome = true := by decide +kernel
  have hid : windows.map (·.id) = [⟨2⟩] := by decide +kernel
  obtain ⟨c, hc⟩ := Option.isSome_iff_exists.1 hface
  obtain ⟨w, hhead, hc⟩ := Option.bind_eq_some_iff.1 hc
  have hw : w ∈ windows := List.mem_of_head? hhead
  have hwid : w.id = ⟨2⟩ := by
    have hmem := List.mem_map_of_mem (f := (·.id)) hw
    rw [hid] at hmem
    exact List.mem_singleton.1 hmem
  have hbehavior := Window.face?_eq_some_iff.1 hc
  have hframes : (s.after (before ++ [open2])).frames later = [142, 500, 1000] := by decide +kernel
  obtain ⟨helapsed, -⟩ := clock_never_drifts config (by decide) (by decide) .ample 5 s hs before
    open2 later (by simp [before, later, open2, Act.Ordinary]) ⟨2⟩ (.inr (by decide +kernel))
    (by decide +kernel) (by simp [later]) w hw hwid c hbehavior 142 [500, 1000] hframes (by simp)
    (by simp)
  exact ⟨s, w, c, hs, hw, hwid, hbehavior, helapsed.trans (by decide +kernel), rfl⟩

end Session

end TickDesktop
