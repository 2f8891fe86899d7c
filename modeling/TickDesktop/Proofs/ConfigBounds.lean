import TickDesktop.Proofs.ByteReader
import TickDesktop.Proofs.FrameCount
import TickDesktop.Proofs.Frames
import TickDesktop.Proofs.SessionRun

/-!
# What a configuration text can ask for

Every text describes a configuration whose values lie in their ranges. So the desktop and each
window at its default place are small enough to be asked for, every table has room for a first
entry, and no count of frames is cut. A session can be made of it wherever the memory is granted.
-/
namespace TickDesktop

/-! ## Memory -/

/-- The most pixels that a plane of the largest extents has. -/
def Surface.maxPixels : Nat := 0x4000000

theorem Surface.area_le {width height : Nat} (hwidth : width ≤ 8192) (hheight : height ≤ 8192) :
    width * height ≤ maxPixels := Nat.mul_le_mul hwidth hheight

/-- A plane with so few pixels is had if the request for its bytes is granted. -/
theorem Heap.has_of_area_le {heap : Heap} {width height : Nat}
    (harea : width * height ≤ Surface.maxPixels) (h : heap.grants (4 * (width * height)) = true) :
    heap.has (4 * (width * height)) = true := by
  have hbytes : 4 * (width * height) ≤ maxBytes := by
    unfold Surface.maxPixels at harea
    unfold maxBytes
    omega
  exact has_eq_true_iff.2 (.inr ⟨hbytes, h⟩)

namespace Workshop

variable {α : Type} {shop : Workshop}

/-- At every default place a window is of at most the largest extents. -/
def Roomy (shop : Workshop) : Prop := ∀ archetype : Archetype,
  (shop.geometryOf archetype).width * (shop.geometryOf archetype).height ≤ Surface.maxPixels

theorem roomy_of_inRange {c : Config} (h : c.InRange) (next : Nat) :
    { ofConfig c with next }.Roomy := by
  intro archetype
  cases archetype with
  | splash => exact Surface.area_le (h .splashWidth).2 (h .splashHeight).2
  | clockOverlay => exact Surface.area_le (h .clockWidth).2 (h .clockHeight).2
  | _ => exact Surface.area_le (h .defaultWidth).2 (h .defaultHeight).2

end Workshop

namespace Order

variable {α : Type} {o : Order α} {shop : Workshop}

/-- The order leaves the place and the extents of its window to the workshop. -/
def AtDefault : Order α → Prop
  | plain .. | picture .. => True
  | placed .. | driven .. => False

theorem area_le (ho : o.AtDefault) (hshop : shop.Roomy) :
    (o.geometry shop).width * (o.geometry shop).height ≤ Surface.maxPixels := by
  cases o with
  | plain archetype title flags => exact hshop archetype
  | picture title flags image => exact hshop .splash
  | placed | driven => cases ho

/-- Such a window is made while there are numbers and memory. -/
theorem exists_make (ho : o.AtDefault) (hshop : shop.Roomy) {heap : Heap}
    (hgrants : heap.grants (4 * ((o.geometry shop).width * (o.geometry shop).height)) = true)
    (hnext : shop.next ≤ Workshop.maxNumber) : ∃ w, (o.make heap shop).value.1 = .ok w := by
  cases hmade : (o.make heap shop).value.1 with
  | ok w => exact ⟨w, rfl⟩
  | error e =>
    have hobstacle := (o.make_eq_error_iff heap shop).1 hmade
    rw [Workshop.obstacle?, if_pos (Heap.has_of_area_le (area_le ho hshop) hgrants),
      if_neg (Nat.not_lt.2 hnext)] at hobstacle
    cases hobstacle

end Order

/-! ## A session of any text -/

namespace Session

variable {α : Type}

/-- A session just made has room for a first entry in each of its tables. -/
theorem first_entries {config : Config} (h : config.InRange) (now : Nat) (backing : Surface) :
    let s : Session α := atStart config now backing
    (∀ name client, (s.addModule name client).value.1 = .ok ()) ∧
      (∀ priority client, (s.addProcess priority client).value.1 = .ok 0) ∧
      ∀ w caller, (s.workspace.add w caller).value.1 = .ok w.id := by
  intro s
  have hmodules : ¬ config.scheduler.maxModules ≤ 0 := Nat.not_le.2 (h .maxModules).1
  have hprocesses : ¬ config.scheduler.maxProcesses ≤ 0 := Nat.not_le.2 (h .maxProcesses).1
  have hwindows : s.workspace.ids.length < s.workspace.registry.capacity := (h .maxWindows).1
  refine ⟨fun name client => ?_, fun priority client => ?_, fun w caller => ?_⟩
  · simp [s, atStart, addModule, Scheduler.addModule, hmodules]
  · simp [s, atStart, addProcess, Scheduler.addProcess, hprocesses]
  · rw [Workspace.add_of_room hwindows]

end Session

namespace Config

/-- Whatever the text, no cut that its reader makes fails, and what it reads is in range: extents,
rate, table sizes and fade speed. So a session that is made of it, in whatever memory, has a desktop
of at most `2 ^ 26` pixels and room in every table, and a window at a default place has at most as
many pixels; and no count of frames is cut. A session is made if the memory for its desktop is
granted, a window if its memory is granted and there are numbers left. -/
theorem every_text_in_bounds (text : String) :
    let c := parse text
    parseByBytes? text = some c ∧
    (∀ n ∈ [c.display.width, c.display.height, c.windows.defaultWidth, c.windows.defaultHeight,
      c.splash.width, c.splash.height, c.clock.width, c.clock.height], 1 ≤ n ∧ n ≤ 8192) ∧
    (1 ≤ c.scheduler.tickRate ∧ c.scheduler.tickRate ≤ 1000) ∧
    (∀ n ∈ [c.scheduler.maxModules, c.scheduler.maxProcesses, c.windows.maxWindows],
      1 ≤ n ∧ n ≤ 256) ∧
    (c.splash.fadeSpeed.isFinite = true ∧ 0 ≤ c.splash.fadeSpeed ∧ c.splash.fadeSpeed ≤ 100) ∧
    (∀ (α : Type) (heap : Heap) (now : Nat),
      (heap.grants (4 * (c.display.width * c.display.height)) = true →
        ∃ s : Session α, (Session.create c heap now).value = .ok s) ∧
      ∀ s : Session α, (Session.create c heap now).value = .ok s →
        s.workspace.compositor.backing.pixels.size ≤ 2 ^ 26 ∧
        (∀ name client, (s.addModule name client).value.1 = .ok ()) ∧
        (∀ priority client, (s.addProcess priority client).value.1 = .ok 0) ∧
        ∀ w caller, (s.workspace.add w caller).value.1 = .ok w.id) ∧
    (∀ (α : Type) (o : Order α) (heap : Heap) (next : Nat), o.AtDefault →
      let shop := { Workshop.ofConfig c with next }
      let g := o.geometry shop
      (heap.grants (4 * (g.width * g.height)) = true → next ≤ Workshop.maxNumber →
        ∃ w, (o.make heap shop).value.1 = .ok w) ∧
        ∀ w, (o.make heap shop).value.1 = .ok w → w.pane.surface.pixels.size ≤ 2 ^ 26) ∧
    ∀ ms < 2 ^ 64, wholeFrames ms c.scheduler.tickRate = ms * c.scheduler.tickRate / 1000 := by
  intro c
  have h : c.InRange := inRange_parse text
  refine ⟨parseByBytes?_eq text, ?_, h .tickRate, ?_, h .fadeSpeed, ?_, ?_, ?_⟩
  · simp only [List.forall_mem_cons]
    exact ⟨h .displayWidth, h .displayHeight, h .defaultWidth, h .defaultHeight, h .splashWidth,
      h .splashHeight, h .clockWidth, h .clockHeight, nofun⟩
  · simp only [List.forall_mem_cons]
    exact ⟨h .maxModules, h .maxProcesses, h .maxWindows, nofun⟩
  · intro α heap now
    have harea : c.display.width * c.display.height ≤ Surface.maxPixels :=
      Surface.area_le (h .displayWidth).2 (h .displayHeight).2
    refine ⟨fun hgrants => ?_, fun s hs => ?_⟩
    · exact ⟨_, Session.create_of_has (Heap.has_of_area_le harea hgrants) now⟩
    · obtain ⟨hhas, rfl⟩ := Session.create_eq_ok_iff.1 hs
      exact ⟨(Array.size_replicate ..).trans_le harea, Session.first_entries h now _⟩
  · intro α o heap next ho shop g
    have hshop : shop.Roomy := Workshop.roomy_of_inRange h next
    refine ⟨Order.exists_make ho hshop, fun w hw => ?_⟩
    rw [Order.size_of_make hw]
    exact Order.area_le ho hshop
  · intro ms hms
    exact wholeFrames_eq hms (h .tickRate).2

/-- Numbers far out of range, a short color and names with characters of several bytes, brackets
that do not close, and an infinite speed. -/
theorem every_text_in_bounds_hostile :
    let text := "[display]\nwidth=4294967295\ndesktop=#é1\n[\n[é\n[é]\n]\n=\né=é\n" ++
      "[scheduler]\ntick_rate=0\nmax_modules=0\n[splash]\nwidth=0\nfade_speed=inf\n"
    parseByBytes? text = some (parse text) ∧ (parse text).display.width = 8192 ∧
      (parse text).display.desktop = .deepBlue ∧ (parse text).scheduler.tickRate = 1 ∧
      (∃ s : Session Empty, (Session.create (parse text) .ample 7).value = .ok s ∧
        s.workspace.compositor.backing.pixels.size ≤ 2 ^ 26) ∧
      (∃ w : Window Empty, ((Order.plain .splash "s" {}).make .ample
        { Workshop.ofConfig (parse text) with next := 2 }).value.1 = .ok w) ∧
      wholeFrames (2 ^ 64 - 1) (parse text).scheduler.tickRate = 18446744073709551 := by
  intro text
  obtain ⟨hread, -, -, -, -, hsession, hwindow, hframes⟩ := every_text_in_bounds text
  obtain ⟨hmade, hsize⟩ := hsession Empty .ample 7
  obtain ⟨s, hs⟩ := hmade rfl
  have hrate : (parse text).scheduler.tickRate = 1 := by decide +kernel
  refine ⟨hread, by decide +kernel, by decide +kernel, hrate, ⟨s, hs, (hsize s hs).1⟩, ?_, ?_⟩
  · have hnext : 2 ≤ Workshop.maxNumber := by
      unfold Workshop.maxNumber
      omega
    generalize parse text = c at hwindow ⊢
    exact (hwindow Empty (.plain .splash "s" {}) .ample 2 trivial).1 rfl hnext
  · have hlast := hframes (2 ^ 64 - 1) (by omega)
    rw [hrate] at hlast ⊢
    omega

end Config

end TickDesktop
