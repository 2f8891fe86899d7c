import TickDesktop.Proofs.Frames
import TickDesktop.Proofs.Requests
import TickDesktop.Session

/-!
# Keystrokes

A key that stands for a character is typed into the windows that are visible and interactive, one
after the other, and the flag that a window raises over it moves onto the screen before the next
window is visited. Hidden windows and those that are not interactive keep all that they have, a flag
not yet taken included. Only then the modules that take events hear of the key, each of them once,
whether it stands for a character or not.
-/
namespace TickDesktop

variable {α : Type}

/-- The codes of printable characters are those between the space and the tilde. -/
theorem Keyboard.charOf?_eq (code : Nat) :
    charOf? code = if 32 ≤ code ∧ code ≤ 126 then some (Char.ofNat code) else none := rfl

/-- A key is typed into a window: it stands for a character, and the window is visible and
interactive. -/
def Window.getsKey (code : Nat) (w : Window α) : Bool :=
  decide (32 ≤ code ∧ code ≤ 126) && (w.pane.flags.visible && w.pane.flags.interactive)

/-- What a character makes of a window: a client does as it likes, a console takes it into its line
and is changed if there is room, and no other window heeds it. -/
structure Window.Takes [WindowClient α] (ch : Char) (w after : Window α) : Prop where
  client : ∀ a, w.behavior = .custom a → after = { w with
    pane := (WindowClient.typed a w.id w.pane ch).2
    behavior := .custom (WindowClient.typed a w.id w.pane ch).1 }
  console : ∀ c, w.behavior = .console c → after = { w with
    pane.dirty := w.pane.dirty || (c.type ch).1
    behavior := .console (c.type ch).2 }
  deaf : (∀ a, w.behavior ≠ .custom a) → (∀ c, w.behavior ≠ .console c) → after = w

theorem Window.takes_typed [WindowClient α] (w : Window α) (ch : Char) :
    w.Takes ch { w with
      pane := (w.behavior.typed w.id w.pane ch).2
      behavior := (w.behavior.typed w.id w.pane ch).1 } := by
  obtain ⟨id, archetype, pane, behavior⟩ := w
  refine ⟨?_, ?_, fun hclient hconsole => ?_⟩
  · rintro a rfl
    rfl
  · rintro c rfl
    cases hroom : (c.type ch).1 <;> simp [Behavior.typed, hroom]
  · cases behavior with
    | custom a => exact absurd rfl (hclient a)
    | console c => exact absurd rfl (hconsole c)
    | _ => rfl

namespace Workspace

theorem getsKey_of_some {code : Nat} {ch : Char} (h : Keyboard.charOf? code = some ch) :
    ch = Char.ofNat code ∧ Window.getsKey code = takesKeys (α := α) := by
  rw [Keyboard.charOf?_eq, Option.ite_none_right_eq_some] at h
  refine ⟨(Option.some.inj h.2).symm, funext fun w => ?_⟩
  rw [Window.getsKey, decide_eq_true h.1, Bool.true_and]
  rfl

theorem getsKey_of_none {code : Nat} (h : Keyboard.charOf? code = none) (w : Window α) :
    w.getsKey code = false := by
  have hcode : ¬ (32 ≤ code ∧ code ≤ 126) := by
    intro hprintable
    rw [Keyboard.charOf?_eq, if_pos hprintable] at h
    cases h
  rw [Window.getsKey, decide_eq_false hcode, Bool.false_and]

/-- The parts of a workspace whose windows are replaced and whose screen may ask to be composed. -/
theorem eq_withWindows_damageIf (m : Workspace α) (ws : List (Window α)) (b : Bool) :
    (m.withWindows ws).damageIf b = ⟨⟨m.registry.capacity, ws⟩,
      { m.compositor with dirty := m.compositor.dirty || b }⟩ := by
  cases b <;> simp [damageIf, damage, withWindows, Compositor.damage]

variable [WindowClient α]

/-! ## The pass window by window -/

/-- A pass that types a character, with the number of windows that got it so far and the screen as
it is by then. A window that takes keys gets the character, is counted, and gives up its flag to the
screen. -/
def typePass (ch : Char) (count : Nat) (screen : Compositor) :
    List (Window α) → Traced α (Nat × Compositor × List (Window α))
  | [] => return (count, screen, [])
  | w :: ws =>
    if takesKeys w then do
      let w ← w.typed ch
      let screen := if w.pane.dirty then screen.damage else screen
      let (count, screen, ws) ← typePass ch (count + 1) screen ws
      return (count, screen, w.clean :: ws)
    else do
      let (count, screen, ws) ← typePass ch count screen ws
      return (count, screen, w :: ws)

/-- Typing a key in a single pass over the windows. -/
def typeByWindows (m : Workspace α) (code : Nat) : Traced α (Nat × Workspace α) := do
  match Keyboard.charOf? code with
  | none => return (0, m)
  | some ch =>
    let (count, compositor, windows) ← typePass ch 0 m.compositor m.registry.windows
    return (count, ⟨⟨m.registry.capacity, windows⟩, compositor⟩)

/-- A pass over some windows, from what the earlier ones led to. -/
theorem typePass_eq (ch : Char) (count : Nat) (screen : Compositor) (ws : List (Window α)) :
    typePass ch count screen ws =
      ⟨(count + ws.countP takesKeys,
          { screen with dirty := screen.dirty || ws.any (stirred ch) }, ws.map (keyed ch)),
        ws.flatMap fun w => if takesKeys w then [w.callEntry (.typed ch)] else []⟩ := by
  induction ws generalizing count screen with
  | nil => simp [typePass, pure]
  | cons w ws ih =>
    by_cases htakes : takesKeys w = true
    · have hscreen : (if (w.typed ch).value.pane.dirty then screen.damage else screen) =
          { screen with dirty := screen.dirty || (w.typed ch).value.pane.dirty } := by
        cases (w.typed ch).value.pane.dirty <;> simp [Compositor.damage]
      rw [typePass, if_pos htakes]
      refine Traced.ext' ?_ ?_
      · simp only [Traced.value_bind, Traced.value_pure, hscreen, ih,
          List.countP_cons_of_pos htakes, List.any_cons, List.map_cons, stirred, keyed, htakes,
          if_true, Bool.true_and, Bool.or_assoc, Nat.add_assoc, Nat.add_comm 1]
      · simp only [Traced.journal_bind, Traced.journal_pure, ih, List.flatMap_cons, if_pos htakes,
          List.append_nil]
        rfl
    · rw [typePass, if_neg htakes]
      refine Traced.ext' ?_ ?_
      · simp [ih, stirred, keyed, htakes]
      · simp [ih, htakes]

/-- The single pass is the typing of a key. -/
theorem typeByWindows_eq (m : Workspace α) (code : Nat) : m.typeByWindows code = m.type code := by
  cases hcode : Keyboard.charOf? code with
  | none => rw [typeByWindows, type, hcode]
  | some ch =>
    refine Traced.ext' ?_ ?_
    · rw [value_type_of_some hcode, eq_withWindows_damageIf]
      simp [typeByWindows, hcode, typePass_eq]
    · rw [journal_type_of_some hcode]
      simp [typeByWindows, hcode, typePass_eq]

/-- What typing a key does: the windows that it is typed into are called in order, give up their
flags, and are counted. -/
theorem type_eq (m : Workspace α) (code : Nat) :
    let takers := m.registry.windows.filter (·.getsKey code)
    m.type code =
      ⟨(takers.length,
        ⟨⟨m.registry.capacity, m.registry.windows.map fun w =>
            if w.getsKey code then (w.typed (.ofNat code)).value.clean else w⟩,
          { m.compositor with
            dirty := m.compositor.dirty ||
              takers.any fun w => (w.typed (.ofNat code)).value.pane.dirty }⟩),
        takers.map fun w => w.callEntry (.typed (.ofNat code))⟩ := by
  intro takers
  cases hcode : Keyboard.charOf? code with
  | none =>
    have hnone : takers = [] := List.filter_eq_nil_iff.2 fun w _ => by simp [getsKey_of_none hcode]
    rw [type, hcode, hnone]
    simp [getsKey_of_none hcode, pure]
  | some ch =>
    obtain ⟨rfl, hgets⟩ := getsKey_of_some (α := α) hcode
    refine Traced.ext' ?_ ?_
    · rw [value_type_of_some hcode, eq_withWindows_damageIf]
      simp only [takers, hgets, List.countP_eq_length_filter, List.any_filter]
      rfl
    · rw [journal_type_of_some hcode, flatMap_ite_singleton]
      simp only [takers, hgets]

end Workspace

namespace Scheduler

variable [ModuleClient α]

/-- An event for everyone is handed to each module that takes events, once and in order, and nothing
is logged. -/
theorem dispatch_of_broadcast {e : Event} (h : e.target = none) (s : Scheduler α) :
    let takers := s.modules.filter fun m => (ModuleClient.caps m.client).events
    s.dispatch e =
      ⟨(takers.length, { s with modules := s.modules.map fun m =>
          if (ModuleClient.caps m.client).events
          then { m with client := ModuleClient.handle m.client e } else m }),
        takers.map fun m => m.callEntry (.handle e)⟩ := by
  intro takers
  have hreceives (m : Module α) : m.receives e = (ModuleClient.caps m.client).events := by
    simp [Module.receives, Event.isFor, h]
  have hhandle (m : Module α) : m.handle e =
      ⟨if (ModuleClient.caps m.client).events
        then { m with client := ModuleClient.handle m.client e } else m,
        if (ModuleClient.caps m.client).events then [m.callEntry (.handle e)] else []⟩ := by
    rw [Module.handle, hreceives]
    split <;> rfl
  refine Traced.ext' ?_ ?_
  · simp only [value_dispatch, hreceives, hhandle, List.countP_eq_length_filter, takers]
  · simp only [dispatch, h, Traced.journal_bind, Traced.journal_each, hhandle,
      flatMap_ite_singleton]
    split
    · next htarget => cases htarget
    · exact List.append_nil _

end Scheduler

namespace Session

variable [WindowClient α] [ModuleClient α]

/-- Whatever the session, a key whose code is that of a printable character is typed once into each
window that is visible and interactive, in the order of the registry, and into no other one, and the
result is how many there are. Each of them is then what its behavior made of it, less its flag, and
the screen asks to be composed if it did before or if one of them had raised it; all other windows
are as they were. After that, and for any key, each module that takes events is handed the key, as
an input event for everyone, once and in the order of registration. Nothing else happens. -/
theorem key_reaches_its_receivers (s : Session α) (code : Nat) :
    let event : Event := ⟨.input, .key code, "input", none⟩
    let gets (w : Window α) : Bool := decide (32 ≤ code ∧ code ≤ 126) &&
      (w.pane.flags.visible && w.pane.flags.interactive)
    let ch := Char.ofNat code
    let typed (w : Window α) : Window α := { w with
      pane := (w.behavior.typed w.id w.pane ch).2
      behavior := (w.behavior.typed w.id w.pane ch).1 }
    let windows := s.workspace.registry.windows.filter gets
    let modules := s.scheduler.modules.filter fun m => (ModuleClient.caps m.client).events
    (∀ w : Window α, w.Takes ch (typed w)) ∧
    s.workspace.typeByWindows code = s.workspace.type code ∧
    (s.press code).journal =
      windows.map (fun w => .call (.window w.id w.behavior.client? (.typed ch))) ++
        modules.map (fun m => .call (.module m.name m.client (.handle event))) ∧
    (s.press code).value.1 = windows.length ∧
    (s.press code).value.2 = { s with
      workspace := ⟨⟨s.workspace.registry.capacity,
          s.workspace.registry.windows.map fun w =>
            if gets w then { typed w with pane.dirty := false } else w⟩,
        { s.workspace.compositor with
          dirty := s.workspace.compositor.dirty || windows.any (fun w => (typed w).pane.dirty) }⟩
      scheduler.modules := s.scheduler.modules.map fun m =>
        if (ModuleClient.caps m.client).events
        then { m with client := ModuleClient.handle m.client event } else m } := by
  intro event gets ch typed windows modules
  have htype := s.workspace.type_eq code
  have hdispatch := s.scheduler.dispatch_of_broadcast (e := .key code) rfl
  refine ⟨fun w => w.takes_typed ch, s.workspace.typeByWindows_eq code, ?_, ?_, ?_⟩
  · simp only [press, htype, hdispatch, Traced.journal_bind, Traced.journal_pure, List.append_nil]
    rfl
  · simp only [press, htype, hdispatch, Traced.value_bind, Traced.value_pure]
    rfl
  · simp only [press, htype, hdispatch, Traced.value_bind, Traced.value_pure]
    rfl

end Session

end TickDesktop
