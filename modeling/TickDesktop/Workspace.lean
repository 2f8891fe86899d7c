import TickDesktop.Compositor
import TickDesktop.Keyboard

/-!
# The workspace

The workspace holds the registry and the compositor and takes the windows through the passes of a
frame. A window never leaves the registry in the middle of a pass: the ones that ask to be
destroyed are removed once the pass is over.
-/
namespace TickDesktop

/-- The open windows and the screen they are shown on. -/
structure Workspace (α : Type) where
  registry : Registry α
  compositor : Compositor

namespace Workspace

variable {α : Type}

/-- The log target of the workspace. -/
def target : String := "qarma::wm"

/-- The screen asks to be composed. -/
def damage (m : Workspace α) : Workspace α :=
  { m with compositor := m.compositor.damage }

/-- The screen asks to be composed if it did before or if `b` is set. -/
def damageIf (m : Workspace α) (b : Bool) : Workspace α :=
  if b then m.damage else m

/-- The open windows in the words of the log. -/
def openText (m : Workspace α) : String :=
  " (" ++ Text.decimal m.registry.size ++ " open)"

/-- Register a window in front of the others for a caller, who becomes its owner. A window that
does not fit is destroyed. -/
def add (m : Workspace α) (w : Window α) (caller : String) :
    Traced α (Except Fault WindowId × Workspace α) := do
  let w := { w with pane.owner := some caller }
  match m.registry.add w with
  | .ok registry =>
    let m := { m with registry := registry }
    Traced.log .info target ("[" ++ caller ++ "] added window " ++ w.id.text ++ m.openText)
    return (.ok w.id, m.damage)
  | .error e =>
    Traced.log .warn target ("[" ++ caller ++ "] " ++ e.message ++ "; rejecting window " ++
      w.id.text)
    w.destroy
    return (.error e, m)

/-- Unregister a window and destroy it. -/
def remove (m : Workspace α) (id : WindowId) :
    Traced α (Except Fault Unit × Workspace α) := do
  match m.registry.remove id with
  | .ok (w, registry) =>
    let m := { m with registry := registry }
    w.destroy
    Traced.log .debug target ("removed window " ++ id.text ++ m.openText)
    return (.ok (), m.damage)
  | .error e =>
    Traced.log .warn target ("remove: " ++ e.message)
    return (.error e, m)

/-- Remove the windows that asked for it during a pass. -/
def sweep (m : Workspace α) : List WindowId → Traced α (Workspace α)
  | [] => return m
  | id :: ids => do
    let (removed, m) ← m.remove id
    match removed with
    | .ok () => m.sweep ids
    | .error e =>
      Traced.log .debug target ("sweep: " ++ e.message)
      m.sweep ids

/-- Update every window in order, move their dirty flags onto the screen, and remove the windows
that asked to be destroyed. The result is how many asked. -/
def update [WindowClient α] (m : Workspace α) (ctx : FrameContext) :
    Traced α (Nat × Workspace α) := do
  match m with
  | ⟨⟨capacity, windows⟩, compositor⟩ =>
    let updated ← Traced.each (·.update ctx) windows
    let finished := (updated.filter (·.1 = .destroy)).map (·.2.id)
    let dirty := updated.any (·.2.pane.dirty)
    let m : Workspace α := ⟨⟨capacity, updated.map (·.2.clean)⟩, compositor⟩
    let m ← (m.damageIf dirty).sweep finished
    return (finished.length, m)

/-- Render every visible window, then compose the screen from them. -/
def refresh [WindowClient α] (m : Workspace α) : Traced α (Bool × Workspace α) := do
  match m with
  | ⟨⟨capacity, windows⟩, compositor⟩ =>
    let windows ← Traced.each (fun w => if w.isVisible then w.render else pure w) windows
    let (made, compositor) ← compositor.present windows
    return (made, ⟨⟨capacity, windows⟩, compositor⟩)

/-- Compose the screen if it has changed. -/
def compose [WindowClient α] (m : Workspace α) : Traced α (Bool × Workspace α) := do
  match m with
  | ⟨⟨capacity, windows⟩, compositor⟩ =>
    let (made, compositor, windows) ← compositor.compose windows
    return (made, ⟨⟨capacity, windows⟩, compositor⟩)

/-- Destroy every window, the newest first. -/
def closeAll (m : Workspace α) : Traced α (Workspace α) := do
  let (windows, registry) := m.registry.drain
  let _ ← Traced.each Window.destroy windows
  let m := { m with registry := registry }
  if windows.isEmpty then return m
  else
    Traced.log .info target ("destroyed " ++ Text.decimal windows.length ++ " windows")
    return m.damage

/-- Whether typed characters reach a window. -/
def takesKeys (w : Window α) : Bool := w.isVisible && w.pane.flags.interactive

/-- Type the character of a key into every visible interactive window, and move their dirty flags
onto the screen. The result is how many windows got it. -/
def type [WindowClient α] (m : Workspace α) (code : Nat) :
    Traced α (Nat × Workspace α) := do
  match Keyboard.charOf? code with
  | none => return (0, m)
  | some ch =>
    match m with
    | ⟨⟨capacity, windows⟩, compositor⟩ =>
      let delivered := windows.countP takesKeys
      let reached ← Traced.each (fun w =>
        if takesKeys w then do
          let w ← w.typed ch
          return (w.pane.dirty, w.clean)
        else return (false, w)) windows
      let m : Workspace α := ⟨⟨capacity, reached.map (·.2)⟩, compositor⟩
      return (delivered, m.damageIf (reached.any (·.1)))

end Workspace

end TickDesktop
