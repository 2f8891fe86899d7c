import TickDesktop.Session

/-!
# The installed session

At most one session is installed for the whole machine. A session that gives up its place is shut
down, and by then the slot already has its new content: code that looks for the session while an old
one is torn down finds the new one or none, never the one being torn down. While the session is in
use the slot is locked.
-/
namespace TickDesktop

/-- The place of the installed session. -/
structure SessionSlot (α : Type) where
  session : Option (Session α)

/-- What code that looks into the slot comes upon. -/
inductive SlotView (α : Type) where
  | vacant
  | holds (s : Session α)
  | locked

/-- Whether a session is found. -/
def SlotView.isFound {α : Type} : SlotView α → Bool
  | holds _ => true
  | _ => false

/-- An entry of a journal together with what the slot showed at that moment. -/
structure Witness (α : Type) where
  view : SlotView α
  entry : Entry α

namespace SessionSlot

variable {α β : Type}

/-- The slot before anything was installed. -/
def empty : SessionSlot α := ⟨none⟩

/-- What a look into the slot shows while it is not in use. -/
def look (slot : SessionSlot α) : SlotView α :=
  match slot.session with
  | none => .vacant
  | some s => .holds s

/-- The journal of an operation that runs outside the slot, which shows its content all the
while. -/
def witnessed (slot : SessionSlot α) (journal : List (Entry α)) : List (Witness α) :=
  journal.map fun e => ⟨slot.look, e⟩

/-- Install a session. A session that was installed before is shut down. -/
def install [ModuleClient α] (slot : SessionSlot α) (s : Session α) :
    SessionSlot α × List (Witness α) :=
  let after : SessionSlot α := ⟨some s⟩
  match slot.session with
  | none => (after, [])
  | some old =>
    let teardown : Traced α (Session α) := do
      Traced.log .warn Session.target "replacing running session"
      old.shutdown
    (after, after.witnessed teardown.journal)

/-- Take the installed session out, if there is one, and shut it down. -/
def uninstall [ModuleClient α] (slot : SessionSlot α) : SessionSlot α × List (Witness α) :=
  match slot.session with
  | none => (empty, [])
  | some old => (empty, empty.witnessed old.shutdown.journal)

/-- Use the installed session, if there is one. The slot is locked until the use is over. -/
def use (slot : SessionSlot α) (f : Session α → Traced α (β × Session α)) :
    Option β × SessionSlot α × List (Witness α) :=
  match slot with
  | ⟨none⟩ => (none, empty, [])
  | ⟨some s⟩ =>
    match f s with
    | ⟨(b, s), journal⟩ => (some b, ⟨some s⟩, journal.map fun e => ⟨.locked, e⟩)

end SessionSlot

end TickDesktop
