import TickDesktop.Event
import TickDesktop.Log
import TickDesktop.Process

/-!
# The journal

Whatever an operation does besides computing its result is written to a journal: the records it
hands to the log, and the calls it makes into windows, modules and processes, in the order in which
they happen. So the journal of a run is the complete trace of its effects.
-/
namespace TickDesktop

/-- A call into a window. -/
inductive WindowCall where
  | update (ctx : FrameContext)
  | render
  | typed (c : Char)
  | destroy (owner : Option String)

/-- A call into a module. -/
inductive ModuleCall where
  | update (ctx : FrameContext)
  | shutdown
  | handle (event : Event)

/-- A call into a window, a module or a process. Where a client of type `α` is called, the call
holds the client as it was before. -/
inductive Call (α : Type) where
  | window (id : WindowId) (client : Option α) (call : WindowCall)
  | module (name : String) (client : α) (call : ModuleCall)
  | process (pid : Nat) (client : α) (state : ProcessState) (ctx : FrameContext)

/-- One thing that an operation did. -/
inductive Entry (α : Type) where
  /-- A record was handed to the log. -/
  | record (r : Log.Record)
  /-- The log was told the uptime in milliseconds. -/
  | stamp (ms : Nat)
  /-- The threshold of the log was set. -/
  | threshold (t : Log.Threshold)
  /-- A client or a window was called. -/
  | call (c : Call α)

/-- The call of an entry, if it is one. -/
def Entry.call? {α : Type} : Entry α → Option (Call α)
  | call c => some c
  | _ => none

/-- A result together with the journal of the operation that gave it, oldest entry first. -/
structure Traced (α β : Type) where
  value : β
  journal : List (Entry α)

namespace Traced

variable {α β γ : Type}

instance : Monad (Traced α) where
  pure b := ⟨b, []⟩
  bind x f :=
    match x with
    | ⟨v, j⟩ => match f v with
      | ⟨w, k⟩ => ⟨w, j ++ k⟩

@[simp] theorem value_pure (b : β) : (pure b : Traced α β).value = b := rfl
@[simp] theorem journal_pure (b : β) : (pure b : Traced α β).journal = [] := rfl
@[simp] theorem value_bind (x : Traced α β) (f : β → Traced α γ) :
    (x >>= f).value = (f x.value).value := rfl
@[simp] theorem journal_bind (x : Traced α β) (f : β → Traced α γ) :
    (x >>= f).journal = x.journal ++ (f x.value).journal := rfl

@[simp] theorem value_map (f : β → γ) (x : Traced α β) : (f <$> x).value = f x.value := rfl
@[simp] theorem journal_map (f : β → γ) (x : Traced α β) : (f <$> x).journal = x.journal :=
  List.append_nil x.journal

theorem ext' {x y : Traced α β} (hv : x.value = y.value) (hj : x.journal = y.journal) : x = y := by
  cases x; cases y; simp_all

instance : LawfulMonad (Traced α) :=
  LawfulMonad.mk' _ (fun x => ext' rfl (List.append_nil x.journal)) (fun _ _ => rfl)
    fun _ _ _ => ext' rfl (List.append_assoc ..)

/-- Write one entry. -/
def tell (e : Entry α) : Traced α Unit := ⟨(), [e]⟩

/-- Hand a record to the log. -/
def log (level : Log.Level) (target text : String) : Traced α Unit :=
  tell (.record ⟨level, target, text⟩)

@[simp] theorem journal_tell (e : Entry α) : (tell e).journal = [e] := rfl
@[simp] theorem journal_log (l : Log.Level) (target text : String) :
    (log l target text : Traced α Unit).journal = [.record ⟨l, target, text⟩] := rfl

/-- Apply an operation to every element in turn. -/
def each (f : β → Traced α γ) : List β → Traced α (List γ)
  | [] => pure []
  | b :: bs => do
    let c ← f b
    let cs ← each f bs
    return c :: cs

@[simp] theorem value_each (f : β → Traced α γ) (bs : List β) :
    (each f bs).value = bs.map fun b => (f b).value := by
  induction bs with
  | nil => rfl
  | cons b bs ih => simp [each, ih]

@[simp] theorem journal_each (f : β → Traced α γ) (bs : List β) :
    (each f bs).journal = bs.flatMap fun b => (f b).journal := by
  induction bs with
  | nil => rfl
  | cons b bs ih => simp [each, ih]

/-- The calls that an operation made, oldest first. -/
def calls (x : Traced α β) : List (Call α) := x.journal.filterMap Entry.call?

@[simp] theorem calls_pure (b : β) : (pure b : Traced α β).calls = [] := rfl

@[simp] theorem calls_bind (x : Traced α β) (f : β → Traced α γ) :
    (x >>= f).calls = x.calls ++ (f x.value).calls := List.filterMap_append ..

@[simp] theorem calls_map (f : β → γ) (x : Traced α β) : (f <$> x).calls = x.calls := by
  simp [calls]

@[simp] theorem calls_log (l : Log.Level) (target text : String) :
    (log l target text : Traced α Unit).calls = [] := rfl

@[simp] theorem calls_tell_stamp (ms : Nat) : (tell (.stamp ms) : Traced α Unit).calls = [] := rfl

@[simp] theorem calls_tell_call (c : Call α) : (tell (.call c)).calls = [c] := rfl

@[simp] theorem calls_each (f : β → Traced α γ) (bs : List β) :
    (each f bs).calls = bs.flatMap fun b => (f b).calls := by
  induction bs with
  | nil => rfl
  | cons b bs ih => simp [each, ih]

end Traced

/-- What an outsider sees of an entry: a line in the sink or a call. -/
inductive Sight (α : Type) where
  | line (text : String)
  | call (c : Call α)

/-- The log after an entry, and what an outsider saw of it. -/
def Log.Logger.observe {α : Type} (l : Log.Logger) : Entry α → Log.Logger × Option (Sight α)
  | .record r => (l, (l.line? r).map .line)
  | .stamp ms => ({ l with uptime := ms }, none)
  | .threshold t => ({ l with threshold := t }, none)
  | .call c => (l, some (.call c))

/-- The log after a journal, and all that an outsider saw of it. -/
def Log.Logger.replay {α : Type} (l : Log.Logger) : List (Entry α) → Log.Logger × List (Sight α)
  | [] => (l, [])
  | e :: es =>
    let (l, s?) := l.observe e
    let (l, ss) := l.replay es
    (l, s?.toList ++ ss)

end TickDesktop
