import TickDesktop.Window.Basic

/-!
# The window registry

The registry lists the open windows in the order in which they were added, up to a capacity. That
is the order of painting: later windows lie in front.
-/
namespace TickDesktop

/-- The open windows, the oldest first. -/
structure Registry (α : Type) where
  capacity : Nat
  windows : List (Window α)

namespace Registry

variable {α : Type}

/-- A registry without windows. -/
def empty (capacity : Nat) : Registry α := ⟨capacity, []⟩

/-- The number of open windows. -/
def size (r : Registry α) : Nat := r.windows.length

/-- No window is open. -/
def isEmpty (r : Registry α) : Bool := r.windows.isEmpty

/-- There is no room for another window. -/
def isFull (r : Registry α) : Bool := r.capacity ≤ r.size

/-- The numbers of the windows in order. -/
def ids (r : Registry α) : List WindowId := r.windows.map (·.id)

/-- Add a window at the end, unless the registry is full. -/
def add (r : Registry α) (w : Window α) : Except Fault (Registry α) :=
  if r.isFull then .error (.registryFull r.capacity)
  else .ok { r with windows := r.windows ++ [w] }

/-- A window with the number is open. -/
def contains (r : Registry α) (id : WindowId) : Bool := r.windows.any (·.id = id)

/-- The window with a number. -/
def get? (r : Registry α) (id : WindowId) : Option (Window α) := r.windows.find? (·.id = id)

/-- Take a window out; the others keep their order. -/
def remove (r : Registry α) (id : WindowId) : Except Fault (Window α × Registry α) :=
  match r.get? id with
  | none => .error (.windowNotFound id)
  | some w => .ok (w, { r with windows := r.windows.eraseP (·.id = id) })

/-- The registry after the first window with a number went through `f`. -/
def modify (r : Registry α) (id : WindowId) (f : Window α → Window α) : Registry α :=
  { r with windows := go r.windows }
where
  go : List (Window α) → List (Window α)
    | [] => []
    | w :: ws => if w.id = id then f w :: ws else w :: go ws

/-- Empty the registry. The windows come out newest first. -/
def drain (r : Registry α) : List (Window α) × Registry α :=
  (r.windows.reverse, { r with windows := [] })

theorem ids_add {r s : Registry α} {w : Window α} (h : r.add w = .ok s) :
    s.ids = r.ids ++ [w.id] := by
  unfold add at h
  split at h
  · cases h
  · cases h; simp [ids]

theorem contains_iff_mem_ids {r : Registry α} {id : WindowId} : r.contains id ↔ id ∈ r.ids := by
  simp [contains, ids]

theorem get?_eq_none_iff {r : Registry α} {id : WindowId} : r.get? id = none ↔ id ∉ r.ids := by
  simp [get?, ids]

theorem id_of_get? {r : Registry α} {id : WindowId} {w : Window α} (h : r.get? id = some w) :
    w.id = id := by
  simpa using List.find?_some h

/-- Removal fails just for a number that no window carries. -/
theorem remove_eq_error_iff {r : Registry α} {id : WindowId} {fault : Fault} :
    r.remove id = .error fault ↔ id ∉ r.ids ∧ fault = .windowNotFound id := by
  rw [← get?_eq_none_iff]
  unfold remove
  split <;> simp [*, eq_comm]

theorem ids_remove {r s : Registry α} {id : WindowId} {w : Window α}
    (h : r.remove id = .ok (w, s)) : w.id = id ∧ s.ids = r.ids.erase id := by
  unfold remove at h
  split at h
  · cases h
  · next u hu =>
    cases h
    refine ⟨id_of_get? hu, ?_⟩
    simp only [ids, List.erase_eq_eraseP, List.eraseP_map]
    congr 2
    funext v
    exact Bool.eq_iff_iff.2 (by rw [Function.comp, beq_iff_eq, decide_eq_true_eq, eq_comm])

theorem ids_modify (r : Registry α) (id : WindowId) {f : Window α → Window α}
    (hf : ∀ w, (f w).id = w.id) : (r.modify id f).ids = r.ids := by
  change (modify.go id f r.windows).map (·.id) = r.windows.map (·.id)
  induction r.windows with
  | nil => rfl
  | cons w ws ih =>
    rw [modify.go]
    split
    · rw [List.map_cons, List.map_cons, hf]
    · rw [List.map_cons, List.map_cons, ih]

end Registry

end TickDesktop
