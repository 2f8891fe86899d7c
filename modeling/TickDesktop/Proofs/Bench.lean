import TickDesktop.Proofs.Requests
import TickDesktop.Window.Workshop

/-!
# A workshop next to a workspace

On a bench one workshop makes windows on order, and each window waits until it is handed over to the
workspace or turned away by it. Windows can be handed over in any order. Each order finds the memory
in a state of its own, in which it may refuse any surface. Every step tells what came of it, so a
run gives the list of what came of its steps together with the bench it leads to.
-/
namespace TickDesktop

/-- What can be ordered from a workshop. -/
inductive Order (α : Type) where
  /-- A window of an archetype at its default place. -/
  | plain (archetype : Archetype) (title : String) (flags : WindowFlags)
  | placed (archetype : Archetype) (title : String) (g : Geometry) (flags : WindowFlags)
  /-- A splash that shows an image. -/
  | picture (title : String) (flags : WindowFlags) (image : Surface)
  /-- A window driven by a client. -/
  | driven (title : String) (g : Geometry) (flags : WindowFlags) (client : α)

namespace Workshop

variable {α : Type}

/-- Work on an order ends in a window with the next number and a given client, or in a fault that
uses up no number. While there are numbers left, only memory can be missing. -/
inductive Makes (shop : Workshop) (client : Option α) :
    Except Fault (Window α) × Workshop → Prop where
  | window (w : Window α) (hid : w.id = ⟨shop.next⟩) (hclient : w.behavior.client? = client)
      (hleft : shop.next ≤ maxNumber) :
      Makes shop client (.ok w, { shop with next := shop.next + 1 })
  | noMemory (bytes : Nat) : Makes shop client (.error (.allocationFailed bytes), shop)
  | noNumber (hnone : maxNumber < shop.next) : Makes shop client (.error .idSpaceExhausted, shop)

/-- Why no window of an extent can be made, if none can: the memory that it needs is not to be had,
or there is no number left. -/
def obstacle? (shop : Workshop) (heap : Heap) (g : Geometry) : Option Fault :=
  if heap.has (4 * (g.width * g.height)) then
    if maxNumber < shop.next then some .idSpaceExhausted else none
  else some (.allocationFailed (min (4 * (g.width * g.height)) 0xFFFFFFFFFFFFFFFF))

section Build

variable (shop : Workshop) (heap : Heap) (archetype : Archetype) (title : String) (g : Geometry)
  (flags : WindowFlags) (background : Color) (behavior : Behavior α)

/-- Building gives what stands in its way, or else the next window, with a blank surface and the
behavior that was asked for. -/
theorem value_build : (shop.build heap archetype title g flags background behavior).value =
    match shop.obstacle? heap g with
    | some e => (.error e, shop)
    | none => (.ok ⟨⟨shop.next⟩, archetype,
        { Pane.new title flags g.x g.y (.filled g.width g.height 0) with background := background },
        behavior⟩, { shop with next := shop.next + 1 }) := by
  unfold build obstacle? Surface.allocate
  by_cases hmemory : heap.has (4 * (g.width * g.height)) = true
  · by_cases hnext : maxNumber < shop.next <;> simp [hmemory, hnext]
  · simp [hmemory]

theorem makes_build : shop.Makes behavior.client?
    (shop.build heap archetype title g flags background behavior).value := by
  rw [value_build, obstacle?]
  by_cases hmemory : heap.has (4 * (g.width * g.height)) = true
  · rw [if_pos hmemory]
    by_cases hnext : maxNumber < shop.next
    · rw [if_pos hnext]
      exact .noNumber hnext
    · rw [if_neg hnext]
      exact .window _ rfl rfl (Nat.le_of_not_lt hnext)
  · rw [if_neg hmemory]
    exact .noMemory _

theorem build_eq_error_iff {e : Fault} :
    (shop.build heap archetype title g flags background behavior).value.1 = .error e ↔
      shop.obstacle? heap g = some e := by
  rw [value_build]
  cases shop.obstacle? heap g <;> simp

end Build

/-- What is built has the surface and the behavior that were asked for. -/
theorem of_build {shop : Workshop} {heap : Heap} {archetype : Archetype} {title : String}
    {g : Geometry} {flags : WindowFlags} {background : Color} {behavior : Behavior α} {w : Window α}
    (h : (shop.build heap archetype title g flags background behavior).value.1 = .ok w) :
    w.pane.surface = .filled g.width g.height 0 ∧ w.behavior = behavior := by
  rw [value_build] at h
  cases hobstacle : shop.obstacle? heap g with
  | some e =>
    rw [hobstacle] at h
    cases h
  | none =>
    rw [hobstacle] at h
    cases h
    exact ⟨rfl, rfl⟩

theorem client?_behaviorOf (shop : Workshop) (archetype : Archetype) :
    (shop.behaviorOf archetype : Behavior α).client? = none := by
  cases archetype <;> rfl

theorem makes_makeAt (shop : Workshop) (heap : Heap) (archetype : Archetype) (title : String)
    (g : Geometry) (flags : WindowFlags) :
    shop.Makes (none : Option α) (shop.makeAt heap archetype title g flags).value := by
  rw [← shop.client?_behaviorOf archetype]
  exact shop.makes_build ..

/-- Putting an image on a splash keeps its number and brings in no client. -/
theorem makes_makeSplash (shop : Workshop) (heap : Heap) (title : String) (flags : WindowFlags)
    (image : Surface) :
    shop.Makes (none : Option α) (shop.makeSplash heap title flags image).value := by
  have hmake := shop.makes_makeAt (α := α) heap .splash title (shop.geometryOf .splash) flags
  change shop.Makes _ ((shop.make heap .splash title flags).value.1.map _,
    (shop.make heap .splash title flags).value.2)
  rw [make]
  generalize (shop.makeAt heap .splash title (shop.geometryOf .splash) flags).value = made
    at hmake ⊢
  cases hmake with
  | noMemory bytes => exact .noMemory bytes
  | noNumber hnone => exact .noNumber hnone
  | window w hid hclient hleft =>
    obtain ⟨id, archetype, pane, behavior⟩ := w
    cases behavior with
    | splash s => exact .window _ hid rfl hleft
    | _ => exact .window _ hid hclient hleft

end Workshop

namespace Order

variable {α : Type}

/-- The work of a workshop on an order, in the memory that there is. -/
def make (o : Order α) (heap : Heap) (shop : Workshop) :
    Traced α (Except Fault (Window α) × Workshop) :=
  match o with
  | plain archetype title flags => shop.make heap archetype title flags
  | placed archetype title g flags => shop.makeAt heap archetype title g flags
  | picture title flags image => shop.makeSplash heap title flags image
  | driven title g flags client => shop.makeClient heap title g flags client

/-- Where an ordered window goes and how large it is. -/
def geometry (shop : Workshop) : Order α → Geometry
  | plain archetype _ _ => shop.geometryOf archetype
  | placed _ _ g _ => g
  | picture _ _ _ => shop.geometryOf .splash
  | driven _ g _ _ => g

/-- The client that an ordered window is driven by. -/
def client? : Order α → Option α
  | driven _ _ _ client => some client
  | _ => none

theorem makes_make (o : Order α) (heap : Heap) (shop : Workshop) :
    shop.Makes o.client? (o.make heap shop).value := by
  cases o with
  | plain archetype title flags => exact shop.makes_makeAt ..
  | placed archetype title g flags => exact shop.makes_makeAt ..
  | picture title flags image => exact shop.makes_makeSplash ..
  | driven title g flags client =>
    exact shop.makes_build heap .custom title g flags .black (.custom client)

/-- An order fails just with what stands in its way. -/
theorem make_eq_error_iff (o : Order α) (heap : Heap) (shop : Workshop) {e : Fault} :
    (o.make heap shop).value.1 = .error e ↔ shop.obstacle? heap (o.geometry shop) = some e := by
  cases o with
  | plain archetype title flags => exact shop.build_eq_error_iff ..
  | placed archetype title g flags => exact shop.build_eq_error_iff ..
  | driven title g flags client => exact shop.build_eq_error_iff ..
  | picture title flags image =>
    have hmake : (shop.make heap .splash title flags : Traced α _).value.1 = .error e ↔
        shop.obstacle? heap (shop.geometryOf .splash) = some e := shop.build_eq_error_iff ..
    rw [geometry, ← hmake]
    change (shop.make heap .splash title flags : Traced α _).value.1.map _ = .error e ↔ _
    cases (shop.make heap .splash title flags : Traced α _).value.1 <;> simp [Except.map]

/-- An ordered window has a surface of the extents that its place says. -/
theorem size_of_make {o : Order α} {heap : Heap} {shop : Workshop} {w : Window α}
    (h : (o.make heap shop).value.1 = .ok w) :
    w.pane.surface.pixels.size = (o.geometry shop).width * (o.geometry shop).height := by
  have hsize {u : Window α} {g : Geometry} (hu : u.pane.surface = .filled g.width g.height 0) :
      u.pane.surface.pixels.size = g.width * g.height := by
    rw [hu]
    exact Array.size_replicate ..
  cases o with
  | plain archetype title flags => exact hsize (Workshop.of_build h).1
  | placed archetype title g flags => exact hsize (Workshop.of_build h).1
  | driven title g flags client => exact hsize (Workshop.of_build h).1
  | picture title flags image =>
    change Except.map _ (shop.make heap .splash title flags : Traced α _).value.1 = _ at h
    cases hmade : (shop.make heap .splash title flags : Traced α _).value.1 with
    | error e =>
      rw [hmade] at h
      cases h
    | ok u =>
      have hu : u.pane.surface.pixels.size = _ := hsize (Workshop.of_build hmade).1
      rw [hmade] at h
      obtain rfl := Except.ok.inj h
      dsimp only
      split <;> exact hu

end Order

/-- A workshop, the windows that it made and that wait to be handed over, and a workspace. -/
structure Bench (α : Type) where
  shop : Workshop
  waiting : List (Window α)
  workspace : Workspace α

namespace Bench

variable {α : Type}

/-- What can be done at a bench. -/
inductive Step (α : Type) where
  /-- Have the workshop work on an order, in the memory that there is by then. -/
  | order (heap : Heap) (o : Order α)
  /-- Hand over the waiting window at a position. -/
  | hand (k : Nat) (caller : String)
  | request (r : Workspace.Request)

/-- What comes of a step. -/
inductive Outcome where
  | made (id : WindowId)
  | unmade (e : Fault)
  | registered (id : WindowId)
  | refused (id : WindowId) (e : Fault)
  | removed (id : WindowId)
  | missed (id : WindowId) (e : Fault)
  /-- The windows that asked in a frame to be destroyed. -/
  | swept (gone : List WindowId)
  | closed
  /-- Nothing about which windows there are. -/
  | other

/-- The number of the window that was made, if one was. -/
def Outcome.made? : Outcome → Option WindowId
  | made id => some id
  | _ => none

/-- A bench where nothing was done yet, over a desktop. -/
def fresh (config : Config) (capacity : Nat) (backing : Surface) : Bench α :=
  ⟨.ofConfig config, [], ⟨.empty capacity, { backing }⟩⟩

variable [WindowClient α]

/-- What comes of a request. -/
def answer (m : Workspace α) : Workspace.Request → Outcome
  | .remove id => match (m.remove id).value.1 with
    | .ok () => .removed id
    | .error e => .missed id e
  | .update ctx => .swept (m.doomed ctx)
  | .closeAll => .closed
  | _ => .other

/-- One step at a bench. -/
def step (b : Bench α) : Step α → Outcome × Bench α
  | .order heap o => match (o.make heap b.shop).value with
    | (.ok w, shop) => (.made w.id, { b with shop := shop, waiting := b.waiting ++ [w] })
    | (.error e, shop) => (.unmade e, { b with shop := shop })
  | .hand k caller => match b.waiting[k]? with
    | none => (.other, b)
    | some w =>
      let b' := { b with
        waiting := b.waiting.eraseIdx k
        workspace := (b.workspace.add w caller).value.2 }
      match (b.workspace.add w caller).value.1 with
      | .ok id => (.registered id, b')
      | .error e => (.refused w.id e, b')
  | .request r => (answer b.workspace r, { b with workspace := (b.workspace.serve r).value })

/-- Steps one after the other. -/
def run (b : Bench α) : List (Step α) → List Outcome × Bench α
  | [] => ([], b)
  | s :: ss =>
    let (outcome, b) := b.step s
    let (outcomes, b) := b.run ss
    (outcome :: outcomes, b)

theorem run_append (b : Bench α) (ss ts : List (Step α)) :
    b.run (ss ++ ts) = ((b.run ss).1 ++ ((b.run ss).2.run ts).1, ((b.run ss).2.run ts).2) := by
  induction ss generalizing b with
  | nil => rfl
  | cons s ss ih => simp [run, ih]

end Bench

end TickDesktop
