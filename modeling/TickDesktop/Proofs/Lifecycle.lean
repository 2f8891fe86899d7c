import TickDesktop.Proofs.SessionRun

/-!
# From birth to destruction

Every window that is made for a spawn has one of three fates. It is open and was never destroyed; it
was open and its last call destroyed it; or it was turned away and its only call destroyed it. Each
request moves a window from one fate to the next, and a shutdown leaves none open.
-/
namespace TickDesktop

/-- What has become of a window, given the numbers of the open windows and the calls to it. -/
inductive Fate (slots : Nat) (ids : List WindowId) (calls : List WindowCall) (b : Birth) :
    Prop where
  | opened (hopen : b.id ∈ ids) (hanswer : b.answer = .ok b.id)
      (halive : ∀ c ∈ calls, c.isDestroy = false)
  | closed (hgone : b.id ∉ ids) (hanswer : b.answer = .ok b.id) (hend : EndInDestroy calls)
  | refused (hgone : b.id ∉ ids) (hanswer : b.answer = .error (.registryFull slots))
      (owner : Option String) (hcalls : calls = [.destroy owner])

namespace Fate

variable {slots : Nat} {calls : List WindowCall} {b : Birth}

/-- What a workspace settles moves a window from one fate to the next. -/
theorem settle {α : Type} {m m' : Workspace α} {j : List (Entry α)}
    (h : Fate slots m.ids calls b) (hsettles : m.Settles m' j) :
    Fate slots m'.ids (calls ++ callsTo b.id j) b := by
  cases h with
  | opened hopen hanswer halive =>
    by_cases hstay : b.id ∈ m'.ids
    · refine .opened hstay hanswer fun c hc => ?_
      rcases List.mem_append.1 hc with hbefore | hnow
      · exact halive c hbefore
      · exact hsettles.kept b.id hstay c hnow
    · exact .closed hstay hanswer ((hsettles.gone b.id hopen hstay).prepend halive)
  | closed hgone hanswer hend =>
    rw [hsettles.foreign b.id hgone, List.append_nil]
    exact .closed (fun hmem => hgone (hsettles.sublist.subset hmem)) hanswer hend
  | refused hgone hanswer owner hcalls =>
    rw [hsettles.foreign b.id hgone, List.append_nil]
    exact .refused (fun hmem => hgone (hsettles.sublist.subset hmem)) hanswer owner hcalls

/-- A window is open just if it was registered and not destroyed. -/
theorem opened_iff {ids : List WindowId} (h : Fate slots ids calls b) :
    b.id ∈ ids ↔ b.answer = .ok b.id ∧ destroyCount calls = 0 := by
  cases h with
  | opened hopen hanswer halive =>
    exact iff_of_true hopen ⟨hanswer, destroyCount_eq_zero.2 halive⟩
  | closed hgone hanswer hend =>
    refine iff_of_false hgone fun hnever => ?_
    have hone := hend.destroyCount_eq_one
    omega
  | refused hgone hanswer owner hcalls =>
    refine iff_of_false hgone fun hnever => ?_
    rw [hanswer] at hnever
    cases hnever.1

/-- A window that is not open was destroyed, and that was its last call. -/
theorem endInDestroy {ids : List WindowId} (h : Fate slots ids calls b) (hgone : b.id ∉ ids) :
    EndInDestroy calls := by
  cases h with
  | opened hopen hanswer halive => exact absurd hopen hgone
  | closed hgone hanswer hend => exact hend
  | refused hgone hanswer owner hcalls => exact hcalls ▸ endInDestroy_singleton owner

/-- A window is destroyed once at most. -/
theorem destroyCount_le_one {ids : List WindowId} (h : Fate slots ids calls b) :
    destroyCount calls ≤ 1 := by
  by_cases hopen : b.id ∈ ids
  · have hzero := (h.opened_iff.1 hopen).2
    omega
  · exact Nat.le_of_eq (h.endInDestroy hopen).destroyCount_eq_one

/-- Nothing is called after it was destroyed. -/
theorem nothing_after {ids : List WindowId} (h : Fate slots ids calls b)
    {before after : List WindowCall} {owner : Option String}
    (hcalls : calls = before ++ .destroy owner :: after) : after = [] := by
  by_cases hopen : b.id ∈ ids
  · have hzero := destroyCount_eq_zero.1 (h.opened_iff.1 hopen).2 (.destroy owner)
      (hcalls ▸ List.mem_append_right _ List.mem_cons_self)
    cases hzero
  · exact (h.endInDestroy hopen).eq_nil hcalls

/-- The spawn of a window was answered by its number, or by the fault that there is no room for it;
then being destroyed is all that happens to it. -/
theorem answer {ids : List WindowId} (h : Fate slots ids calls b) :
    b.answer = .ok b.id ∨ b.answer = .error (.registryFull slots) ∧
      ∃ owner, calls = [.destroy owner] := by
  cases h with
  | opened hopen hanswer halive => exact .inl hanswer
  | closed hgone hanswer hend => exact .inl hanswer
  | refused hgone hanswer owner hcalls => exact .inr ⟨hanswer, owner, hcalls⟩

/-- The fate of a window does not depend on other windows. -/
theorem congr_ids {ids ids' : List WindowId} (h : Fate slots ids calls b)
    (hids : b.id ∈ ids' ↔ b.id ∈ ids) : Fate slots ids' calls b := by
  cases h with
  | opened hopen hanswer halive => exact .opened (hids.2 hopen) hanswer halive
  | closed hgone hanswer hend => exact .closed (hgone ∘ hids.1) hanswer hend
  | refused hgone hanswer owner hcalls => exact .refused (hgone ∘ hids.1) hanswer owner hcalls

end Fate

namespace Chronicle

variable {α : Type}

/-- What holds in the course of a session at all times. -/
structure Sound (slots : Nat) (c : Chronicle α) : Prop where
  capacity : c.session.workspace.registry.capacity = slots
  distinct : c.session.workspace.ids.Nodup
  started : 1 ≤ c.session.workshop.next
  numbered : c.births.map (·.id) = (List.range' 1 (c.session.workshop.next - 1)).map .mk
  born : ∀ id ∈ c.session.workspace.ids, id ∈ c.births.map (·.id)
  unborn : ∀ id, id ∉ c.births.map (·.id) → callsTo id c.journal = []
  fate : ∀ b ∈ c.births, Fate slots c.session.workspace.ids (callsTo b.id c.journal) b

namespace Sound

variable {slots : Nat} {c : Chronicle α}

theorem next_unborn (h : c.Sound slots) :
    (⟨c.session.workshop.next⟩ : WindowId) ∉ c.births.map (·.id) := by
  rw [h.numbered, List.mem_map]
  rintro ⟨n, hn, heq⟩
  obtain ⟨-, hlt⟩ := List.mem_range'_1.1 hn
  have hstarted := h.started
  have hnumber := WindowId.mk.inj heq
  omega

/-- Requests of the workspace move every window from one fate to the next. -/
theorem settle [WindowClient α] (h : c.Sound slots) {served : Traced α (Session α)}
    {asked : List Workspace.Request} (hcomes : c.session.Comes served asked) :
    Sound slots ⟨served.value, c.births, c.journal ++ served.journal⟩ := by
  have hsettles := c.session.workspace.settles_serveAll h.distinct asked
  rw [← hcomes.workspace] at hsettles
  refine ⟨?_, h.distinct.sublist hsettles.sublist, ?_, ?_, ?_, ?_, ?_⟩
  · rw [hcomes.workspace, Workspace.capacity_serveAll]
    exact h.capacity
  · exact hcomes.workshop ▸ h.started
  · exact hcomes.workshop ▸ h.numbered
  · exact fun id hid => h.born id (hsettles.sublist.subset hid)
  · intro id hid
    have hclosed : id ∉ c.session.workspace.ids := fun hmem => hid (h.born id hmem)
    rw [callsTo_append, h.unborn id hid, hcomes.calls, hsettles.foreign id hclosed]
    rfl
  · intro b hb
    rw [callsTo_append, hcomes.calls]
    exact (h.fate b hb).settle hsettles

/-- A window with the next number is born. Nothing else is called, opened or closed. -/
theorem bear (h : c.Sound slots) {after : Session α} {b : Birth} {j : List (Entry α)}
    (hid : b.id = ⟨c.session.workshop.next⟩)
    (hnext : after.workshop.next = c.session.workshop.next + 1)
    (hcapacity : after.workspace.registry.capacity = slots)
    (hdistinct : after.workspace.ids.Nodup)
    (hothers : ∀ id, id ≠ b.id → (id ∈ after.workspace.ids ↔ id ∈ c.session.workspace.ids))
    (hcalls : ∀ id, id ≠ b.id → callsTo id j = [])
    (hfate : Fate slots after.workspace.ids (callsTo b.id j) b) :
    Sound slots ⟨after, c.births ++ [b], c.journal ++ j⟩ := by
  have hstarted := h.started
  -- nobody called the number before it was given out
  have hnew : b.id ∉ c.births.map (·.id) := hid ▸ h.next_unborn
  have hborn (id : WindowId) : id ∈ (c.births ++ [b]).map (·.id) ↔
      id ∈ c.births.map (·.id) ∨ id = b.id := by simp
  refine ⟨hcapacity, hdistinct, ?_, ?_, ?_, ?_, ?_⟩
  · change 1 ≤ after.workshop.next
    omega
  · have hcount : after.workshop.next - 1 = (c.session.workshop.next - 1) + 1 := by omega
    have hlast : 1 + (c.session.workshop.next - 1) = c.session.workshop.next := by omega
    rw [List.map_append, h.numbered, hcount, List.range'_1_concat, List.map_append, hlast]
    simp [hid]
  · intro id hmem
    rw [hborn]
    by_cases heq : id = b.id
    · exact .inr heq
    · exact .inl (h.born id ((hothers id heq).1 hmem))
  · intro id hmem
    obtain ⟨hold, hne⟩ := not_or.1 (mt (hborn id).2 hmem)
    rw [callsTo_append, h.unborn id hold, hcalls id hne]
    rfl
  · intro b' hb
    rw [callsTo_append]
    rcases List.mem_append.1 hb with hold | hlast
    · have hne : b'.id ≠ b.id := fun heq => hnew (heq ▸ List.mem_map.2 ⟨b', hold, rfl⟩)
      rw [hcalls b'.id hne, List.append_nil]
      exact (h.fate b' hold).congr_ids (hothers b'.id hne)
    · rw [List.mem_singleton.1 hlast, h.unborn b.id hnew]
      exact hfate

/-- A window that was made for a spawn is opened, or turned away and destroyed. -/
theorem spawn [WindowClient α] (h : c.Sound slots) {w : Window α}
    (hid : w.id = ⟨c.session.workshop.next⟩) (caller : String) {after : Session α}
    (hspace : after.workspace = (c.session.workspace.add w caller).value.2)
    (hnext : after.workshop.next = c.session.workshop.next + 1) {j : List (Entry α)}
    (hj : ∀ id, callsTo id j = callsTo id (c.session.workspace.add w caller).journal) :
    Sound slots ⟨after, c.births ++ [⟨w.id, (c.session.workspace.add w caller).value.1⟩],
      c.journal ++ j⟩ := by
  have hclosed : w.id ∉ c.session.workspace.ids :=
    fun hmem => h.next_unborn (hid ▸ h.born w.id hmem)
  by_cases hroom : c.session.workspace.ids.length < c.session.workspace.registry.capacity
  · have hcalls (id : WindowId) : callsTo id j = [] :=
      (hj id).trans (Workspace.callsTo_add_of_room hroom w caller id)
    have hids : after.workspace.ids = c.session.workspace.ids ++ [w.id] :=
      hspace ▸ Workspace.ids_add_of_room hroom w caller
    have hadd := Workspace.add_of_room hroom w caller
    refine h.bear hid hnext ?_ ?_ ?_ (fun id _ => hcalls id) ?_
    · rw [hspace, hadd]
      exact h.capacity
    · have hperm : (c.session.workspace.ids ++ [w.id]).Perm (w.id :: c.session.workspace.ids) :=
        List.perm_append_comm
      rw [hids]
      exact hperm.nodup_iff.2 (List.nodup_cons.2 ⟨hclosed, h.distinct⟩)
    · intro id hne
      rw [hids, List.mem_append, List.mem_singleton, or_iff_left hne]
    · rw [hcalls, hadd, hids]
      exact .opened (List.mem_append_right _ (List.mem_singleton.2 rfl)) rfl nofun
  · have hfull : c.session.workspace.registry.capacity ≤ c.session.workspace.ids.length := by omega
    have hcalls (id : WindowId) :
        callsTo id j = if w.id = id then [.destroy (some caller)] else [] :=
      (hj id).trans (Workspace.callsTo_add_of_full hfull w caller id)
    have hadd := Workspace.add_of_full hfull w caller
    have hsame : after.workspace = c.session.workspace := by rw [hspace, hadd]
    refine h.bear hid hnext ?_ ?_ ?_ (fun id hne => ?_) ?_
    · rw [hsame]
      exact h.capacity
    · rw [hsame]
      exact h.distinct
    · exact fun id _ => by rw [hsame]
    · rw [hcalls, if_neg hne.symm]
    · rw [hcalls, hadd, hsame, h.capacity, if_pos rfl]
      exact .refused hclosed rfl (some caller) rfl

theorem start (config : Config) (now : Nat) (backing : Surface) :
    Sound config.windows.maxWindows
      (⟨Session.atStart config now backing, [], []⟩ : Chronicle α) where
  capacity := rfl
  distinct := List.nodup_nil
  started := Nat.le_refl 1
  numbered := rfl
  born := nofun
  unborn := fun _ _ => rfl
  fate := nofun

variable [WindowClient α] [ModuleClient α] [ProcessClient α]

/-- Every request keeps the course of a session sound. -/
theorem extend (h : c.Sound slots) (r : Session.Request α) : (c.extend r).Sound slots := by
  by_cases hspawn : ∃ heap sp, r = .spawn heap sp
  · obtain ⟨heap, sp, rfl⟩ := hspawn
    have hserved : (c.session.serve (.spawn heap sp)).value = (c.session.spawn heap sp).value.2 :=
      rfl
    have hjournal : (c.session.serve (.spawn heap sp)).journal =
        (c.session.spawn heap sp).journal := Traced.journal_map ..
    rcases c.session.spawn_cases heap sp with ⟨e, hmade, hvalue, hsilent⟩ |
      ⟨w, hmade, hid, -, hvalue, hcalls⟩
    · have hborn : c.session.born (.spawn heap sp) = [] := by rw [Session.born, hmade]
      have hcomes : c.session.Comes (c.session.serve (.spawn heap sp)) [] :=
        Session.comes_nothing (by rw [hserved, hvalue]) (by rw [hserved, hvalue])
          (hjournal ▸ hsilent)
      rw [Chronicle.extend, hborn, List.append_nil]
      exact h.settle hcomes
    · have hborn : c.session.born (.spawn heap sp) =
          [⟨w.id, (c.session.workspace.add w sp.caller).value.1⟩] := by
        rw [Session.born, hmade, hvalue]
      rw [Chronicle.extend, hborn, hjournal]
      exact h.spawn hid sp.caller (by rw [hserved, hvalue]) (by rw [hserved, hvalue]) hcalls
  · have hborn : c.session.born r = [] := by
      cases r with
      | spawn heap sp => exact absurd ⟨heap, sp, rfl⟩ hspawn
      | _ => rfl
    have hsettled := h.settle (c.session.comes_serve hspawn)
    rw [Chronicle.extend, hborn, List.append_nil]
    exact hsettled

theorem run (h : c.Sound slots) (rs : List (Session.Request α)) :
    (rs.foldl Chronicle.extend c).Sound slots := by
  induction rs generalizing c with
  | nil => exact h
  | cons r rs ih => exact ih (h.extend r)

end Sound

end Chronicle

namespace Session

variable {α : Type} [WindowClient α] [ModuleClient α] [ProcessClient α]

theorem chronicle_append (s : Session α) (rs : List (Request α)) (r : Request α) :
    s.chronicle (rs ++ [r]) = (s.chronicle rs).extend r := by
  rw [chronicle, List.foldl_append]
  rfl

/-- A shutdown leaves no window open. -/
theorem ids_shutdown (s : Session α) : (s.serve .shutdown).value.workspace.ids = [] := by
  have hcomes := s.comes_serve (r := .shutdown) (by simp)
  rw [hcomes.workspace]
  exact s.workspace.ids_closeAll

/-- In the course of a session the windows are numbered as they are made, and only these are ever
called. Each of them is destroyed at most once, and called no more after that. It is open just if
its spawn was granted and it was not destroyed. A window that found no room was destroyed and
never called otherwise. A shutdown leaves no window open and all of them destroyed. -/
theorem every_window_destroyed_once (config : Config) (heap : Heap) (now : Nat) (s : Session α)
    (hs : (create config heap now).value = .ok s) (rs : List (Request α)) :
    let c := s.chronicle rs
    let closed := s.chronicle (rs ++ [.shutdown])
    (∃ n, c.births.map (·.id) = (List.range' 1 n).map .mk) ∧
      (∀ id, id ∉ c.births.map (·.id) → callsTo id c.journal = []) ∧
      (∀ b ∈ c.births,
        destroyCount (callsTo b.id c.journal) ≤ 1 ∧
        (∀ before owner after, callsTo b.id c.journal = before ++ .destroy owner :: after →
          after = []) ∧
        (b.id ∈ c.session.workspace.ids ↔
          b.answer = .ok b.id ∧ destroyCount (callsTo b.id c.journal) = 0) ∧
        (b.answer = .ok b.id ∨ b.answer = .error (.registryFull config.windows.maxWindows) ∧
          ∃ owner, callsTo b.id c.journal = [.destroy owner])) ∧
      closed.session.workspace.ids = [] ∧
      ∀ b ∈ closed.births, destroyCount (callsTo b.id closed.journal) = 1 := by
  intro c closed
  obtain ⟨backing, rfl⟩ := eq_atStart hs
  have hstart := Chronicle.Sound.start (α := α) config now backing
  have hsound : c.Sound config.windows.maxWindows := hstart.run rs
  have hclosed : closed.Sound config.windows.maxWindows := hstart.run _
  have hempty : closed.session.workspace.ids = [] := by
    have hextend : closed = c.extend .shutdown := chronicle_append _ rs .shutdown
    rw [hextend]
    exact c.session.ids_shutdown
  refine ⟨⟨_, hsound.numbered⟩, hsound.unborn, fun b hb => ?_, hempty, fun b hb => ?_⟩
  · have hfate := hsound.fate b hb
    exact ⟨hfate.destroyCount_le_one, fun _ _ _ => hfate.nothing_after, hfate.opened_iff,
      hfate.answer⟩
  · have hgone : b.id ∉ closed.session.workspace.ids := by
      rw [hempty]
      exact List.not_mem_nil
    exact ((hclosed.fate b hb).endInDestroy hgone).destroyCount_eq_one

/-- Two windows, of which the second one finds no room. -/
theorem every_window_destroyed_once_two_windows :
    let config : Config := { display := ⟨1, 1, .white⟩, windows := { maxWindows := 1 } }
    let rs : List (Request Empty) := [.spawn .ample (.windowAt .generic "a" ⟨0, 0, 1, 1⟩ {}),
      .spawn .ample (.windowAt .generic "b" ⟨0, 0, 1, 1⟩ {}), .tick 16]
    ∃ s, (create config .ample 0).value = .ok s ∧
      (s.chronicle rs).births.map (·.id) = [⟨1⟩, ⟨2⟩] ∧
      (s.chronicle rs).session.workspace.ids = [⟨1⟩] ∧
      (∃ owner, callsTo ⟨2⟩ (s.chronicle rs).journal = [.destroy owner]) ∧
      ∀ b ∈ (s.chronicle (rs ++ [.shutdown])).births,
        destroyCount (callsTo b.id (s.chronicle (rs ++ [.shutdown])).journal) = 1 := by
  intro config rs
  have hs : (create config .ample 0 : Traced Empty _).value =
      .ok (atStart config 0 (.filled 1 1 Color.white.toPixel)) := create_of_has (by decide) 0
  refine ⟨_, hs, ?_, ?_, ?_, ?_⟩
  · decide +kernel
  · decide +kernel
  · exact ⟨some "session", rfl⟩
  · exact (every_window_destroyed_once config .ample 0 _ hs rs).2.2.2.2

end Session

end TickDesktop
