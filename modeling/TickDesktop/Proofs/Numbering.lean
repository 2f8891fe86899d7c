import Mathlib.Data.List.InsertIdx
import Mathlib.Data.List.Nodup
import TickDesktop.Proofs.Bench

/-!
# Numbers of windows

The ledger of a bench holds numbers only: the next one, those that wait and those of the open
windows in order. It follows what comes of the steps and accepts only what an ordered list of fresh
numbers allows. Every run at a bench is accepted step by step, so what the ledger guarantees holds
of the windows: there is room for all of them, no number is used twice, and none comes back.
-/
namespace TickDesktop

/-- The numbers on a bench. -/
structure Ledger where
  capacity : Nat
  next : Nat
  waiting : List WindowId
  opened : List WindowId

namespace Ledger

open Bench (Outcome)

/-- The ledger of a bench where nothing was done yet. -/
def fresh (capacity : Nat) : Ledger := ⟨capacity, 1, [], []⟩

/-- The ledger after what came of a step, unless the step cannot have come to that. -/
def follow (l : Ledger) : Outcome → Option Ledger
  | .made id =>
    if id.number = l.next ∧ l.next ≤ Workshop.maxNumber then
      some { l with next := l.next + 1, waiting := l.waiting ++ [id] }
    else none
  | .unmade (.allocationFailed _) => some l
  | .unmade .idSpaceExhausted => if Workshop.maxNumber < l.next then some l else none
  | .unmade _ => none
  | .registered id =>
    if id ∈ l.waiting ∧ l.opened.length < l.capacity then
      some { l with waiting := l.waiting.erase id, opened := l.opened ++ [id] }
    else none
  | .refused id e =>
    if id ∈ l.waiting ∧ l.capacity ≤ l.opened.length ∧ e = .registryFull l.capacity then
      some { l with waiting := l.waiting.erase id }
    else none
  | .removed id => if id ∈ l.opened then some { l with opened := l.opened.erase id } else none
  | .missed id e => if id ∉ l.opened ∧ e = .windowNotFound id then some l else none
  | .swept gone =>
    if ∀ id ∈ gone, id ∈ l.opened then some { l with opened := l.opened.filter (· ∉ gone) }
    else none
  | .closed => some { l with opened := [] }
  | .other => some l

/-- The ledger after what came of several steps. -/
def replay (l : Ledger) : List Outcome → Option Ledger
  | [] => some l
  | o :: os => (l.follow o).bind (·.replay os)

/-- What holds of a ledger at all times. -/
structure Sound (l : Ledger) : Prop where
  room : l.opened.length ≤ l.capacity
  distinct : (l.waiting ++ l.opened).Nodup
  given : ∀ id ∈ l.waiting ++ l.opened, id.number < l.next

/-- What an accepted step can do to a ledger: give out the next number, let a number that waits be
opened or turned away, or close some of the open ones. -/
inductive Moves (l : Ledger) : Option WindowId → Ledger → Prop where
  | give (id : WindowId) (hid : id.number = l.next) :
      Moves l (some id) { l with next := l.next + 1, waiting := l.waiting ++ [id] }
  | deliver (id : WindowId) (hid : id ∈ l.waiting) (hroom : l.opened.length < l.capacity) :
      Moves l none { l with waiting := l.waiting.erase id, opened := l.opened ++ [id] }
  | turnAway (id : WindowId) : Moves l none { l with waiting := l.waiting.erase id }
  | close (opened : List WindowId) (hsub : opened.Sublist l.opened) :
      Moves l none { l with opened := opened }

theorem Moves.stay (l : Ledger) : l.Moves none l := .close l.opened (.refl _)

/-- All that is used of an accepted step in what follows. -/
theorem moves_of_follow {l l' : Ledger} {o : Outcome} (hfollow : l.follow o = some l') :
    ∃ made, o.made? = made ∧ l.Moves made l' := by
  refine ⟨o.made?, rfl, ?_⟩
  cases o with
  | made id =>
    obtain ⟨⟨hid, -⟩, ⟨⟩⟩ := Option.ite_none_right_eq_some.1 hfollow
    exact .give id hid
  | unmade e =>
    cases e with
    | allocationFailed bytes =>
      cases hfollow
      exact .stay l
    | idSpaceExhausted =>
      obtain ⟨-, ⟨⟩⟩ := Option.ite_none_right_eq_some.1 hfollow
      exact .stay l
    | _ => cases hfollow
  | registered id =>
    obtain ⟨⟨hid, hroom⟩, ⟨⟩⟩ := Option.ite_none_right_eq_some.1 hfollow
    exact .deliver id hid hroom
  | refused id e =>
    obtain ⟨-, ⟨⟩⟩ := Option.ite_none_right_eq_some.1 hfollow
    exact .turnAway id
  | removed id =>
    obtain ⟨-, ⟨⟩⟩ := Option.ite_none_right_eq_some.1 hfollow
    exact .close _ List.erase_sublist
  | missed id e =>
    obtain ⟨-, ⟨⟩⟩ := Option.ite_none_right_eq_some.1 hfollow
    exact .stay l
  | swept gone =>
    obtain ⟨-, ⟨⟩⟩ := Option.ite_none_right_eq_some.1 hfollow
    exact .close _ List.filter_sublist
  | closed =>
    cases hfollow
    exact .close [] (List.nil_sublist _)
  | other =>
    cases hfollow
    exact .stay l

theorem sound_fresh (capacity : Nat) : (fresh capacity).Sound :=
  ⟨Nat.zero_le capacity, List.nodup_nil, nofun⟩

namespace Sound

variable {l l' : Ledger} {o : Outcome}

theorem not_mem_waiting (h : l.Sound) {id : WindowId} (hid : id ∈ l.opened) : id ∉ l.waiting :=
  fun hwait => List.disjoint_of_nodup_append h.distinct hwait hid

/-- Every step that a ledger accepts keeps it sound. -/
theorem follow (h : l.Sound) (hfollow : l.follow o = some l') : l'.Sound := by
  obtain ⟨made, -, hmoves⟩ := moves_of_follow hfollow
  cases hmoves with
  | give id hid =>
    have hnew : id ∉ l.waiting ++ l.opened := fun hmem => by
      have hlt := h.given id hmem
      omega
    have hperm : (l.waiting ++ [id] ++ l.opened).Perm (id :: (l.waiting ++ l.opened)) := by
      rw [List.append_assoc]
      exact List.perm_middle
    refine ⟨h.room, hperm.nodup_iff.2 (List.nodup_cons.2 ⟨hnew, h.distinct⟩), ?_⟩
    intro i hi
    rcases List.mem_cons.1 (hperm.mem_iff.1 hi) with rfl | hold
    · exact hid ▸ Nat.lt_succ_self i.number
    · exact Nat.lt_succ_of_lt (h.given i hold)
  | deliver id hid hroom =>
    have hperm : (l.waiting.erase id ++ (l.opened ++ [id])).Perm (l.waiting ++ l.opened) := by
      have hmove : (l.opened ++ [id]).Perm ([id] ++ l.opened) := List.perm_append_comm
      refine (hmove.append_left (l.waiting.erase id)).trans ?_
      rw [← List.append_assoc]
      refine List.Perm.append_right l.opened ?_
      exact List.perm_append_comm.trans (List.perm_cons_erase hid).symm
    refine ⟨?_, hperm.nodup_iff.2 h.distinct, fun i hi => h.given i (hperm.mem_iff.1 hi)⟩
    rw [List.length_append, List.length_singleton]
    exact hroom
  | turnAway id =>
    have hsub : (l.waiting.erase id ++ l.opened).Sublist (l.waiting ++ l.opened) :=
      List.erase_sublist.append_right l.opened
    exact ⟨h.room, h.distinct.sublist hsub, fun i hi => h.given i (hsub.subset hi)⟩
  | close opened hsub =>
    have hsub' : (l.waiting ++ opened).Sublist (l.waiting ++ l.opened) := hsub.append_left l.waiting
    exact ⟨Nat.le_trans hsub.length_le h.room, h.distinct.sublist hsub',
      fun i hi => h.given i (hsub'.subset hi)⟩

end Sound

/-- A number that was given out, does not wait and is not open. -/
def Spent (l : Ledger) (id : WindowId) : Prop :=
  id.number < l.next ∧ id ∉ l.waiting ∧ id ∉ l.opened

variable {l l' : Ledger}

theorem capacity_of_follow {o : Outcome} (hfollow : l.follow o = some l') :
    l'.capacity = l.capacity := by
  obtain ⟨made, -, hmoves⟩ := moves_of_follow hfollow
  cases hmoves <;> rfl

/-- What a step can bring in: an open number waited before, and a number that waits is the next
one. -/
theorem origin_of_follow {o : Outcome} (hfollow : l.follow o = some l') :
    l.next ≤ l'.next ∧ (∀ id ∈ l'.waiting, id ∈ l.waiting ∨ id.number = l.next) ∧
      ∀ id ∈ l'.opened, id ∈ l.opened ∨ id ∈ l.waiting := by
  obtain ⟨made, -, hmoves⟩ := moves_of_follow hfollow
  cases hmoves with
  | give id hid =>
    refine ⟨Nat.le_succ _, fun i hi => ?_, fun i hi => .inl hi⟩
    rcases List.mem_append.1 hi with hold | hnew
    · exact .inl hold
    · exact .inr (List.mem_singleton.1 hnew ▸ hid)
  | deliver id hid hroom =>
    refine ⟨Nat.le_refl _, fun i hi => .inl (List.mem_of_mem_erase hi), fun i hi => ?_⟩
    rcases List.mem_append.1 hi with hold | hnew
    · exact .inl hold
    · exact .inr (List.mem_singleton.1 hnew ▸ hid)
  | turnAway id =>
    exact ⟨Nat.le_refl _, fun i hi => .inl (List.mem_of_mem_erase hi), fun i hi => .inl hi⟩
  | close opened hsub =>
    exact ⟨Nat.le_refl _, fun i hi => .inl hi, fun i hi => .inl (hsub.subset hi)⟩

/-- A spent number stays spent. -/
theorem Spent.follow {o : Outcome} {id : WindowId} (h : l.Spent id)
    (hfollow : l.follow o = some l') : l'.Spent id := by
  obtain ⟨hlt, hwait, hopen⟩ := h
  obtain ⟨hnext, hwaiting, hopened⟩ := origin_of_follow hfollow
  refine ⟨Nat.lt_of_lt_of_le hlt hnext, fun hmem => ?_, fun hmem => ?_⟩
  · rcases hwaiting id hmem with hold | hnew
    · exact hwait hold
    · omega
  · rcases hopened id hmem with hold | hold
    · exact hopen hold
    · exact hwait hold

/-- A number that was open and is not any more is spent, by whatever step. -/
theorem Sound.spent_of_follow {o : Outcome} {id : WindowId} (h : l.Sound) (hid : id ∈ l.opened)
    (hfollow : l.follow o = some l') (hgone : id ∉ l'.opened) : l'.Spent id := by
  obtain ⟨hnext, hwaiting, -⟩ := origin_of_follow hfollow
  have hlt := h.given id (List.mem_append_right _ hid)
  refine ⟨Nat.lt_of_lt_of_le hlt hnext, fun hmem => ?_, hgone⟩
  rcases hwaiting id hmem with hold | hnew
  · exact h.not_mem_waiting hid hold
  · omega

/-- A number that was turned away is spent. -/
theorem Sound.spent_of_refused {id : WindowId} {e : Fault} (h : l.Sound)
    (hfollow : l.follow (.refused id e) = some l') : l'.Spent id := by
  obtain ⟨⟨hid, -⟩, ⟨⟩⟩ := Option.ite_none_right_eq_some.1 hfollow
  have hwaiting := (List.nodup_append.1 h.distinct).1
  exact ⟨h.given id (List.mem_append_left _ hid), hwaiting.not_mem_erase,
    List.disjoint_of_nodup_append h.distinct hid⟩

theorem replay_cons {o : Outcome} {os : List Outcome} (h : l.replay (o :: os) = some l') :
    ∃ mid, l.follow o = some mid ∧ mid.replay os = some l' := Option.bind_eq_some_iff.1 h

/-- What every accepted step keeps, every accepted list of steps keeps. -/
theorem holds_of_replay {P : Ledger → Prop}
    (hstep : ∀ {l l' : Ledger} {o : Outcome}, P l → l.follow o = some l' → P l')
    {os : List Outcome} (h : P l) (hreplay : l.replay os = some l') : P l' := by
  induction os generalizing l with
  | nil =>
    cases hreplay
    exact h
  | cons o os ih =>
    obtain ⟨mid, hfollow, hrest⟩ := replay_cons hreplay
    exact ih (hstep h hfollow) hrest

theorem Sound.replay {os : List Outcome} (h : l.Sound) (hreplay : l.replay os = some l') :
    l'.Sound := holds_of_replay Sound.follow h hreplay

theorem Spent.replay {os : List Outcome} {id : WindowId} (h : l.Spent id)
    (hreplay : l.replay os = some l') : l'.Spent id := holds_of_replay Spent.follow h hreplay

theorem capacity_of_replay {os : List Outcome} (hreplay : l.replay os = some l') :
    l'.capacity = l.capacity :=
  holds_of_replay (P := (·.capacity = l.capacity)) (fun h hfollow =>
    (capacity_of_follow hfollow).trans h) rfl hreplay

theorem Sound.spent_of_replay {os : List Outcome} {id : WindowId} (h : l.Sound)
    (hid : id ∈ l.opened) (hreplay : l.replay os = some l') (hgone : id ∉ l'.opened) :
    l'.Spent id := by
  induction os generalizing l with
  | nil =>
    cases hreplay
    exact absurd hid hgone
  | cons o os ih =>
    obtain ⟨mid, hfollow, hrest⟩ := replay_cons hreplay
    by_cases hmid : id ∈ mid.opened
    · exact ih (h.follow hfollow) hmid hrest
    · exact (h.spent_of_follow hid hfollow hmid).replay hrest

theorem Sound.spent_of_mem_refused {os : List Outcome} {id : WindowId} {e : Fault} (h : l.Sound)
    (hreplay : l.replay os = some l') (hmem : .refused id e ∈ os) : l'.Spent id := by
  induction os generalizing l with
  | nil => cases hmem
  | cons o os ih =>
    obtain ⟨mid, hfollow, hrest⟩ := replay_cons hreplay
    rcases List.mem_cons.1 hmem with rfl | htail
    · exact (h.spent_of_refused hfollow).replay hrest
    · exact ih (h.follow hfollow) hrest htail

/-- The numbers of the windows that were made are the next ones in order. -/
theorem made_of_replay {os : List Outcome} (h : l.replay os = some l') :
    ∃ n, l'.next = l.next + n ∧ os.filterMap Outcome.made? = (List.range' l.next n).map .mk := by
  induction os generalizing l with
  | nil =>
    cases h
    exact ⟨0, rfl, rfl⟩
  | cons o os ih =>
    obtain ⟨mid, hfollow, hrest⟩ := replay_cons h
    obtain ⟨n, hnext, hrange⟩ := ih hrest
    obtain ⟨made, hmade, hmoves⟩ := moves_of_follow hfollow
    rw [List.filterMap_cons, hmade, hrange]
    cases hmoves with
    | give id hid =>
      have hcount : l'.next = l.next + 1 + n := hnext
      refine ⟨n + 1, by omega, ?_⟩
      rw [List.range'_succ, List.map_cons, ← hid]
    | deliver id hid hroom => exact ⟨n, hnext, rfl⟩
    | turnAway id => exact ⟨n, hnext, rfl⟩
    | close opened hsub => exact ⟨n, hnext, rfl⟩

end Ledger

namespace Bench

variable {α : Type}

/-- The numbers on the bench. -/
def ledger (b : Bench α) : Ledger :=
  ⟨b.workspace.registry.capacity, b.shop.next, b.waiting.map (·.id), b.workspace.ids⟩

variable [WindowClient α]

/-- An order is followed by the ledger. -/
theorem follow_order (b : Bench α) (heap : Heap) (o : Order α) :
    b.ledger.follow (b.step (.order heap o)).1 = some (b.step (.order heap o)).2.ledger := by
  have hmakes := o.makes_make heap b.shop
  simp only [step]
  generalize (o.make heap b.shop).value = made at hmakes
  cases hmakes with
  | window w hid hclient hleft => simp [Ledger.follow, ledger, hid, hleft]
  | noMemory bytes => rfl
  | noNumber hnone => simp [Ledger.follow, ledger, hnone]

/-- Handing over a window is followed by the ledger. -/
theorem follow_hand (b : Bench α) (h : b.ledger.Sound) (k : Nat) (caller : String) :
    b.ledger.follow (b.step (.hand k caller)).1 = some (b.step (.hand k caller)).2.ledger := by
  cases hk : b.waiting[k]? with
  | none => simp [step, hk, Ledger.follow]
  | some w =>
    obtain ⟨hlt, hget⟩ := List.getElem?_eq_some_iff.1 hk
    have hwaits : w.id ∈ b.waiting.map (·.id) := List.mem_map.2 ⟨w, List.mem_of_getElem? hk, rfl⟩
    have herase : (b.waiting.eraseIdx k).map (·.id) = (b.waiting.map (·.id)).erase w.id := by
      have hdistinct : (b.waiting.map (·.id)).Nodup := (List.nodup_append.1 h.distinct).1
      have hlt' : k < (b.waiting.map (·.id)).length := by simpa using hlt
      rw [← List.eraseIdx_map, ← hdistinct.erase_getElem k hlt', List.getElem_map, hget]
    by_cases hroom : b.workspace.ids.length < b.workspace.registry.capacity
    · have hids := Workspace.ids_add_of_room hroom w caller
      have hadd := Workspace.add_of_room hroom w caller
      rw [hadd] at hids
      simp only [step, hk, hadd, Ledger.follow, ledger, hwaits, hroom, and_self, if_true, herase,
        hids]
      rfl
    · have hfull : b.workspace.registry.capacity ≤ b.workspace.ids.length := by omega
      have hadd := Workspace.add_of_full hfull w caller
      simp only [step, hk, hadd, Ledger.follow, ledger, hwaits, hfull, and_self, if_true, herase]

/-- Serving a request is followed by the ledger. -/
theorem follow_request (b : Bench α) (h : b.ledger.Sound) (r : Workspace.Request) :
    b.ledger.follow (b.step (.request r)).1 = some (b.step (.request r)).2.ledger := by
  have hdistinct : b.workspace.ids.Nodup := (List.nodup_append.1 h.distinct).2.1
  -- apart from the numbers of the open windows nothing on the ledger moves
  have hledger : (b.step (.request r)).2.ledger =
      { b.ledger with opened := (b.workspace.serve r).value.ids } := by
    simp only [step, ledger, Workspace.capacity_serve]
  have hother {ids : List WindowId} (hids : ids = b.workspace.ids) :
      b.ledger.follow .other = some { b.ledger with opened := ids } := by
    rw [hids]
    rfl
  rw [hledger]
  cases r with
  | remove id =>
    by_cases hid : id ∈ b.workspace.ids
    · have hremove := Workspace.remove_of_mem hid
      have hopened : (b.workspace.serve (.remove id)).value.ids = b.workspace.ids.erase id :=
        b.workspace.ids_remove id
      rw [hopened]
      simp only [step, answer, hremove, Ledger.follow]
      exact if_pos hid
    · have hremove := Workspace.remove_of_not_mem hid
      have hopened : (b.workspace.serve (.remove id)).value.ids = b.workspace.ids := by
        change (b.workspace.remove id).value.2.ids = _
        rw [hremove]
      rw [hopened]
      simp only [step, answer, hremove, Ledger.follow]
      exact if_pos ⟨hid, trivial⟩
  | update ctx =>
    have hopened : (b.workspace.serve (.update ctx)).value.ids =
        b.workspace.ids.filter (· ∉ b.workspace.doomed ctx) := Workspace.ids_update hdistinct ctx
    rw [hopened]
    exact if_pos fun id => Workspace.mem_ids_of_mem_doomed
  | closeAll =>
    have hopened : (b.workspace.serve .closeAll).value.ids = [] := b.workspace.ids_closeAll
    rw [hopened]
    rfl
  | type code => exact hother (b.workspace.ids_type code)
  | refresh => exact hother b.workspace.ids_refresh
  | compose => exact hother b.workspace.ids_compose
  | setVisible id visible => exact hother (b.workspace.registry.ids_modify id fun _ => rfl)
  | place id x y => exact hother (b.workspace.registry.ids_modify id fun _ => rfl)
  | damage => rfl
  | attach fb => rfl
  | detach => rfl

/-- Every step at a bench is followed by the ledger. -/
theorem follow_step (b : Bench α) (h : b.ledger.Sound) (s : Step α) :
    b.ledger.follow (b.step s).1 = some (b.step s).2.ledger := by
  cases s with
  | order heap o => exact b.follow_order heap o
  | hand k caller => exact b.follow_hand h k caller
  | request r => exact b.follow_request h r

/-- Every run at a bench is followed by the ledger. -/
theorem replay_run (b : Bench α) (h : b.ledger.Sound) (steps : List (Step α)) :
    b.ledger.replay (b.run steps).1 = some (b.run steps).2.ledger := by
  induction steps generalizing b with
  | nil => rfl
  | cons s ss ih =>
    have hstep := b.follow_step h s
    have hrest := ih (b.step s).2 (h.follow hstep)
    simp only [run, Ledger.replay, hstep, Option.bind_some]
    exact hrest

/-- A run that starts at a bench where nothing was done yet is an ordered list of fresh numbers:
the ledger follows it, the windows are numbered in the order in which they are made, the open ones
have room and distinct numbers, and a number that was turned away, or was open and is not any more,
does not show up again. -/
theorem run_refines_ledger (config : Config) (capacity : Nat) (backing : Surface)
    (steps : List (Step α)) :
    let b : Bench α := fresh config capacity backing
    let ids (steps : List (Step α)) : List WindowId := (b.run steps).2.workspace.ids
    (Ledger.fresh capacity).replay (b.run steps).1 = some (b.run steps).2.ledger ∧
      (∃ n, (b.run steps).1.filterMap Outcome.made? = (List.range' 1 n).map .mk) ∧
      (ids steps).length ≤ capacity ∧ (ids steps).Nodup ∧
      (∀ id e more, .refused id e ∈ (b.run steps).1 → id ∉ ids (steps ++ more)) ∧
      (∀ id later more, id ∈ ids steps → id ∉ ids (steps ++ later) →
        id ∉ ids (steps ++ later ++ more)) := by
  intro b ids
  have hstart : b.ledger.Sound := Ledger.sound_fresh capacity
  have hreplay := b.replay_run hstart steps
  have hsound := hstart.replay hreplay
  have hmore (steps more : List (Step α)) : (b.run steps).2.ledger.replay
      ((b.run steps).2.run more).1 = some (b.run (steps ++ more)).2.ledger := by
    rw [run_append]
    exact (b.run steps).2.replay_run (hstart.replay (b.replay_run hstart steps)) more
  refine ⟨hreplay, ?_, ?_, (List.nodup_append.1 hsound.distinct).2.1, ?_, ?_⟩
  · obtain ⟨n, -, hmade⟩ := Ledger.made_of_replay hreplay
    exact ⟨n, hmade⟩
  · have hroom := hsound.room
    rw [Ledger.capacity_of_replay hreplay] at hroom
    exact hroom
  · intro id e more hrefused
    have hspent := hstart.spent_of_mem_refused hreplay hrefused
    exact (hspent.replay (hmore steps more)).2.2
  · intro id later more hopen hgone
    have hspent := hsound.spent_of_replay hopen (hmore steps later) hgone
    exact (hspent.replay (hmore (steps ++ later) more)).2.2

end Bench

end TickDesktop
