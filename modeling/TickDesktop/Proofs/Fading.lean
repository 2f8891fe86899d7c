import Mathlib.Algebra.GroupWithZero.Nat
import Mathlib.Data.List.Induction
import TickDesktop.Proofs.NamedWindows

/-!
# The splash fades and leaves

A frame takes some alpha off a splash: what it loses is a number of its own, at least one while time
passes and the splash has a speed, and what is left is what subtraction leaves. So the alpha after a
run of frames is the first one less all losses. The splash stays on its workspace as long as that is
positive, and is destroyed by the frame that leaves none.
-/
namespace TickDesktop

/-! ## Alpha -/

namespace Splash

theorem toNat_fade (alpha loss : UInt8) : (fade alpha loss).toNat = alpha.toNat - loss.toNat := by
  unfold fade
  split
  · next hle =>
    have hle' := UInt8.le_iff_toNat_le.1 hle
    simp
    omega
  · next hlt => exact UInt8.toNat_sub_of_le _ _ (UInt8.le_of_lt (UInt8.not_le.1 hlt))

/-- While time passes and the splash has a speed, it loses something. -/
theorem one_le_fadeLoss {delta speed : Float32} (hdelta : 0 < delta) (hspeed : 0 < speed) :
    1 ≤ (fadeLoss delta speed).toNat := by
  have hmax (a : UInt8) : 1 ≤ (max a 1).toNat := by
    change 1 ≤ (if a ≤ 1 then 1 else a).toNat
    split
    · decide
    · next hgt =>
      have hlt := UInt8.lt_iff_toNat_lt.1 (UInt8.not_le.1 hgt)
      exact Nat.le_of_lt hlt
  unfold fadeLoss
  rw [if_pos ⟨hdelta, hspeed⟩]
  dsimp only
  split
  · decide
  · exact hmax _

/-- A frame too short for one step takes one all the same, a longer one the whole steps of it. -/
example : fadeLoss 0.001 1 = 1 ∧ fadeLoss 0.1 0.5 = 12 := by decide +kernel

end Splash

namespace Window

variable {α : Type}

/-- The alpha that is left of a background. -/
def alpha (w : Window α) : UInt8 := w.pane.background.a

variable [WindowClient α]

/-- A window after frames, if it is still there. -/
def afterFrames (w : Window α) (ctxs : List FrameContext) : Window α :=
  ctxs.foldl (fun w ctx => (w.updated ctx).clean) w

theorem afterFrames_cons (w : Window α) (ctx : FrameContext) (ctxs : List FrameContext) :
    w.afterFrames (ctx :: ctxs) = (w.updated ctx).clean.afterFrames ctxs := rfl

theorem afterFrames_concat (w : Window α) (ctxs : List FrameContext) (ctx : FrameContext) :
    w.afterFrames (ctxs ++ [ctx]) = ((w.afterFrames ctxs).updated ctx).clean :=
  List.foldl_concat ..

@[simp] theorem id_afterFrames (w : Window α) (ctxs : List FrameContext) :
    (w.afterFrames ctxs).id = w.id := by
  induction ctxs generalizing w with
  | nil => rfl
  | cons ctx ctxs ih => exact ih _

/-- The window is driven by a splash. -/
def IsSplash (w : Window α) (s : Splash) : Prop := w.behavior = .splash s

namespace IsSplash

variable {w : Window α} {s : Splash}

protected theorem updated (h : w.IsSplash s) (ctx : FrameContext) :
    (w.updated ctx).clean.IsSplash s := by
  obtain ⟨id, archetype, pane, behavior⟩ := w
  cases h
  rfl

protected theorem afterFrames (h : w.IsSplash s) (ctxs : List FrameContext) :
    (w.afterFrames ctxs).IsSplash s := by
  induction ctxs generalizing w with
  | nil => exact h
  | cons ctx ctxs ih => exact ih (h.updated ctx)

/-- A frame takes its loss off the alpha. -/
theorem alpha_updated (h : w.IsSplash s) (ctx : FrameContext) :
    (w.updated ctx).clean.alpha.toNat =
      w.alpha.toNat - (Splash.fadeLoss ctx.delta s.fadeSpeed).toNat := by
  obtain ⟨id, archetype, pane, behavior⟩ := w
  cases h
  change (s.update pane ctx).2.background.a.toNat = pane.background.a.toNat - _
  unfold Splash.update
  by_cases hzero : pane.background.a = 0
  · simp [hzero]
  · rw [if_neg hzero]
    exact Splash.toNat_fade _ _

/-- It asks to go just if none is left. -/
theorem verdict_eq_destroy_iff (h : w.IsSplash s) (ctx : FrameContext) :
    w.verdict ctx = .destroy ↔ (w.updated ctx).clean.alpha = 0 := by
  obtain ⟨id, archetype, pane, behavior⟩ := w
  cases h
  change (s.update pane ctx).1 = .destroy ↔ (s.update pane ctx).2.background.a = 0
  unfold Splash.update
  by_cases hzero : pane.background.a = 0
  · simp [hzero]
  · rw [if_neg hzero]
    dsimp only [Color.withAlpha]
    split <;> simp_all

theorem owner_updated (h : w.IsSplash s) (ctx : FrameContext) :
    (w.updated ctx).clean.pane.owner = w.pane.owner := by
  obtain ⟨id, archetype, pane, behavior⟩ := w
  cases h
  change (s.update pane ctx).2.owner = pane.owner
  unfold Splash.update
  split <;> rfl

theorem owner_afterFrames (h : w.IsSplash s) (ctxs : List FrameContext) :
    (w.afterFrames ctxs).pane.owner = w.pane.owner := by
  induction ctxs generalizing w with
  | nil => rfl
  | cons ctx ctxs ih => rw [afterFrames_cons, ih (h.updated ctx), h.owner_updated]

/-- The alpha after frames is the first one less all losses. -/
theorem alpha_afterFrames (h : w.IsSplash s) (ctxs : List FrameContext) :
    (w.afterFrames ctxs).alpha.toNat = w.alpha.toNat -
      (ctxs.map fun ctx => (Splash.fadeLoss ctx.delta s.fadeSpeed).toNat).sum := by
  induction ctxs generalizing w with
  | nil => simp [afterFrames]
  | cons ctx ctxs ih =>
    rw [afterFrames_cons, ih (h.updated ctx), h.alpha_updated, List.map_cons, List.sum_cons]
    omega

end IsSplash

end Window

/-! ## The splash on its workspace -/

namespace Workspace

variable {α : Type} [WindowClient α] {m : Workspace α} {w : Window α} {s : Splash}

/-- A workspace after several updates. -/
def updateAll (m : Workspace α) (ctxs : List FrameContext) : Traced α (Workspace α) :=
  m.serveAll (ctxs.map .update)

theorem updateAll_append (m : Workspace α) (ctxs more : List FrameContext) :
    m.updateAll (ctxs ++ more) = m.updateAll ctxs >>= fun m => m.updateAll more := by
  induction ctxs generalizing m with
  | nil => simp [updateAll, serveAll]
  | cons ctx ctxs ih => simp_all [updateAll, serveAll]

theorem value_updateAll_concat (m : Workspace α) (ctxs : List FrameContext) (ctx : FrameContext) :
    (m.updateAll (ctxs ++ [ctx])).value = ((m.updateAll ctxs).value.serve (.update ctx)).value := by
  rw [updateAll_append]
  simp [updateAll, serveAll]

theorem callsTo_updateAll_concat (m : Workspace α) (ctxs : List FrameContext) (ctx : FrameContext)
    (id : WindowId) : callsTo id (m.updateAll (ctxs ++ [ctx])).journal =
      callsTo id (m.updateAll ctxs).journal ++
        callsTo id ((m.updateAll ctxs).value.serve (.update ctx)).journal := by
  rw [updateAll_append]
  simp [updateAll, serveAll]

/-- A splash with alpha left after a frame is called to update and stays. -/
theorem update_of_alpha_ne (hw : m.named w.id = [w]) (hs : w.IsSplash s) {ctx : FrameContext}
    (halpha : (w.updated ctx).clean.alpha ≠ 0) :
    (m.serve (.update ctx)).value.named w.id = [(w.updated ctx).clean] ∧
      callsTo w.id (m.serve (.update ctx)).journal = [.update ctx] := by
  have hstay : w.verdict ctx ≠ .destroy := mt (hs.verdict_eq_destroy_iff ctx).1 halpha
  constructor
  · rw [serve, Traced.value_map, named_update, hw]
    simp [hstay]
  · rw [serve, Traced.journal_map, callsTo_update, hw]
    simp [hstay]

/-- A splash without alpha after a frame is called to update and destroyed. -/
theorem update_of_alpha_eq (hw : m.named w.id = [w]) (hs : w.IsSplash s) {ctx : FrameContext}
    (halpha : (w.updated ctx).clean.alpha = 0) :
    w.id ∉ (m.serve (.update ctx)).value.ids ∧
      callsTo w.id (m.serve (.update ctx)).journal =
        [.update ctx, .destroy w.pane.owner] := by
  have hgo : w.verdict ctx = .destroy := (hs.verdict_eq_destroy_iff ctx).2 halpha
  constructor
  · rw [← named_eq_nil_iff, serve, Traced.value_map, named_update, hw]
    simp [hgo]
  · rw [serve, Traced.journal_map, callsTo_update, hw]
    simp [hgo, hs.owner_updated]

/-- The splash has been through updates without running out of alpha. -/
def Lasts (w : Window α) (ctxs : List FrameContext) : Prop :=
  ctxs = [] ∨ (w.afterFrames ctxs).alpha ≠ 0

theorem Lasts.of_concat (hs : w.IsSplash s) {ctxs : List FrameContext} {ctx : FrameContext}
    (h : Lasts w (ctxs ++ [ctx])) : Lasts w ctxs := by
  right
  intro hzero
  refine h.elim (by simp) fun hne => hne ?_
  rw [Window.afterFrames_concat, ← UInt8.toNat_inj, (hs.afterFrames ctxs).alpha_updated, hzero]
  simp

/-- As long as it lasts, the splash stays, and every update calls it once. -/
theorem updateAll_of_lasts (hw : m.named w.id = [w]) (hs : w.IsSplash s)
    {ctxs : List FrameContext} (h : Lasts w ctxs) :
    (m.updateAll ctxs).value.named w.id = [w.afterFrames ctxs] ∧
      callsTo w.id (m.updateAll ctxs).journal = ctxs.map .update := by
  induction ctxs using List.reverseRecOn with
  | nil => exact ⟨hw, rfl⟩
  | append_singleton ctxs ctx ih =>
    obtain ⟨hnamed, hcalls⟩ := ih (h.of_concat hs)
    have halpha : ((w.afterFrames ctxs).updated ctx).clean.alpha ≠ 0 := by
      rw [← Window.afterFrames_concat]
      exact h.resolve_left (by simp)
    rw [← w.id_afterFrames ctxs] at hnamed
    obtain ⟨hstays, hcall⟩ := update_of_alpha_ne hnamed (hs.afterFrames ctxs) halpha
    rw [Window.id_afterFrames] at hstays hcall
    constructor
    · rw [value_updateAll_concat, hstays, Window.afterFrames_concat]
    · rw [callsTo_updateAll_concat, hcalls, hcall, List.map_append]
      rfl

/-- The update that leaves no alpha destroys the splash, and nothing that is done to the workspace
from then on calls it. -/
theorem updateAll_of_fades (hw : m.named w.id = [w]) (hs : w.IsSplash s)
    {before : List FrameContext} {ctx : FrameContext} (h : Lasts w before)
    (hzero : (w.afterFrames (before ++ [ctx])).alpha = 0) :
    w.id ∉ (m.updateAll (before ++ [ctx])).value.ids ∧
      callsTo w.id (m.updateAll (before ++ [ctx])).journal =
        (before ++ [ctx]).map .update ++ [.destroy w.pane.owner] := by
  obtain ⟨hnamed, hcalls⟩ := updateAll_of_lasts hw hs h
  rw [Window.afterFrames_concat] at hzero
  rw [← w.id_afterFrames before] at hnamed
  obtain ⟨hgone, hcall⟩ := update_of_alpha_eq hnamed (hs.afterFrames before) hzero
  rw [Window.id_afterFrames] at hgone hcall
  rw [hs.owner_afterFrames] at hcall
  constructor
  · rwa [value_updateAll_concat]
  · rw [callsTo_updateAll_concat, hcalls, hcall]
    simp

/-- If the splash does not last, then there is the update that leaves no alpha. -/
theorem exists_fade {ctxs : List FrameContext} (h : ¬ Lasts w ctxs) :
    ∃ before ctx later, ctxs = before ++ ctx :: later ∧ Lasts w before ∧
      (w.afterFrames (before ++ [ctx])).alpha = 0 := by
  induction ctxs using List.reverseRecOn with
  | nil => exact absurd (.inl rfl) h
  | append_singleton ctxs ctx ih =>
    by_cases hlasts : Lasts w ctxs
    · refine ⟨ctxs, ctx, [], rfl, hlasts, ?_⟩
      exact Decidable.of_not_not fun hne => h (.inr hne)
    · obtain ⟨before, last, later, rfl, hbefore, hzero⟩ := ih hlasts
      exact ⟨before, last, later ++ [ctx], by simp, hbefore, hzero⟩

/-- A splash with a speed lasts for fewer updates in which time passes than it has alpha. -/
theorem not_lasts_of_le_countP (hs : w.IsSplash s) (hspeed : 0 < s.fadeSpeed)
    {ctxs : List FrameContext} (h : max w.alpha.toNat 1 ≤ ctxs.countP (0 < ·.delta)) :
    ¬ Lasts w ctxs := by
  have hlosses : ctxs.countP (0 < ·.delta) ≤
      (ctxs.map fun ctx => (Splash.fadeLoss ctx.delta s.fadeSpeed).toNat).sum := by
    clear h
    induction ctxs with
    | nil => simp
    | cons ctx ctxs ih =>
      rw [List.countP_cons, List.map_cons, List.sum_cons]
      split
      · next hdelta =>
        have hloss := Splash.one_le_fadeLoss (of_decide_eq_true hdelta) hspeed
        omega
      · omega
  have hleft := hs.alpha_afterFrames ctxs
  rintro (rfl | hne)
  · simp at h
  · refine hne (UInt8.toNat_inj.1 ?_)
    rw [hleft]
    simp only [UInt8.toNat_zero]
    omega

/-- On a bench every window is alone with its number. On every workspace where a splash is, its
alpha never grows, and shrinks with every frame in which time passes as long as it has a speed and
any alpha. While updates leave it some alpha it stays, called once by each of them. The first update
that leaves none calls it for the last time and destroys it, whatever is done to the workspace
later. With a speed, that comes with as many updates in which time passes as it has alpha at the
latest. -/
theorem splash_fades_and_leaves :
    (∀ (config : Config) (capacity : Nat) (backing : Surface) (steps : List (Bench.Step α)),
      let m := ((Bench.fresh config capacity backing).run steps).2.workspace
      ∀ w ∈ m.registry.windows, m.named w.id = [w]) ∧
    ∀ (m : Workspace α) (w : Window α) (s : Splash), m.named w.id = [w] → w.IsSplash s →
      (∀ ctxs ctx,
        (w.afterFrames (ctxs ++ [ctx])).alpha ≤ (w.afterFrames ctxs).alpha ∧
        (0 < ctx.delta → 0 < s.fadeSpeed → (w.afterFrames ctxs).alpha ≠ 0 →
          (w.afterFrames (ctxs ++ [ctx])).alpha < (w.afterFrames ctxs).alpha)) ∧
      (∀ ctxs, Lasts w ctxs →
        (m.updateAll ctxs).value.named w.id = [w.afterFrames ctxs] ∧
        callsTo w.id (m.updateAll ctxs).journal = ctxs.map .update) ∧
      (∀ before ctx, Lasts w before → (w.afterFrames (before ++ [ctx])).alpha = 0 →
        let faded := m.updateAll (before ++ [ctx])
        w.id ∉ faded.value.ids ∧
        callsTo w.id faded.journal =
          (before ++ [ctx]).map .update ++ [.destroy w.pane.owner] ∧
        ∀ later : List (Command α), (∀ w' caller, .register w' caller ∈ later → w'.id ≠ w.id) →
          w.id ∉ (faded.value.obeyAll later).value.ids ∧
          callsTo w.id (faded.value.obeyAll later).journal = []) ∧
      (0 < s.fadeSpeed → ∀ ctxs, max w.alpha.toNat 1 ≤ ctxs.countP (0 < ·.delta) →
        w.id ∉ (m.updateAll ctxs).value.ids ∧
        ∃ before ctx later, ctxs = before ++ ctx :: later ∧ Lasts w before ∧
          (w.afterFrames (before ++ [ctx])).alpha = 0 ∧
          callsTo w.id (m.updateAll ctxs).journal =
            (before ++ [ctx]).map .update ++ [.destroy w.pane.owner]) := by
  refine ⟨fun config capacity backing steps w hw => ?_,
    fun m w s hw hs => ⟨fun ctxs ctx => ?_, fun ctxs h => updateAll_of_lasts hw hs h, ?_, ?_⟩⟩
  · exact Bench.named_run config capacity backing steps hw
  · have hstep := (hs.afterFrames ctxs).alpha_updated ctx
    rw [Window.afterFrames_concat, UInt8.le_iff_toNat_le, UInt8.lt_iff_toNat_lt, hstep]
    refine ⟨by omega, fun hdelta hspeed hne => ?_⟩
    have hloss := Splash.one_le_fadeLoss hdelta hspeed
    have hsome : (w.afterFrames ctxs).alpha.toNat ≠ 0 := fun hzero => hne (UInt8.toNat_inj.1 hzero)
    omega
  · intro before ctx hlasts hzero faded
    obtain ⟨hgone, hcalls⟩ := updateAll_of_fades hw hs hlasts hzero
    exact ⟨hgone, hcalls, fun later hlater => not_mem_obeyAll hgone hlater⟩
  · intro hspeed ctxs hcount
    obtain ⟨before, ctx, later, rfl, hlasts, hzero⟩ :=
      exists_fade (not_lasts_of_le_countP hs hspeed hcount)
    obtain ⟨hgone, hcalls⟩ := updateAll_of_fades hw hs hlasts hzero
    obtain ⟨hstill, hsilent⟩ := not_mem_serveAll hgone (later.map .update)
    have hsplit : before ++ ctx :: later = (before ++ [ctx]) ++ later := by simp
    refine ⟨?_, before, ctx, later, rfl, hlasts, hzero, ?_⟩
    · rw [hsplit, updateAll_append]
      exact hstill
    · rw [hsplit, updateAll_append, Traced.journal_bind, callsTo_append, hcalls]
      simpa [updateAll] using hsilent

/-- A splash with an alpha of two, on which a millisecond takes less than one from the alpha: it is
gone with the second update in which time passes, and with the fifth one of all. -/
theorem splash_fades_and_leaves_slowly :
    let config : Config := {
      splash := { width := 1, height := 1, fadeSpeed := 1, background := ⟨0, 0, 0, 2⟩ } }
    let steps : List (Bench.Step Empty) :=
      [.order .ample (.plain .splash "logo" {}), .hand 0 "boot"]
    let m := ((Bench.fresh config 1 (.filled 1 1 0)).run steps).2.workspace
    let before : List FrameContext :=
      [⟨1, Float32.ofBits 0x7FC00000, 0⟩, ⟨1, -1, 0⟩, ⟨1, 0.001, 0⟩, ⟨2, 0, 0⟩]
    let ctx : FrameContext := ⟨3, 0.001, 0⟩
    ∃ w s, m.named ⟨1⟩ = [w] ∧ w.IsSplash s ∧ w.alpha = 2 ∧ 0 < s.fadeSpeed ∧
      (before ++ [ctx]).countP (0 < ·.delta) = 2 ∧ Lasts w before ∧
      (m.updateAll before).value.named ⟨1⟩ = [w.afterFrames before] ∧
      ⟨1⟩ ∉ (m.updateAll (before ++ [ctx])).value.ids ∧
      callsTo ⟨1⟩ (m.updateAll (before ++ [ctx])).journal =
        (before ++ [ctx]).map .update ++ [.destroy (some "boot")] := by
  intro config steps m before ctx
  obtain ⟨w, hnamed⟩ : ∃ w, m.named ⟨1⟩ = [w] := List.length_eq_one_iff.1 (by decide +kernel)
  have hread {β : Type} (f : Window Empty → β) {b : β} (h : (m.named ⟨1⟩).map f = [b]) :
      f w = b := by
    rw [hnamed] at h
    exact List.singleton_inj.1 h
  have hs : w.IsSplash ⟨1, none, .magenta⟩ := hread (·.behavior) rfl
  have hid : w.id = ⟨1⟩ := hread (·.id) (by decide +kernel)
  have hopen : w ∈ m.registry.windows := by
    have hmem : w ∈ m.named ⟨1⟩ := by simp [hnamed]
    exact (List.mem_filter.1 hmem).1
  have halpha : w.alpha = 2 := hread (·.alpha) (by decide +kernel)
  have howner : w.pane.owner = some "boot" := hread (·.pane.owner) (by decide +kernel)
  have hlast : (w.afterFrames before).alpha = 1 :=
    hread (fun w => (w.afterFrames before).alpha) (by decide +kernel)
  have hzero : (w.afterFrames (before ++ [ctx])).alpha = 0 :=
    hread (fun w => (w.afterFrames (before ++ [ctx])).alpha) (by decide +kernel)
  have hcount : (before ++ [ctx]).countP (0 < ·.delta) = 2 := by decide +kernel
  have hspeed : 0 < (1 : Float32) := by decide +kernel
  obtain ⟨halone, hfade⟩ := splash_fades_and_leaves (α := Empty)
  obtain ⟨-, hstays, hleaves, hsoon⟩ := hfade m w _ (halone config 1 _ steps w hopen) hs
  have hlasts : Lasts w before := .inr (by simp [hlast])
  have hgone := (hsoon hspeed (before ++ [ctx]) (by rw [halpha, hcount]; decide)).1
  have hcalls := (hleaves before ctx hlasts hzero).2.1
  rw [hid] at hgone hcalls hstays
  rw [howner] at hcalls
  exact ⟨w, _, hnamed, hs, halpha, hspeed, hcount, hlasts, (hstays before hlasts).1, hgone, hcalls⟩

end Workspace

end TickDesktop
