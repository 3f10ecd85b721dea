import Mathlib.Logic.Function.Basic
import RenderRelay.Proofs.Registry.Slots
import RenderRelay.Registry

/-!
# What each operation does to each record

Every operation of the registry is a change of the arena, record by record:
letting go changes one record, destruction all of them, and making current
one that may be new. The record found at a handle afterwards is given by the
one found there before.
-/

set_option autoImplicit false

namespace RenderRelay

/-! Who has what -/

section

open Function (update)

variable {ι β : Type} [DecidableEq ι] {held : ι → Option β} {k l : ι} {x y : β}

theorem update_none_eq_some (hl : update held k none l = some y) : l ≠ k ∧ held l = some y := by
  by_cases hlk : l = k
  · rw [hlk, Function.update_self] at hl
    cases hl
  · rw [Function.update_of_ne hlk] at hl
    exact ⟨hlk, hl⟩

theorem update_some_eq_some (hl : update held k (some x) l = some y) :
    (l = k ∧ y = x) ∨ (l ≠ k ∧ held l = some y) := by
  by_cases hlk : l = k
  · rw [hlk, Function.update_self] at hl
    exact .inl ⟨hlk, (Option.some.inj hl).symm⟩
  · rw [Function.update_of_ne hlk] at hl
    exact .inr ⟨hlk, hl⟩

end

namespace ContextRecord

def marked (c : ContextRecord) (d : Doom) : ContextRecord := { c with doom := c.doom.union d }

def outcome (c : ContextRecord) : Option ContextRecord :=
  if c.active then some c else if c.doom.reaps then none else some c.settled

def returned (c : ContextRecord) (shadow : Shadow) : ContextRecord :=
  { c with active := false, shadow := some shadow }

def taken (c : ContextRecord) (draw read : Surface) : ContextRecord :=
  { c with active := true, draw, read, shadow := none }

variable {c : ContextRecord}

theorem outcome_of_active (ha : c.active = true) : c.outcome = some c := by
  rw [outcome, if_pos ha]

theorem outcome_of_idle (ha : c.active = false) :
    c.outcome = if c.doom.reaps then none else some c.settled := by
  rw [outcome, ha]
  rfl

theorem returned_outcome (c : ContextRecord) (shadow : Shadow) :
    (c.returned shadow).outcome =
      if c.doom.reaps then none else some (c.returned shadow).settled :=
  outcome_of_idle rfl

/-- What is noted on a record says no more than that once it is settled. -/
theorem doom_settled (hr : c.doom.reaps = false) : c.settled.doom = {} := by
  obtain ⟨hd, hc⟩ := Bool.or_eq_false_iff.mp hr
  simp [settled, hd, hc]

end ContextRecord

namespace Registry

@[simp] theorem record?_empty (h : Handle) : ({} : Registry).record? h = none :=
  Arena.get?_empty h

/-! Letting go -/

theorem settle_eq (r : Registry) (h : Handle) :
    r.settle h = { r with arena := r.arena.alter h ContextRecord.outcome } := by
  unfold settle record?
  cases hv : r.arena.get? h with
  | none => rw [Arena.alter_of_none hv]
  | some c =>
    dsimp only
    by_cases ha : c.active
    · rw [if_pos ha, Arena.alter_of_set hv (ContextRecord.outcome_of_active ha),
        Arena.set_self hv]
    · have ho := ContextRecord.outcome_of_idle (Bool.eq_false_iff.mpr ha)
      rw [if_neg ha]
      by_cases hr : c.doom.reaps
      · rw [if_pos hr] at ho
        rw [if_pos hr, Arena.alter_of_erase hv ho, reap]
      · rw [if_neg hr] at ho
        rw [if_neg hr, Arena.alter_of_set hv ho, set]

/-- Settling a record right after a change of it is a single change. -/
theorem settle_set (r : Registry) {h : Handle} {c : ContextRecord} (f : ContextRecord → ContextRecord)
    (hv : r.record? h = some c) :
    (r.set h (f c)).settle h =
      { r with arena := r.arena.alter h fun c => (f c).outcome } := by
  have hv : r.arena.get? h = some c := hv
  have hs : (r.arena.set h (f c)).get? h = some (f c) := by rw [Arena.get?_set_self, hv]; rfl
  rw [settle_eq, set]
  dsimp only
  cases ho : (f c).outcome with
  | none => rw [Arena.alter_of_erase hs ho, Arena.alter_of_erase hv ho, Arena.erase_set]
  | some d => rw [Arena.alter_of_set hs ho, Arena.alter_of_set hv ho, Arena.set_set]

theorem release_eq (r : Registry) (current : Current) :
    r.release current = { r with
      arena := r.arena.alter current.handle fun c => (c.returned current.shadow).outcome } := by
  unfold release
  cases hv : r.record? current.handle with
  | none =>
    have hv : r.arena.get? current.handle = none := hv
    rw [Arena.alter_of_none hv]
  | some c => exact r.settle_set (fun c => c.returned current.shadow) hv

/-! Making current -/

def Single (r : Registry) : Prop :=
  ∀ g h c d, r.record? g = some c → r.record? h = some d →
    c.display = d.display → c.context = d.context → g = h

def handOut (r : Registry) (h : Handle) (draw read : Surface) : Registry :=
  { r with arena := r.arena.alter h fun c => some (c.taken draw read) }

theorem arena_handOut (r : Registry) (h : Handle) (draw read : Surface) :
    (r.handOut h draw read).arena = r.arena.alter h fun c => some (c.taken draw read) :=
  rfl

theorem record?_handOut_self {r : Registry} {h : Handle} {c : ContextRecord}
    (hv : r.record? h = some c) (draw read : Surface) :
    (r.handOut h draw read).record? h = some (c.taken draw read) := by
  rw [record?, arena_handOut, Arena.get?_alter, if_pos rfl,
    show r.arena.get? h = some c from hv]
  rfl

theorem record?_handOut_of_ne {r : Registry} {h g : Handle} (hg : g ≠ h) (draw read : Surface) :
    (r.handOut h draw read).record? g = r.record? g := by
  rw [record?, arena_handOut, Arena.get?_alter, if_neg hg]
  rfl

theorem generationAt_handOut (r : Registry) (h : Handle) (draw read : Surface) (i : UInt32) :
    (r.handOut h draw read).arena.generationAt i = r.arena.generationAt i := by
  rw [handOut, Arena.generationAt_alter, if_neg]
  rintro ⟨-, hv, hn⟩
  obtain ⟨c, hv⟩ := Option.isSome_iff_exists.mp hv
  rw [hv] at hn
  cases hn

theorem activate_of_idle {r : Registry} {h : Handle} {c : ContextRecord} {shadow : Shadow}
    (hv : r.record? h = some c) (ha : c.active = false) (hs : c.shadow = some shadow)
    (draw read : Surface) :
    r.activate h draw read =
      (.ok ⟨h, c.display, c.context, draw, read, shadow⟩, r.handOut h draw read) := by
  have hset : r.arena.alter h (fun c => some (c.taken draw read)) =
      r.arena.set h (c.taken draw read) := Arena.alter_of_set hv rfl
  rw [activate, hv, handOut, hset]
  simp only [ha, hs]
  rfl

theorem activate_of_active {r : Registry} {h : Handle} {c : ContextRecord}
    (hv : r.record? h = some c) (ha : c.active = true) (draw read : Surface) :
    r.activate h draw read = (.error (.contextBusy c.display c.context), r) := by
  rw [activate, hv]
  simp only [ha]

def fresh (display : Display) (context : Context) (draw read : Surface) : ContextRecord :=
  { display, context, draw, read, active := false, shadow := some .fresh }

def add (r : Registry) (display : Display) (context : Context) (draw read : Surface) :
    Handle × Registry :=
  ((r.arena.insert (fresh display context draw read)).1,
    { r with arena := (r.arena.insert (fresh display context draw read)).2 })

theorem record?_add {r : Registry} (hr : r.arena.Sound) (display : Display) (context : Context)
    (draw read : Surface) (h : Handle) :
    (r.add display context draw read).2.record? h =
      if h = (r.add display context draw read).1 then some (fresh display context draw read)
      else r.record? h :=
  Arena.get?_insert hr _ h

theorem record?_add_self {r : Registry} (hr : r.arena.Sound) (display : Display)
    (context : Context) (draw read : Surface) :
    (r.add display context draw read).2.record? (r.add display context draw read).1 =
      some (fresh display context draw read) := by
  rw [record?_add hr, if_pos rfl]

theorem findOrCreate_of_record {r : Registry} (hr : r.arena.Sound) (hu : r.Single) {h : Handle}
    {c : ContextRecord} (hv : r.record? h = some c) (draw read : Surface) :
    r.findOrCreate c.display draw read c.context = r.activate h draw read := by
  unfold findOrCreate
  cases hf : r.arena.find? fun d => d.display = c.display && d.context = c.context with
  | none =>
    have hn := (Arena.find?_eq_none_iff hr).mp hf h c hv
    simp at hn
  | some found =>
    obtain ⟨g, d⟩ := found
    obtain ⟨hg, hp⟩ := Arena.get?_of_find? hr hf
    simp only [Bool.and_eq_true, decide_eq_true_eq] at hp
    rw [hu g h d c hg hv hp.1 hp.2]

theorem findOrCreate_of_none {r : Registry} (hr : r.arena.Sound) {display : Display}
    {context : Context}
    (hn : ∀ h c, r.record? h = some c → ¬ (c.display = display ∧ c.context = context))
    (draw read : Surface) :
    r.findOrCreate display draw read context =
      (r.add display context draw read).2.activate (r.add display context draw read).1
        draw read := by
  unfold findOrCreate
  have hf : (r.arena.find? fun c => c.display = display && c.context = context) = none := by
    rw [Arena.find?_eq_none_iff hr]
    intro h c hv
    have hc := hn h c hv
    simpa using hc
  rw [hf]
  rfl

/-! Destruction -/

def destroyed (doomed : Handle → ContextRecord → Option Doom) (h : Handle) (c : ContextRecord) :
    Option ContextRecord :=
  match doomed h c with
  | none => some c
  | some d => (c.marked d).outcome

variable {doomed : Handle → ContextRecord → Option Doom} {h : Handle} {c : ContextRecord}

theorem destroyed_of_active (ha : c.active = true) :
    destroyed doomed h c = some (c.marked ((doomed h c).getD {})) := by
  cases hd : doomed h c with
  | none =>
    have hunion : c.doom.union {} = c.doom := by simp [Doom.union]
    rw [destroyed, hd, Option.getD_none, ContextRecord.marked, hunion]
  | some d =>
    have hm : (c.marked d).active = true := ha
    rw [destroyed, hd, Option.getD_some]
    exact ContextRecord.outcome_of_active hm

theorem destroyed_of_idle (ha : c.active = false) :
    destroyed doomed h c = match doomed h c with
      | none => some c
      | some d => if (c.marked d).doom.reaps then none else some (c.marked d).settled := by
  cases hd : doomed h c with
  | none => rw [destroyed, hd]
  | some d =>
    have hm : (c.marked d).active = false := ha
    rw [destroyed, hd]
    exact ContextRecord.outcome_of_idle hm

theorem foldl_alter {each : Handle → ContextRecord → Option ContextRecord}
    {step : Registry → Handle → Registry}
    (hstep : ∀ r h, step r h = { r with arena := r.arena.alter h (each h) })
    (hs : List Handle) (r : Registry) :
    hs.foldl step r = { r with arena := r.arena.alterEach each hs } := by
  induction hs generalizing r with
  | nil => rfl
  | cons h hs ih =>
    rw [List.foldl_cons, ih, hstep]
    rfl

theorem mark_eq (r : Registry) (doomed : Handle → ContextRecord → Option Doom) :
    (r.mark doomed).2 = { r with arena := r.arena.alterAll (destroyed doomed) } := by
  refine foldl_alter ?_ r.arena.handles r
  intro r h
  cases hv : r.record? h with
  | none =>
    have hv : r.arena.get? h = none := hv
    rw [Arena.alter_of_none hv]
  | some c =>
    have hv' : r.arena.get? h = some c := hv
    dsimp only
    cases hd : doomed h c with
    | none =>
      have ho : destroyed doomed h c = some c := by rw [destroyed, hd]
      rw [Arena.alter_of_set hv' ho, Arena.set_self hv']
    | some d =>
      have ho : r.arena.alter h (destroyed doomed h) =
          r.arena.alter h fun c => (c.marked d).outcome := by
        unfold Arena.alter
        rw [hv']
        simp only [destroyed, hd]
      rw [ho]
      exact r.settle_set (fun c => c.marked d) hv

theorem mark_count {r : Registry} (hr : r.arena.Sound)
    (doomed : Handle → ContextRecord → Option Doom) :
    (r.mark doomed).1 = r.records.countP fun (h, c) => (destroyed doomed h c).isNone := by
  have hc : (r.arena.alterAll (destroyed doomed)).count +
      r.records.countP (fun (h, c) => (destroyed doomed h c).isNone) = r.arena.count :=
    Arena.count_alterAll hr
  have he : (r.mark doomed).1 = r.arena.count - (r.mark doomed).2.arena.count := rfl
  rw [he, mark_eq, ← hc]
  exact Nat.add_sub_cancel_left ..

theorem teardown_eq (r : Registry) :
    r.teardown.2 = { arena := r.arena.alterAll fun _ _ => none, initialized := false } := by
  have hreap : ∀ (r : Registry) h, r.reap h = { r with arena := r.arena.alter h fun _ => none } := by
    intro r h
    cases hv : r.arena.get? h with
    | none => rw [Arena.alter_of_none hv, reap, Arena.erase, hv]
    | some c => rw [Arena.alter_of_erase hv rfl, reap]
  rw [teardown, foldl_alter hreap]
  rfl

def revived (display : Display) (c : ContextRecord) : ContextRecord :=
  { c with doom := if c.display = display then { c.doom with display := false } else c.doom }

theorem initDisplay_eq (r : Registry) (display : Display) :
    r.initDisplay display = { initialized := true, arena := r.arena.map (revived display) } := by
  have hf : (fun c : ContextRecord =>
      if c.display = display then { c with doom := { c.doom with display := false } } else c) =
      revived display := by
    funext c
    unfold revived
    split <;> rfl
  rw [initDisplay, hf]

end Registry

end RenderRelay
