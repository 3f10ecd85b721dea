import RenderRelay.Proofs.Registry.Records

/-!
# Where the shadows are

The shadow of a record is in it, or with the worker the record was handed to.
No operation loses a shadow, doubles one or puts it under another handle, and
only a new record brings a fresh one. None of this depends on how many slots
there are or how often they were emptied: a handle that comes up again finds
nothing in between.
-/

set_option autoImplicit false

namespace RenderRelay

open Function (update)

/-! Vacant slots -/

namespace Arena

variable {α : Type} {a : Arena α}

theorem Spare.alter (ha : a.Spare) (h : Handle) (f : α → Option α) : (a.alter h f).Spare := by
  cases hv : a.get? h with
  | none => rwa [alter_of_none hv]
  | some v =>
    have hl := index_lt_of_get? hv
    have hn := ha.not_mem_vacant hv
    have hother : ∀ i ∈ a.vacant, ∀ s : Slot α, ∃ g,
        (a.slots.set h.index.toNat s)[i.toNat]? = some ⟨g, none⟩ := by
      intro i hi s
      have hne : h.index.toNat ≠ i.toNat := fun e => hn (UInt32.toNat_inj.mp e ▸ hi)
      rw [List.getElem?_set_ne hne]
      exact ha.empty i hi
    cases hf : f v with
    | none =>
      rw [alter_of_erase hv hf, erase_of_get? hv]
      constructor
      case nodup => exact List.nodup_cons.mpr ⟨hn, ha.nodup⟩
      case empty =>
        intro i hi
        rcases List.mem_cons.mp hi with rfl | hi
        · exact ⟨h.generation + 1, by simp [hl]⟩
        · exact hother i hi _
    | some w =>
      rw [alter_of_set hv hf, set_of_get? hv]
      exact ⟨ha.nodup, fun i hi => hother i hi _⟩

theorem Spare.map (ha : a.Spare) (f : α → α) : (a.map f).Spare := by
  refine ⟨ha.nodup, ?_⟩
  intro i hi
  obtain ⟨g, hg⟩ := ha.empty i hi
  refine ⟨g, ?_⟩
  show (a.slots.map _)[i.toNat]? = _
  rw [List.getElem?_map, hg]
  rfl

theorem Spare.insert (ha : a.Spare) (v : α) : (a.insert v).2.Spare := by
  have hnd := ha.nodup
  rcases insert_eq ha v with ⟨i, rest, hv, -, he⟩ | ⟨hv, he⟩
  · rw [hv] at hnd
    obtain ⟨hi, hrest⟩ := List.nodup_cons.mp hnd
    rw [he]
    refine ⟨hrest, fun j hj => ?_⟩
    have hne : i.toNat ≠ j.toNat := fun e => hi (UInt32.toNat_inj.mp e ▸ hj)
    rw [List.getElem?_set_ne hne]
    exact ha.empty j (hv ▸ List.mem_cons_of_mem i hj)
  · rw [he]
    refine ⟨hnd, fun j hj => ?_⟩
    obtain ⟨g, hg⟩ := ha.empty j hj
    have hl := (List.getElem?_eq_some_iff.mp hg).1
    exact ⟨g, by rw [List.getElem?_append_left hl, hg]⟩

/-- What is found once a value was put in was there before, or is the new value
in a slot that had nothing and had come to just this generation. -/
theorem Spare.found_insert (ha : a.Spare) {v w : α} {h : Handle}
    (hw : (a.insert v).2.get? h = some w) :
    a.get? h = some w ∨ w = v ∧ a.get? h = none ∧ a.generationAt h.index = h.generation := by
  rw [get?_eq_some_iff] at hw
  rcases insert_eq ha v with ⟨i, rest, -, hs, he⟩ | ⟨-, he⟩
  · have hl := (List.getElem?_eq_some_iff.mp hs).1
    rw [he] at hw
    by_cases hi : i = h.index
    · subst hi
      rw [List.getElem?_set_self hl] at hw
      simp only [Option.some.injEq, Slot.mk.injEq] at hw
      exact .inr ⟨hw.2.symm, by simp [get?, hs], hw.1⟩
    · have hne : i.toNat ≠ h.index.toNat := fun e => hi (UInt32.toNat_inj.mp e)
      rw [List.getElem?_set_ne hne] at hw
      exact .inl (get?_eq_some_iff.mpr hw)
  · rw [he] at hw
    by_cases hl : h.index.toNat < a.slots.length
    · rw [List.getElem?_append_left hl] at hw
      exact .inl (get?_eq_some_iff.mpr hw)
    · have hnone : a.slots[h.index.toNat]? = none := List.getElem?_eq_none (by omega)
      rw [List.getElem?_append_right (by omega), List.getElem?_singleton] at hw
      split at hw
      · simp only [Option.some.injEq, Slot.mk.injEq] at hw
        obtain ⟨hgen, rfl⟩ := hw
        exact .inr ⟨rfl, by simp [get?, hnone], by rw [generationAt, hnone]; exact hgen⟩
      · cases hw

theorem Spare.get?_insert_of_some (ha : a.Spare) (v : α) {w : α} {h : Handle}
    (hw : a.get? h = some w) : (a.insert v).2.get? h = some w := by
  rw [get?_eq_some_iff] at hw ⊢
  rcases insert_eq ha v with ⟨i, rest, hv, -, he⟩ | ⟨-, he⟩
  · have hne : i.toNat ≠ h.index.toNat := by
      intro e
      have hi : h.index ∈ a.vacant := UInt32.toNat_inj.mp e ▸ hv ▸ List.mem_cons_self
      exact ha.not_mem_vacant (get?_eq_some_iff.mpr hw) hi
    rw [he, List.getElem?_set_ne hne, hw]
  · have hl := (List.getElem?_eq_some_iff.mp hw).1
    rw [he, List.getElem?_append_left hl, hw]

end Arena

namespace Registry

variable {r r' : Registry} {out : Nat → Option Current}

def ShadowAt (r : Registry) (out : Nat → Option Current) (h : Handle) (shadow : Shadow) : Prop :=
  ∃ c, r.record? h = some c ∧ (c.shadow = some shadow ∨
    c.shadow = none ∧ ∃ w k, out w = some k ∧ k.handle = h ∧ k.shadow = shadow)

structure Custody (r : Registry) (out : Nat → Option Current) : Prop where
  spare : r.arena.Spare
  /-- Just the shadows of active records are out. -/
  tidy : ∀ h c, r.record? h = some c → c.shadow.isSome = !c.active
  /-- Every active record was handed to a worker that has it still. -/
  owned : ∀ h c, r.record? h = some c → c.active = true → ∃ w k, out w = some k ∧ k.handle = h
  held : ∀ w k, out w = some k → ∃ c, r.record? k.handle = some c ∧ c.active = true
  /-- No two workers have one record. -/
  apart : ∀ v w j k, out v = some j → out w = some k → j.handle = k.handle → v = w

theorem empty_custody : Custody {} fun _ => none where
  spare := Arena.empty_spare
  tidy h c hc := by simp at hc
  owned h c hc := by simp at hc
  held _ _ hk := by cases hk
  apart _ _ _ _ hj := by cases hj

namespace Custody

theorem shadowAt_of_out (hc : Custody r out) {w : Nat} {k : Current} (hk : out w = some k) :
    r.ShadowAt out k.handle k.shadow := by
  obtain ⟨c, hv, ha⟩ := hc.held w k hk
  have hs := hc.tidy _ _ hv
  rw [ha, Bool.not_true, Option.isSome_eq_false_iff, Option.isNone_iff_eq_none] at hs
  exact ⟨c, hv, .inr ⟨hs, w, k, hk, rfl, rfl⟩⟩

theorem exists_shadowAt (hc : Custody r out) {h : Handle} {c : ContextRecord}
    (hv : r.record? h = some c) : ∃ shadow, r.ShadowAt out h shadow := by
  cases hs : c.shadow with
  | some shadow => exact ⟨shadow, c, hv, .inl hs⟩
  | none =>
    have ha := hc.tidy h c hv
    rw [hs, Option.isSome_none, Bool.false_eq, Bool.not_eq_false'] at ha
    obtain ⟨w, k, hk, rfl⟩ := hc.owned h c hv ha
    exact ⟨k.shadow, hc.shadowAt_of_out hk⟩

theorem shadowAt_unique (hc : Custody r out) {h : Handle} {s t : Shadow} (hs : r.ShadowAt out h s)
    (ht : r.ShadowAt out h t) : s = t := by
  obtain ⟨c, hv, hs⟩ := hs
  obtain ⟨d, hd, ht⟩ := ht
  have he : c = d := Option.some.inj (hv.symm.trans hd)
  subst he
  rcases hs with hs | ⟨hn, w, k, hk, hkh, rfl⟩
  · rcases ht with ht | ⟨hn, -⟩
    · exact Option.some.inj (hs.symm.trans ht)
    · rw [hs] at hn
      cases hn
  · rcases ht with ht | ⟨-, v, j, hj, hjh, rfl⟩
    · rw [hn] at ht
      cases ht
    · have hvw := hc.apart w v k j hk hj (hkh.trans hjh.symm)
      subst hvw
      rw [Option.some.inj (hk.symm.trans hj)]

end Custody

/-! What leaves the shadows where they are -/

/-- No shadow moves: records may go only while they are idle, and none comes. -/
structure Leaves (r r' : Registry) : Prop where
  spare : r.arena.Spare → r'.arena.Spare
  before : ∀ h d, r'.record? h = some d →
    ∃ c, r.record? h = some c ∧ d.active = c.active ∧ d.shadow = c.shadow
  after : ∀ h c, r.record? h = some c → c.active = true →
    ∃ d, r'.record? h = some d ∧ d.active = true

theorem leaves_refl (r : Registry) : r.Leaves r where
  spare hs := hs
  before _ d hd := ⟨d, hd, rfl, rfl⟩
  after _ c hc ha := ⟨c, hc, ha⟩

theorem Leaves.trans {r'' : Registry} (h₁ : r.Leaves r') (h₂ : r'.Leaves r'') : r.Leaves r'' where
  spare hs := h₂.spare (h₁.spare hs)
  before h e he := by
    obtain ⟨d, hd, hda, hds⟩ := h₂.before h e he
    obtain ⟨c, hc, hca, hcs⟩ := h₁.before h d hd
    exact ⟨c, hc, hda.trans hca, hds.trans hcs⟩
  after h c hc ha := by
    obtain ⟨d, hd, hda⟩ := h₁.after h c hc ha
    exact h₂.after h d hd hda

theorem Leaves.shadowAt (hl : r.Leaves r') {h : Handle} {shadow : Shadow}
    (hk : r'.ShadowAt out h shadow) : r.ShadowAt out h shadow := by
  obtain ⟨d, hd, hs⟩ := hk
  obtain ⟨c, hc, -, hcs⟩ := hl.before h d hd
  exact ⟨c, hc, hcs ▸ hs⟩

theorem Leaves.custody (hl : r.Leaves r') (hc : Custody r out) : Custody r' out where
  spare := hl.spare hc.spare
  tidy h d hd := by
    obtain ⟨c, hv, ha, hs⟩ := hl.before h d hd
    rw [ha, hs]
    exact hc.tidy h c hv
  owned h d hd ha := by
    obtain ⟨c, hv, hda, -⟩ := hl.before h d hd
    exact hc.owned h c hv (hda ▸ ha)
  held w k hk := by
    obtain ⟨c, hv, ha⟩ := hc.held w k hk
    exact hl.after _ c hv ha
  apart := hc.apart

/-- The change of one record that keeps its shadow, or takes it out while it is idle. -/
theorem leaves_alter (r : Registry) (h : Handle) {f : ContextRecord → Option ContextRecord}
    (hkept : ∀ c d, f c = some d → d.active = c.active ∧ d.shadow = c.shadow)
    (hgone : ∀ c, c.active = true → (f c).isSome) :
    r.Leaves { r with arena := r.arena.alter h f } where
  spare hs := hs.alter h f
  before g d hd := by
    rw [record?, Arena.get?_alter] at hd
    split at hd
    · next hg =>
      obtain ⟨c, hc, hfc⟩ := Option.bind_eq_some_iff.mp hd
      exact ⟨c, hg ▸ hc, hkept c d hfc⟩
    · exact ⟨d, hd, rfl, rfl⟩
  after g c hc ha := by
    rw [record?, Arena.get?_alter]
    split
    · next hg =>
      obtain ⟨d, hd⟩ := Option.isSome_iff_exists.mp (hgone c ha)
      rw [← hg]
      exact ⟨d, by rw [record?] at hc; rw [hc]; exact hd, (hkept c d hd).1.trans ha⟩
    · exact ⟨c, hc, ha⟩

theorem leaves_mark (r : Registry) (doomed : Handle → ContextRecord → Option Doom) :
    r.Leaves (r.mark doomed).2 := by
  rw [mark_eq, Arena.alterAll]
  generalize r.arena.handles = hs
  induction hs generalizing r with
  | nil => exact r.leaves_refl
  | cons h hs ih =>
    refine (r.leaves_alter h (f := destroyed doomed h) ?_ ?_).trans
      (ih { r with arena := r.arena.alter h (destroyed doomed h) })
    · intro c d hd
      cases ha : c.active with
      | true =>
        rw [destroyed_of_active ha] at hd
        cases hd
        exact ⟨ha, rfl⟩
      | false =>
        rw [destroyed_of_idle ha] at hd
        split at hd
        · cases hd
          exact ⟨ha, rfl⟩
        · split at hd
          · cases hd
          · cases hd
            exact ⟨ha, rfl⟩
    · intro c ha
      rw [destroyed_of_active ha]
      rfl

theorem leaves_initDisplay (r : Registry) (display : Display) :
    r.Leaves (r.initDisplay display) := by
  rw [initDisplay_eq]
  constructor
  case spare => exact fun hs => hs.map (revived display)
  case before =>
    intro h d hd
    rw [record?, Arena.get?_map] at hd
    obtain ⟨c, hc, rfl⟩ := Option.map_eq_some_iff.mp hd
    exact ⟨c, hc, rfl, rfl⟩
  case after =>
    intro h c hc ha
    refine ⟨revived display c, ?_, ha⟩
    rw [record?, Arena.get?_map, show r.arena.get? h = some c from hc]
    rfl

/-! Giving back -/

theorem Custody.record?_release (hc : Custody r out) {w : Nat} {k : Current} (hk : out w = some k)
    {h : Handle} {d : ContextRecord} (hd : (r.release k).record? h = some d) :
    (h = k.handle ∧ d.active = false ∧ d.shadow = some k.shadow) ∨
      (h ≠ k.handle ∧ r.record? h = some d) := by
  rw [release_eq, record?, Arena.get?_alter] at hd
  split at hd
  · next hh =>
    obtain ⟨c, hv, -⟩ := hc.held w k hk
    rw [show r.arena.get? k.handle = some c from hv, Option.bind_some,
      ContextRecord.returned_outcome] at hd
    split at hd
    · cases hd
    · cases hd
      exact .inl ⟨hh, rfl, rfl⟩
  · next hh => exact .inr ⟨hh, hd⟩

theorem Custody.release (hc : Custody r out) {w : Nat} {k : Current} (hk : out w = some k) :
    Custody (r.release k) (update out w none) := by
  -- What the others have is under other handles, where nothing changes.
  have hother : ∀ v j, update out w none v = some j → out v = some j ∧ j.handle ≠ k.handle := by
    intro v j hj
    obtain ⟨hvw, hj⟩ := update_none_eq_some hj
    exact ⟨hj, fun e => hvw (hc.apart v w j k hj hk e)⟩
  constructor
  case spare =>
    rw [release_eq]
    exact hc.spare.alter _ _
  case tidy =>
    intro h d hd
    rcases hc.record?_release hk hd with ⟨-, ha, hs⟩ | ⟨-, hv⟩
    · rw [ha, hs]
      rfl
    · exact hc.tidy h d hv
  case owned =>
    intro h d hd ha
    rcases hc.record?_release hk hd with ⟨-, hn, -⟩ | ⟨hne, hv⟩
    · rw [hn] at ha
      cases ha
    · obtain ⟨v, j, hj, rfl⟩ := hc.owned h d hv ha
      have hvw : v ≠ w := by
        rintro rfl
        exact hne (by rw [Option.some.inj (hj.symm.trans hk)])
      exact ⟨v, j, by rw [Function.update_of_ne hvw, hj], rfl⟩
  case held =>
    intro v j hj
    obtain ⟨hj, hne⟩ := hother v j hj
    obtain ⟨c, hv, ha⟩ := hc.held v j hj
    refine ⟨c, ?_, ha⟩
    rw [release_eq, record?, Arena.get?_alter, if_neg hne]
    exact hv
  case apart =>
    intro u v i j hi hj he
    exact hc.apart u v i j (hother u i hi).1 (hother v j hj).1 he

theorem Custody.shadowAt_release (hc : Custody r out) {w : Nat} {k : Current}
    (hk : out w = some k) {h : Handle} {shadow : Shadow}
    (hs : (r.release k).ShadowAt (update out w none) h shadow) : r.ShadowAt out h shadow := by
  obtain ⟨d, hd, hs⟩ := hs
  rcases hc.record?_release hk hd with ⟨rfl, -, hd⟩ | ⟨-, hv⟩
  · rw [hd] at hs
    rcases hs with hs | ⟨hn, -⟩
    · cases hs
      exact hc.shadowAt_of_out hk
    · cases hn
  · rcases hs with hs | ⟨hn, v, j, hj, hjh, hjs⟩
    · exact ⟨d, hv, .inl hs⟩
    · exact ⟨d, hv, .inr ⟨hn, v, j, (update_none_eq_some hj).2, hjh, hjs⟩⟩

/-! Handing out -/

theorem Custody.record?_add (hc : Custody r out) {display : Display} {context : Context}
    {draw read : Surface} {h : Handle} {d : ContextRecord}
    (hd : (r.add display context draw read).2.record? h = some d) :
    r.record? h = some d ∨ d = fresh display context draw read ∧ r.record? h = none ∧
      r.arena.generationAt h.index = h.generation :=
  hc.spare.found_insert hd

theorem Custody.add (hc : Custody r out) (display : Display) (context : Context)
    (draw read : Surface) : Custody (r.add display context draw read).2 out where
  spare := hc.spare.insert _
  tidy h d hd := by
    rcases hc.record?_add hd with hv | ⟨rfl, -⟩
    · exact hc.tidy h d hv
    · rfl
  owned h d hd ha := by
    rcases hc.record?_add hd with hv | ⟨rfl, -⟩
    · exact hc.owned h d hv ha
    · cases ha
  held w k hk := by
    obtain ⟨c, hv, ha⟩ := hc.held w k hk
    exact ⟨c, hc.spare.get?_insert_of_some _ hv, ha⟩
  apart := hc.apart

theorem Custody.shadowAt_add (hc : Custody r out) {display : Display} {context : Context}
    {draw read : Surface} {h : Handle} {shadow : Shadow}
    (hs : (r.add display context draw read).2.ShadowAt out h shadow) :
    r.ShadowAt out h shadow ∨ r.record? h = none ∧
      r.arena.generationAt h.index = h.generation ∧ shadow = .fresh := by
  obtain ⟨d, hd, hs⟩ := hs
  rcases hc.record?_add hd with hv | ⟨rfl, hn, hg⟩
  · exact .inl ⟨d, hv, hs⟩
  · rcases hs with hs | ⟨hs, -⟩
    · cases hs
      exact .inr ⟨hn, hg, rfl⟩
    · cases hs

theorem activate_cases (r : Registry) (h : Handle) (draw read : Surface) :
    (∃ c shadow, r.record? h = some c ∧ c.active = false ∧ c.shadow = some shadow ∧
      r.activate h draw read =
        (.ok ⟨h, c.display, c.context, draw, read, shadow⟩, r.handOut h draw read)) ∨
    ∃ e, r.activate h draw read = (.error e, r) := by
  cases hv : r.record? h with
  | none => exact .inr ⟨.staleHandle h, by rw [activate, hv]⟩
  | some c =>
    cases ha : c.active with
    | true => exact .inr ⟨_, activate_of_active hv ha draw read⟩
    | false =>
      cases hs : c.shadow with
      | none =>
        refine .inr ⟨.contextBusy c.display c.context, ?_⟩
        rw [activate, hv]
        simp only [ha, hs]
      | some shadow => exact .inl ⟨c, shadow, rfl, ha, hs, activate_of_idle hv ha hs draw read⟩

theorem record?_handOut {h g : Handle} {draw read : Surface} {d : ContextRecord}
    (hd : (r.handOut h draw read).record? g = some d) :
    (g = h ∧ ∃ c, r.record? h = some c ∧ d = c.taken draw read) ∨
      (g ≠ h ∧ r.record? g = some d) := by
  rw [record?, arena_handOut, Arena.get?_alter] at hd
  split at hd
  · next hg =>
    obtain ⟨c, hv, hcd⟩ := Option.bind_eq_some_iff.mp hd
    exact .inl ⟨hg, c, hv, (Option.some.inj hcd).symm⟩
  · next hg => exact .inr ⟨hg, hd⟩

theorem Custody.handOut (hc : Custody r out) {w : Nat} (hw : out w = none) {k : Current}
    {c : ContextRecord} (hv : r.record? k.handle = some c) (ha : c.active = false)
    (draw read : Surface) :
    Custody (r.handOut k.handle draw read) (update out w (some k)) := by
  -- Nobody else has the record, which is idle.
  have hother : ∀ v j, out v = some j → j.handle ≠ k.handle ∧ v ≠ w := by
    intro v j hj
    constructor
    · intro e
      obtain ⟨d, hd, hda⟩ := hc.held v j hj
      rw [e, hv] at hd
      cases hd
      rw [ha] at hda
      cases hda
    · rintro rfl
      rw [hw] at hj
      cases hj
  constructor
  case spare =>
    rw [arena_handOut]
    exact hc.spare.alter _ _
  case tidy =>
    intro g d hd
    rcases record?_handOut hd with ⟨-, c, -, rfl⟩ | ⟨-, hd⟩
    · rfl
    · exact hc.tidy g d hd
  case owned =>
    intro g d hd hda
    rcases record?_handOut hd with ⟨rfl, -⟩ | ⟨-, hd⟩
    · exact ⟨w, k, Function.update_self .., rfl⟩
    · obtain ⟨v, j, hj, hjg⟩ := hc.owned g d hd hda
      exact ⟨v, j, by rw [Function.update_of_ne (hother v j hj).2, hj], hjg⟩
  case held =>
    intro v j hj
    rcases update_some_eq_some hj with ⟨-, rfl⟩ | ⟨-, hj⟩
    · exact ⟨_, record?_handOut_self hv draw read, rfl⟩
    · rw [record?_handOut_of_ne (hother v j hj).1]
      exact hc.held v j hj
  case apart =>
    intro u v i j hi hj he
    rcases update_some_eq_some hi with ⟨hu, hi⟩ | ⟨-, hi⟩
    · rcases update_some_eq_some hj with ⟨hv, -⟩ | ⟨-, hj⟩
      · rw [hu, hv]
      · exact absurd (hi ▸ he.symm) (hother v j hj).1
    · rcases update_some_eq_some hj with ⟨-, hj⟩ | ⟨-, hj⟩
      · exact absurd (hj ▸ he) (hother u i hi).1
      · exact hc.apart u v i j hi hj he

theorem Custody.shadowAt_handOut (hc : Custody r out) {w : Nat} {k : Current} {c : ContextRecord}
    (hv : r.record? k.handle = some c) (ha : c.active = false) (hs : c.shadow = some k.shadow)
    {draw read : Surface} {h : Handle} {shadow : Shadow}
    (ht : (r.handOut k.handle draw read).ShadowAt (update out w (some k)) h shadow) :
    r.ShadowAt out h shadow := by
  obtain ⟨d, hd, ht⟩ := ht
  rcases record?_handOut hd with ⟨rfl, c', hv', rfl⟩ | ⟨hne, hd⟩
  · rcases ht with ht | ⟨-, v, j, hj, hjh, rfl⟩
    · cases ht
    · rcases update_some_eq_some hj with ⟨-, rfl⟩ | ⟨-, hj⟩
      · exact ⟨c, hv, .inl hs⟩
      · obtain ⟨e, he, hea⟩ := hc.held v j hj
        rw [hjh, hv] at he
        cases he
        rw [ha] at hea
        cases hea
  · rcases ht with ht | ⟨hn, v, j, hj, hjh, hjs⟩
    · exact ⟨d, hd, .inl ht⟩
    · rcases update_some_eq_some hj with ⟨-, rfl⟩ | ⟨-, hj⟩
      · exact absurd hjh.symm hne
      · exact ⟨d, hd, .inr ⟨hn, v, j, hj, hjh, hjs⟩⟩

/-! Working on a shadow -/

variable {w : Nat} {k k' : Current}

/-- A worker may put another shadow in the place of the one it has. -/
theorem Custody.rework (hc : Custody r out) (hk : out w = some k) (hh : k'.handle = k.handle) :
    Custody r (update out w (some k')) := by
  have hsame : ∀ v j, update out w (some k') v = some j →
      ∃ i, out v = some i ∧ i.handle = j.handle := by
    intro v j hj
    rcases update_some_eq_some hj with ⟨rfl, rfl⟩ | ⟨-, hj⟩
    · exact ⟨k, hk, hh.symm⟩
    · exact ⟨j, hj, rfl⟩
  constructor
  case spare => exact hc.spare
  case tidy => exact hc.tidy
  case owned =>
    intro h c hv ha
    obtain ⟨v, j, hj, rfl⟩ := hc.owned h c hv ha
    by_cases hvw : v = w
    · subst hvw
      exact ⟨v, k', Function.update_self .., by rw [hh, Option.some.inj (hj.symm.trans hk)]⟩
    · exact ⟨v, j, by rw [Function.update_of_ne hvw, hj], rfl⟩
  case held =>
    intro v j hj
    obtain ⟨i, hi, he⟩ := hsame v j hj
    rw [← he]
    exact hc.held v i hi
  case apart =>
    intro u v i j hi hj he
    obtain ⟨i', hi', hie⟩ := hsame u i hi
    obtain ⟨j', hj', hje⟩ := hsame v j hj
    exact hc.apart u v i' j' hi' hj' (by rw [hie, hje, he])

theorem Custody.shadowAt_rework (hc : Custody r out) (hk : out w = some k)
    (hh : k'.handle = k.handle) {shadow : Shadow} :
    r.ShadowAt (update out w (some k')) k.handle shadow ↔ shadow = k'.shadow := by
  have hat := (hc.rework hk hh).shadowAt_of_out (Function.update_self w (some k') out)
  rw [hh] at hat
  constructor
  · exact fun hs => (hc.rework hk hh).shadowAt_unique hs hat
  · rintro rfl
    exact hat

theorem shadowAt_rework_of_ne (hk : out w = some k) (hh : k'.handle = k.handle) {h : Handle}
    (hne : h ≠ k.handle) {shadow : Shadow} :
    r.ShadowAt (update out w (some k')) h shadow ↔ r.ShadowAt out h shadow := by
  have hout : (∃ v j, update out w (some k') v = some j ∧ j.handle = h ∧ j.shadow = shadow) ↔
      ∃ v j, out v = some j ∧ j.handle = h ∧ j.shadow = shadow := by
    constructor
    · rintro ⟨v, j, hj, hjh, hjs⟩
      rcases update_some_eq_some hj with ⟨-, rfl⟩ | ⟨-, hj⟩
      · exact absurd (hjh.symm.trans hh) hne
      · exact ⟨v, j, hj, hjh, hjs⟩
    · rintro ⟨v, j, hj, hjh, hjs⟩
      have hvw : v ≠ w := by
        rintro rfl
        exact hne (by rw [← hjh, Option.some.inj (hj.symm.trans hk)])
      exact ⟨v, j, by rw [Function.update_of_ne hvw, hj], hjh, hjs⟩
  simp only [ShadowAt, hout]

/-! Whole operations -/

/-- Every shadow stays under its handle, but that new records bring fresh ones. -/
structure Passes (r : Registry) (out : Nat → Option Current) (r' : Registry)
    (out' : Nat → Option Current) : Prop where
  custody : Custody r' out'
  kept : ∀ h shadow, r'.ShadowAt out' h shadow →
    r.ShadowAt out h shadow ∨ r.record? h = none ∧ shadow = .fresh

/-- What comes of asking for a record on behalf of a worker that has none. A
new record is where nothing was found, at the generation its slot had. -/
structure Issues (r : Registry) (out : Nat → Option Current) (w : Nat)
    (answer : Except RegistryError Current × Registry) : Prop where
  custody : Custody answer.2 (update out w answer.1.toOption)
  kept : ∀ h shadow, answer.2.ShadowAt (update out w answer.1.toOption) h shadow →
    r.ShadowAt out h shadow ∨ r.record? h = none ∧
      r.arena.generationAt h.index = h.generation ∧ shadow = .fresh

theorem Leaves.passes (hl : r.Leaves r') (hc : Custody r out) : Passes r out r' out where
  custody := hl.custody hc
  kept _ _ hs := .inl (hl.shadowAt hs)

theorem Custody.activate (hc : Custody r out) {w : Nat} (hw : out w = none) (h : Handle)
    (draw read : Surface) :
    Custody (r.activate h draw read).2 (update out w (r.activate h draw read).1.toOption) ∧
      ∀ g shadow, (r.activate h draw read).2.ShadowAt
        (update out w (r.activate h draw read).1.toOption) g shadow → r.ShadowAt out g shadow := by
  rcases r.activate_cases h draw read with ⟨c, shadow, hv, ha, hs, he⟩ | ⟨e, he⟩
  · rw [he]
    -- What is handed out, with the handle that the record has.
    let k : Current := ⟨h, c.display, c.context, draw, read, shadow⟩
    have hv : r.record? k.handle = some c := hv
    exact ⟨hc.handOut hw hv ha draw read, fun _ _ => hc.shadowAt_handOut hv ha hs⟩
  · have hsame : update out w none = out := Function.update_eq_self_iff.mpr hw.symm
    rw [he, Except.toOption, hsame]
    exact ⟨hc, fun _ _ ht => ht⟩

theorem Custody.issue_activate (hc : Custody r out) {w : Nat} (hw : out w = none) (h : Handle)
    (draw read : Surface) : Issues r out w (r.activate h draw read) where
  custody := (hc.activate hw h draw read).1
  kept g shadow ht := .inl ((hc.activate hw h draw read).2 g shadow ht)

theorem Custody.issue_findOrCreate (hc : Custody r out) {w : Nat} (hw : out w = none)
    (display : Display) (draw read : Surface) (context : Context) :
    Issues r out w (r.findOrCreate display draw read context) := by
  unfold Registry.findOrCreate
  split
  · exact hc.issue_activate hw _ draw read
  · have hadd := (hc.add display context draw read).activate hw
      (r.add display context draw read).1 draw read
    exact ⟨hadd.1, fun g shadow ht => hc.shadowAt_add (hadd.2 g shadow ht)⟩

theorem Custody.giveBack (hc : Custody r out) (w : Nat) :
    Custody (r.giveBack (out w)) (update out w none) ∧
      ∀ h shadow, (r.giveBack (out w)).ShadowAt (update out w none) h shadow →
        r.ShadowAt out h shadow := by
  cases hw : out w with
  | none =>
    have hsame : update out w none = out := Function.update_eq_self_iff.mpr hw.symm
    rw [hsame]
    exact ⟨hc, fun _ _ hs => hs⟩
  | some k => exact ⟨hc.release hw, fun _ _ => hc.shadowAt_release hw⟩

theorem Custody.passes_giveBack (hc : Custody r out) (w : Nat) :
    Passes r out (r.giveBack (out w)) (update out w none) where
  custody := (hc.giveBack w).1
  kept h shadow hs := .inl ((hc.giveBack w).2 h shadow hs)

theorem Passes.giveBack {next : Option Current} (hp : Passes r out r' (update out w next)) :
    Passes r out (r'.giveBack next) (update out w none) := by
  have hb := hp.custody.giveBack w
  rw [Function.update_self, Function.update_idem] at hb
  exact ⟨hb.1, fun h shadow hs => hp.kept h shadow (hb.2 h shadow hs)⟩

/-- A record that goes when it is given back has left its generation behind. -/
theorem giveBack_retires (r : Registry) (current : Option Current) {h : Handle}
    (hn : (r.giveBack current).record? h = none)
    (hg : (r.giveBack current).arena.generationAt h.index = h.generation) : r.record? h = none := by
  cases current with
  | none => exact hn
  | some k =>
    rw [giveBack, release_eq] at hn hg
    cases hv : r.record? h with
    | none => rfl
    | some c =>
      have hsome : (r.arena.get? h).isSome := by
        rw [show r.arena.get? h = some c from hv]
        rfl
      rcases (Arena.alter_advances r.arena k.handle _).retires h hsome with hs | he
      · rw [record?] at hn
        rw [hn] at hs
        cases hs
      · rw [hg] at he
        exact absurd he (by simp)

/-- A worker gives back what it has before it gets another record. -/
theorem Custody.passes_issue (hc : Custody r out) (w : Nat)
    {answer : Except RegistryError Current × Registry}
    (hi : Issues (r.giveBack (out w)) (update out w none) w answer) :
    Passes r out answer.2 (update out w answer.1.toOption) := by
  have hcustody := hi.custody
  have hkept := hi.kept
  rw [Function.update_idem] at hcustody hkept
  refine ⟨hcustody, fun h shadow hs => ?_⟩
  rcases hkept h shadow hs with hs | ⟨hn, hg, rfl⟩
  · exact .inl ((hc.giveBack w).2 h shadow hs)
  · exact .inr ⟨r.giveBack_retires (out w) hn hg, rfl⟩

theorem Custody.passes_makeCurrent (hc : Custody r out) (w : Nat) (display : Display)
    (draw read : Surface) (context : Context) {r' : Registry} {next : Option Current}
    {result : Except RegistryError Unit}
    (he : r.makeCurrent display draw read context (out w) = (result, r', next)) :
    Passes r out r' (update out w next) := by
  unfold makeCurrent at he
  split at he
  · cases he
    exact hc.passes_giveBack w
  split at he
  · cases he
    rw [Function.update_eq_self]
    exact r.leaves_refl.passes hc
  have hback := (hc.giveBack w).1
  have hnone : update out w none w = none := Function.update_self ..
  cases hm : (r.giveBack (out w)).matchExisting display draw read context with
  | some h =>
    have hp := hc.passes_issue w (hback.issue_activate hnone h draw read)
    simp only [hm] at he
    split at he <;> next ho =>
      cases he
      rwa [ho] at hp
  | none =>
    have hp := hc.passes_issue w (hback.issue_findOrCreate hnone display draw read context)
    simp only [hm] at he
    split at he <;> next ho =>
      cases he
      rwa [ho] at hp

end Registry

end RenderRelay
