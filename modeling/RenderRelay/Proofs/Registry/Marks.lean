import RenderRelay.Proofs.Registry.Distinct

/-!
# Marks of destruction

What is destroyed of a context is marked on its record only while the record is
active. On an idle record it takes effect at once, and it takes effect when the
record is let go, so no idle record is marked. An active one is where its handle
finds it.
-/

set_option autoImplicit false

namespace RenderRelay

def ContextRecord.Fits (slot : Nat) (c : ContextRecord) : Prop :=
  if c.active then slot < UInt32.size else c.doom = {}

namespace ContextRecord

variable {slot : Nat} {c d : ContextRecord}

theorem fits_of_idle (ha : c.active = false) (hd : c.doom = {}) : c.Fits slot := by
  rw [Fits, ha]
  exact hd

theorem fits_of_active (ha : c.active = true) (hs : slot < UInt32.size) : c.Fits slot := by
  rw [Fits, ha]
  exact hs

theorem Fits.slot_lt (h : c.Fits slot) (ha : c.active = true) : slot < UInt32.size := by
  rw [Fits, ha] at h
  exact h

theorem Fits.doom_eq (h : c.Fits slot) (ha : c.active = false) : c.doom = {} := by
  rw [Fits, ha] at h
  exact h

theorem fits_of_outcome (h : c.active = true → slot < UInt32.size) (ho : c.outcome = some d) :
    d.Fits slot := by
  by_cases ha : c.active = true
  · rw [outcome_of_active ha] at ho
    obtain rfl := Option.some.inj ho
    exact fits_of_active ha (h ha)
  · have ha : c.active = false := Bool.eq_false_iff.mpr ha
    rw [outcome_of_idle ha] at ho
    by_cases hr : c.doom.reaps = true
    · rw [if_pos hr] at ho
      cases ho
    · rw [if_neg hr] at ho
      obtain rfl := Option.some.inj ho
      exact fits_of_idle ha (doom_settled (Bool.eq_false_iff.mpr hr))

end ContextRecord

namespace Registry

variable {r : Registry}

def Composed (r : Registry) : Prop :=
  ∀ i g (c : ContextRecord), r.arena.slots[i]? = some ⟨g, some c⟩ → c.Fits i

theorem empty_composed : ({} : Registry).Composed := fun _ _ _ hs => by simp at hs

theorem Composed.alter (hr : r.Composed) (h : Handle) {f : ContextRecord → Option ContextRecord}
    (hf : ∀ c d, c.Fits h.index.toNat → f c = some d → d.Fits h.index.toNat) :
    Composed { r with arena := r.arena.alter h f } := by
  intro i g d hs
  rcases Arena.slot_of_alter hs with hs | ⟨rfl, c, hs, hcd⟩
  · exact hr i g d hs
  · exact hf c d (hr _ _ c hs) hcd

theorem Composed.mark (hr : r.Composed) (doomed : Handle → ContextRecord → Option Doom) :
    (r.mark doomed).2.Composed := by
  rw [mark_eq, Arena.alterAll]
  generalize r.arena.handles = hs
  induction hs generalizing r with
  | nil => exact hr
  | cons h hs ih =>
    refine ih (r := { r with arena := r.arena.alter h (destroyed doomed h) }) (hr.alter h ?_)
    intro c d hc hd
    unfold destroyed at hd
    split at hd
    · obtain rfl := Option.some.inj hd
      exact hc
    · exact ContextRecord.fits_of_outcome (c := c.marked _) hc.slot_lt hd

theorem Composed.initDisplay (hr : r.Composed) (display : Display) :
    (r.initDisplay display).Composed := by
  rw [initDisplay_eq]
  intro i g d hs
  have hs : (r.arena.slots.map _)[i]? = some _ := hs
  rw [List.getElem?_map] at hs
  obtain ⟨⟨g', value⟩, hslot, he⟩ := Option.map_eq_some_iff.mp hs
  obtain ⟨-, hvalue⟩ := Arena.Slot.mk.inj he
  obtain ⟨c, rfl, rfl⟩ := Option.map_eq_some_iff.mp hvalue
  have hc := hr i g' c hslot
  by_cases ha : c.active = true
  · exact ContextRecord.fits_of_active ha (hc.slot_lt ha)
  · have ha : c.active = false := Bool.eq_false_iff.mpr ha
    refine ContextRecord.fits_of_idle ha ?_
    simp [revived, hc.doom_eq ha]

theorem Composed.giveBack (hr : r.Composed) (own : Option Current) : (r.giveBack own).Composed := by
  cases own with
  | none => exact hr
  | some k =>
    rw [Registry.giveBack, release_eq]
    refine hr.alter k.handle ?_
    intro c d _ hd
    exact ContextRecord.fits_of_outcome (fun ha => by cases ha) hd

theorem Composed.activate (hr : r.Composed) (h : Handle) (draw read : Surface) :
    (r.activate h draw read).2.Composed := by
  rcases r.activate_cases h draw read with ⟨c, shadow, -, -, -, he⟩ | ⟨e, he⟩
  · rw [he]
    refine hr.alter h ?_
    intro c d _ hd
    obtain rfl := Option.some.inj hd
    exact ContextRecord.fits_of_active rfl h.index.toNat_lt
  · rw [he]
    exact hr

theorem Composed.add (hr : r.Composed) (display : Display) (context : Context)
    (draw read : Surface) : (r.add display context draw read).2.Composed := by
  intro i g c hs
  rcases Arena.slot_of_insert hs with hs | ⟨rfl, -⟩
  · exact hr i g c hs
  · exact ContextRecord.fits_of_idle rfl rfl

theorem Composed.issue (hr : r.Composed) (display : Display) (draw read : Surface)
    (context : Context) : (r.issue display draw read context).2.Composed := by
  unfold Registry.issue findOrCreate
  split
  · exact hr.activate _ draw read
  split
  · exact hr.activate _ draw read
  · exact (hr.add display context draw read).activate _ draw read

theorem Composed.makeCurrent (hr : r.Composed) (display : Display) (draw read : Surface)
    (context : Context) (own : Option Current) :
    (r.makeCurrent display draw read context own).2.1.Composed := by
  rw [makeCurrent_eq_issue]
  split
  · exact hr.giveBack own
  split
  · exact hr
  · exact (hr.giveBack own).issue display draw read context

theorem Composed.record?_of_active (hr : r.Composed) {h : Handle} {c : ContextRecord}
    (hc : (h, c) ∈ r.records) (ha : c.active = true) : r.record? h = some c := by
  obtain ⟨i, g, hs, rfl⟩ := Arena.mem_entries_iff.mp hc
  have hi : (UInt32.ofNat i).toNat = i := UInt32.toNat_ofNat_of_lt' ((hr i g c hs).slot_lt ha)
  refine Arena.get?_eq_some_iff.mpr ?_
  rw [hi]
  exact hs

/-- With no worker left that has anything, no record is active and nothing is marked on any. -/
theorem Composed.idle_of_unheld (hr : r.Composed) {out : Nat → Option Current}
    (hc : Custody r out) (hout : ∀ w, out w = none) {h : Handle} {c : ContextRecord}
    (hmem : (h, c) ∈ r.records) : c.active = false ∧ c.doom = {} := by
  have hidle : c.active = false := by
    by_contra ha
    rw [Bool.not_eq_false] at ha
    obtain ⟨w, k, hk, -⟩ := hc.owned h c (hr.record?_of_active hmem ha) ha
    rw [hout w] at hk
    cases hk
  obtain ⟨i, g, hs, -⟩ := Arena.mem_entries_iff.mp hmem
  exact ⟨hidle, (hr i g c hs).doom_eq hidle⟩

end Registry

end RenderRelay
