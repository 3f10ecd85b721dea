import RenderRelay.Registry.Arena

/-!
# Arenas as finite maps

An arena is a finite map from handles to values. Changing or taking out one
value leaves the others alone, also where a fold does it for every handle;
a new value goes under a handle that was never given out. For the last a slot
must not have been emptied so often that its generation begins again.
-/

set_option autoImplicit false

namespace RenderRelay.Arena

variable {α : Type}

/-- The generation of a slot; a slot that is not there yet would start with none. -/
def generationAt (a : Arena α) (i : UInt32) : UInt32 :=
  (a.slots[i.toNat]?.map Slot.generation).getD 0

/-- Vacant slots are empty, and each waits once. This holds however many slots there are. -/
structure Spare (a : Arena α) : Prop where
  nodup : a.vacant.Nodup
  empty : ∀ i ∈ a.vacant, ∃ g, a.slots[i.toNat]? = some ⟨g, none⟩

theorem empty_spare : ({} : Arena α).Spare where
  nodup := List.nodup_nil
  empty _ hi := absurd hi List.not_mem_nil

structure Sound (a : Arena α) : Prop where
  length_lt : a.slots.length < UInt32.size
  count_eq : a.count = a.slots.countP fun s => s.value.isSome
  vacant_nodup : a.vacant.Nodup
  mem_vacant : ∀ i, i ∈ a.vacant ↔ ∃ g, a.slots[i.toNat]? = some ⟨g, none⟩

theorem empty_sound : ({} : Arena α).Sound where
  length_lt := Nat.succ_pos 4294967295
  count_eq := rfl
  vacant_nodup := List.nodup_nil
  mem_vacant i := by simp

theorem Sound.spare {a : Arena α} (ha : a.Sound) : a.Spare :=
  ⟨ha.vacant_nodup, fun i hi => (ha.mem_vacant i).mp hi⟩

/-! Looking up -/

theorem get?_eq_some_iff {a : Arena α} {h : Handle} {v : α} :
    a.get? h = some v ↔ a.slots[h.index.toNat]? = some ⟨h.generation, some v⟩ := by
  cases hs : a.slots[h.index.toNat]? with
  | none => simp [get?, hs]
  | some s =>
    obtain ⟨generation, value⟩ := s
    by_cases hg : generation = h.generation
    · simp [get?, hs, hg]
    · simp [get?, hs, hg]

theorem generation_of_get? {a : Arena α} {h : Handle} {v : α} (hv : a.get? h = some v) :
    a.generationAt h.index = h.generation := by
  rw [generationAt, get?_eq_some_iff.mp hv]
  rfl

theorem eq_of_index {a : Arena α} {g h : Handle} {v w : α} (hg : a.get? g = some v)
    (hh : a.get? h = some w) (hi : g.index = h.index) : g = h := by
  have he := generation_of_get? hg
  rw [hi, generation_of_get? hh] at he
  obtain ⟨i, n⟩ := g
  obtain ⟨j, m⟩ := h
  cases hi
  cases he
  rfl

/-- Another content of one slot changes what the handles of that slot find. -/
theorem get?_of_slots_set {a b : Arena α} {i : UInt32} {s : Slot α}
    (hb : b.slots = a.slots.set i.toNat s) (hi : i.toNat < a.slots.length) (g : Handle) :
    b.get? g = if g.index = i then (if s.generation = g.generation then s.value else none)
      else a.get? g := by
  by_cases hg : g.index = i
  · subst hg
    simp [get?, hb, hi]
  · have hn : i.toNat ≠ g.index.toNat := fun he => hg (UInt32.toNat_inj.mp he.symm)
    simp [get?, hb, hg, hn]

theorem generationAt_of_slots_set {a b : Arena α} {i : UInt32} {s : Slot α}
    (hb : b.slots = a.slots.set i.toNat s) (hi : i.toNat < a.slots.length) (j : UInt32) :
    b.generationAt j = if j = i then s.generation else a.generationAt j := by
  by_cases hj : j = i
  · subst hj
    simp [generationAt, hb, hi]
  · have hn : i.toNat ≠ j.toNat := fun he => hj (UInt32.toNat_inj.mp he.symm)
    simp [generationAt, hb, hj, hn]

theorem set_self {a : Arena α} {h : Handle} {v : α} (hv : a.get? h = some v) : a.set h v = a := by
  have hs := get?_eq_some_iff.mp hv
  have hl := index_lt_of_get? hv
  rw [set_of_get? hv]
  have he : a.slots.set h.index.toNat ⟨h.generation, some v⟩ = a.slots := by
    rw [List.getElem?_eq_getElem hl] at hs
    rw [← Option.some.inj hs]
    exact List.set_getElem_self hl
  rw [he]

theorem set_set (a : Arena α) (h : Handle) (v w : α) : (a.set h v).set h w = a.set h w := by
  cases hv : a.get? h with
  | none => simp only [set, hv]
  | some u =>
    have hs : (a.set h v).get? h = some v := by rw [get?_set_self, hv]; rfl
    rw [set_of_get? hs, set_of_get? hv, set_of_get? hv, List.set_set]

theorem erase_set (a : Arena α) (h : Handle) (v : α) : (a.set h v).erase h = a.erase h := by
  cases hv : a.get? h with
  | none => simp only [set, hv]
  | some u =>
    have hs : (a.set h v).get? h = some v := by rw [get?_set_self, hv]; rfl
    rw [erase_of_get? hs, set_of_get? hv, erase_of_get? hv, List.set_set]

/-! Changing the value at one handle -/

def alter (a : Arena α) (h : Handle) (f : α → Option α) : Arena α :=
  match a.get? h with
  | none => a
  | some v =>
    match f v with
    | none => a.erase h
    | some w => a.set h w

variable {a : Arena α} {h : Handle} {f : α → Option α}

theorem alter_of_none (hv : a.get? h = none) : a.alter h f = a := by
  simp only [alter, hv]

theorem alter_of_erase {v : α} (hv : a.get? h = some v) (hf : f v = none) :
    a.alter h f = a.erase h := by
  simp only [alter, hv, hf]

theorem alter_of_set {v w : α} (hv : a.get? h = some v) (hf : f v = some w) :
    a.alter h f = a.set h w := by
  simp only [alter, hv, hf]

/-- Only what is found at `h` itself changes. -/
theorem get?_alter (a : Arena α) (h : Handle) (f : α → Option α) (g : Handle) :
    (a.alter h f).get? g = if g = h then (a.get? h).bind f else a.get? g := by
  cases hv : a.get? h with
  | none =>
    rw [alter_of_none hv]
    by_cases hg : g = h
    · rw [if_pos hg, hg, hv]
      rfl
    · rw [if_neg hg]
  | some v =>
    have hl := index_lt_of_get? hv
    -- A handle of the same slot but another generation finds nothing before or after.
    have hother : g ≠ h → g.index = h.index → a.get? g = none ∧ h.generation ≠ g.generation := by
      intro hne hi
      constructor
      · cases hg : a.get? g with
        | none => rfl
        | some u => exact absurd (eq_of_index hg hv hi) hne
      · intro he
        obtain ⟨i, n⟩ := g
        obtain ⟨j, m⟩ := h
        cases hi
        cases he
        exact hne rfl
    cases hf : f v with
    | none =>
      rw [alter_of_erase hv hf, erase_of_get? hv, get?_of_slots_set rfl hl]
      by_cases hg : g = h
      · subst hg
        simp [hf]
      · by_cases hi : g.index = h.index
        · simp [hg, hi, (hother hg hi).1]
        · simp [hg, hi]
    | some w =>
      rw [alter_of_set hv hf, set_of_get? hv, get?_of_slots_set rfl hl]
      by_cases hg : g = h
      · subst hg
        simp [hf]
      · by_cases hi : g.index = h.index
        · simp [hg, hi, hother hg hi]
        · simp [hg, hi]

@[simp] theorem length_slots_alter : (a.alter h f).slots.length = a.slots.length := by
  cases hv : a.get? h with
  | none => rw [alter_of_none hv]
  | some v =>
    cases hf : f v with
    | none => rw [alter_of_erase hv hf, erase_of_get? hv, List.length_set]
    | some w => rw [alter_of_set hv hf, set_of_get? hv, List.length_set]

theorem generationAt_alter (a : Arena α) (h : Handle) (f : α → Option α) (i : UInt32) :
    (a.alter h f).generationAt i =
      if i = h.index ∧ (a.get? h).isSome ∧ ((a.get? h).bind f).isNone then h.generation + 1
      else a.generationAt i := by
  cases hv : a.get? h with
  | none => simp [alter_of_none hv]
  | some v =>
    have hl := index_lt_of_get? hv
    cases hf : f v with
    | none =>
      rw [alter_of_erase hv hf, erase_of_get? hv, generationAt_of_slots_set rfl hl]
      simp [hf]
    | some w =>
      rw [alter_of_set hv hf, set_of_get? hv, generationAt_of_slots_set rfl hl]
      by_cases hi : i = h.index
      · simp [hi, hf, generation_of_get? hv]
      · simp [hi]

/-! What stays sound -/

theorem Spare.not_mem_vacant (ha : a.Spare) {h : Handle} {v : α} (hv : a.get? h = some v) :
    h.index ∉ a.vacant := by
  intro hm
  obtain ⟨g, hg⟩ := ha.empty _ hm
  rw [get?_eq_some_iff.mp hv] at hg
  cases hg

theorem set_sound (ha : a.Sound) (h : Handle) (v : α) : (a.set h v).Sound := by
  cases hv : a.get? h with
  | none => simpa only [set, hv] using ha
  | some w =>
    have hl := index_lt_of_get? hv
    have hs := get?_eq_some_iff.mp hv
    have he : a.slots[h.index.toNat] = ⟨h.generation, some w⟩ :=
      Option.some.inj ((List.getElem?_eq_getElem hl).symm.trans hs)
    rw [set_of_get? hv]
    constructor
    case length_lt =>
      rw [List.length_set]
      exact ha.length_lt
    case count_eq =>
      have hp : 0 < a.slots.countP fun s => s.value.isSome :=
        List.countP_pos_iff.mpr ⟨_, List.getElem_mem hl, by rw [he]; rfl⟩
      rw [List.countP_set hl, he, ha.count_eq]
      simp only [Option.isSome_some, if_true]
      omega
    case vacant_nodup => exact ha.vacant_nodup
    case mem_vacant =>
      intro i
      rw [ha.mem_vacant]
      by_cases hi : h.index.toNat = i.toNat
      · rw [← hi, hs]
        simp [hl]
      · simp [hi]

theorem erase_sound (ha : a.Sound) (h : Handle) : (a.erase h).Sound := by
  cases hv : a.get? h with
  | none => simpa only [erase, hv] using ha
  | some w =>
    have hl := index_lt_of_get? hv
    have hs := get?_eq_some_iff.mp hv
    have he : a.slots[h.index.toNat] = ⟨h.generation, some w⟩ :=
      Option.some.inj ((List.getElem?_eq_getElem hl).symm.trans hs)
    have hn := ha.spare.not_mem_vacant hv
    rw [erase_of_get? hv]
    constructor
    case length_lt =>
      rw [List.length_set]
      exact ha.length_lt
    case count_eq =>
      rw [List.countP_set hl, he, ha.count_eq]
      simp
    case vacant_nodup => exact List.nodup_cons.mpr ⟨hn, ha.vacant_nodup⟩
    case mem_vacant =>
      intro i
      rw [List.mem_cons, ha.mem_vacant]
      by_cases hi : i = h.index
      · simp [hi, hl]
      · have hne : h.index.toNat ≠ i.toNat := fun e => hi (UInt32.toNat_inj.mp e.symm)
        simp [hi, hne]

theorem alter_sound (ha : a.Sound) (h : Handle) (f : α → Option α) : (a.alter h f).Sound := by
  cases hv : a.get? h with
  | none => rwa [alter_of_none hv]
  | some v =>
    cases hf : f v with
    | none =>
      rw [alter_of_erase hv hf]
      exact erase_sound ha h
    | some w =>
      rw [alter_of_set hv hf]
      exact set_sound ha h w

theorem map_sound (ha : a.Sound) (f : α → α) : (a.map f).Sound := by
  constructor
  case length_lt =>
    rw [map, List.length_map]
    exact ha.length_lt
  case count_eq =>
    rw [map, List.countP_map, ha.count_eq]
    congr 1
    funext s
    simp
  case vacant_nodup => exact ha.vacant_nodup
  case mem_vacant =>
    intro i
    rw [map, ha.mem_vacant, List.getElem?_map]
    cases a.slots[i.toNat]? with
    | none => simp
    | some s =>
      obtain ⟨g, v⟩ := s
      cases v <;> simp

@[simp] theorem length_slots_map (f : α → α) : (a.map f).slots.length = a.slots.length :=
  List.length_map ..

@[simp] theorem generationAt_map (f : α → α) (i : UInt32) :
    (a.map f).generationAt i = a.generationAt i := by
  rw [generationAt, generationAt, map, List.getElem?_map, Option.map_map]
  rfl

theorem count_alter (ha : a.Sound) (h : Handle) (f : α → Option α) :
    (a.alter h f).count + (if (a.get? h).isSome ∧ ((a.get? h).bind f).isNone then 1 else 0) =
      a.count := by
  cases hv : a.get? h with
  | none => simp [alter_of_none hv]
  | some v =>
    have hs := get?_eq_some_iff.mp hv
    have hp : 0 < a.count := by
      rw [ha.count_eq]
      exact List.countP_pos_iff.mpr ⟨_, List.mem_of_getElem? hs, rfl⟩
    cases hf : f v with
    | none =>
      rw [alter_of_erase hv hf, erase_of_get? hv]
      simp only [Option.isSome_some, Option.bind_some, hf, Option.isNone_none, and_self, if_true]
      omega
    | some w =>
      rw [alter_of_set hv hf, set_of_get? hv]
      simp [hf]

/-! A new value -/

theorem insert_eq (ha : a.Spare) (v : α) :
    (∃ i rest, a.vacant = i :: rest ∧ a.slots[i.toNat]? = some ⟨a.generationAt i, none⟩ ∧
      a.insert v = (⟨i, a.generationAt i⟩,
        { slots := a.slots.set i.toNat ⟨a.generationAt i, some v⟩
          vacant := rest
          count := a.count + 1 })) ∨
    (a.vacant = [] ∧ a.insert v = (⟨UInt32.ofNat a.slots.length, 0⟩,
      { a with slots := a.slots ++ [⟨0, some v⟩], count := a.count + 1 })) := by
  cases hv : a.vacant with
  | nil => exact .inr ⟨rfl, by simp [insert, hv]⟩
  | cons i rest =>
    obtain ⟨g, hg⟩ := ha.empty i (by rw [hv]; exact List.mem_cons_self)
    have hgen : a.generationAt i = g := by
      rw [generationAt, hg]
      rfl
    exact .inl ⟨i, rest, rfl, by rw [hg, hgen], by simp [insert, hv, generationAt]⟩

theorem get?_insert (ha : a.Sound) (v : α) (g : Handle) :
    (a.insert v).2.get? g = if g = (a.insert v).1 then some v else a.get? g := by
  rcases insert_eq ha.spare v with ⟨i, rest, hv, hs, he⟩ | ⟨hv, he⟩
  · have hl : i.toNat < a.slots.length := (List.getElem?_eq_some_iff.mp hs).1
    rw [he, get?_of_slots_set rfl hl]
    by_cases hi : g.index = i
    · have hnone : a.get? g = none := by
        rw [get?, hi, hs]
        simp
      obtain ⟨j, n⟩ := g
      cases hi
      by_cases hn : a.generationAt j = n
      · simp [hn]
      · simp [hn, Ne.symm hn, hnone]
    · have hg : g ≠ ⟨i, a.generationAt i⟩ := fun e => hi (by rw [e])
      rw [if_neg hi, if_neg hg]
  · have hl := ha.length_lt
    have hn : (UInt32.ofNat a.slots.length).toNat = a.slots.length :=
      UInt32.toNat_ofNat_of_lt' hl
    rw [he]
    obtain ⟨j, n⟩ := g
    by_cases hj : j = UInt32.ofNat a.slots.length
    · subst hj
      have hnone : a.get? ⟨UInt32.ofNat a.slots.length, n⟩ = none := by
        rw [get?, hn, List.getElem?_eq_none (Nat.le_refl _)]
        rfl
      by_cases hz : n = 0
      · subst hz
        simp [get?, hn]
      · simp [get?, hn, Ne.symm hz, hz]
    · have hne : ⟨j, n⟩ ≠ (⟨UInt32.ofNat a.slots.length, 0⟩ : Handle) := fun e => hj (by cases e; rfl)
      have hjn : j.toNat ≠ a.slots.length := fun e => hj (UInt32.toNat_inj.mp (e.trans hn.symm))
      rw [if_neg hne]
      by_cases hlt : j.toNat < a.slots.length
      · simp [get?, List.getElem?_append_left hlt]
      · have hbefore : a.slots[j.toNat]? = none := List.getElem?_eq_none (by omega)
        have hafter : (a.slots ++ [⟨0, some v⟩])[j.toNat]? = none :=
          List.getElem?_eq_none (by rw [List.length_append, List.length_singleton]; omega)
        simp only [get?, hbefore, hafter]

theorem insert_sound (ha : a.Sound) (v : α) (hl : (a.insert v).2.slots.length < UInt32.size) :
    (a.insert v).2.Sound := by
  rcases insert_eq ha.spare v with ⟨i, rest, hv, hs, he⟩ | ⟨hv, he⟩
  · have hi : i.toNat < a.slots.length := (List.getElem?_eq_some_iff.mp hs).1
    have hslot : a.slots[i.toNat] = ⟨a.generationAt i, none⟩ :=
      Option.some.inj ((List.getElem?_eq_getElem hi).symm.trans hs)
    have hnd := ha.vacant_nodup
    rw [hv] at hnd
    obtain ⟨hir, hrest⟩ := List.nodup_cons.mp hnd
    rw [he] at hl ⊢
    constructor
    case length_lt => exact hl
    case count_eq =>
      rw [List.countP_set hi, hslot, ha.count_eq]
      simp
    case vacant_nodup => exact hrest
    case mem_vacant =>
      intro j
      by_cases hj : j = i
      · subst hj
        simp [hir, hi]
      · have hne : i.toNat ≠ j.toNat := fun e => hj (UInt32.toNat_inj.mp e.symm)
        have hm := ha.mem_vacant j
        rw [hv, List.mem_cons] at hm
        simp only [List.getElem?_set_ne hne, ← hm, hj, false_or]
  · rw [he] at hl ⊢
    constructor
    case length_lt => exact hl
    case count_eq =>
      rw [List.countP_append, ha.count_eq]
      simp
    case vacant_nodup => exact ha.vacant_nodup
    case mem_vacant =>
      intro j
      rw [ha.mem_vacant]
      by_cases hj : j.toNat < a.slots.length
      · simp [List.getElem?_append_left hj]
      · rw [List.getElem?_eq_none (by omega), List.getElem?_append_right (by omega)]
        cases j.toNat - a.slots.length with
        | zero => simp
        | succ k => simp

theorem length_slots_insert (a : Arena α) (v : α) :
    a.slots.length ≤ (a.insert v).2.slots.length := by
  cases hv : a.vacant with
  | nil =>
    simp only [insert, hv, List.length_append]
    exact Nat.le_add_right ..
  | cons i rest =>
    simp only [insert, hv]
    exact Nat.le_of_eq List.length_set.symm

theorem generationAt_insert (ha : a.Sound) (v : α) (i : UInt32) :
    (a.insert v).2.generationAt i = a.generationAt i := by
  rcases insert_eq ha.spare v with ⟨j, rest, hv, hs, he⟩ | ⟨hv, he⟩
  · have hj : j.toNat < a.slots.length := (List.getElem?_eq_some_iff.mp hs).1
    rw [he, generationAt_of_slots_set rfl hj]
    by_cases hi : i = j
    · simp [hi]
    · simp [hi]
  · rw [he, generationAt, generationAt]
    by_cases hi : i.toNat < a.slots.length
    · rw [List.getElem?_append_left hi]
    · have hbefore : a.slots[i.toNat]? = none := List.getElem?_eq_none (by omega)
      rw [hbefore, List.getElem?_append_right (by omega)]
      cases i.toNat - a.slots.length <;> rfl

theorem generation_insert (ha : a.Sound) (v : α) :
    (a.insert v).1.generation = a.generationAt (a.insert v).1.index := by
  rcases insert_eq ha.spare v with ⟨i, rest, hv, hs, he⟩ | ⟨hv, he⟩
  · rw [he]
  · have hn : (UInt32.ofNat a.slots.length).toNat = a.slots.length :=
      UInt32.toNat_ofNat_of_lt' ha.length_lt
    rw [he, generationAt]
    dsimp only
    rw [hn, List.getElem?_eq_none (Nat.le_refl _)]
    rfl

/-! All values -/

theorem mem_entries (ha : a.Sound) {v : α} : (h, v) ∈ a.entries ↔ a.get? h = some v := by
  have hl := ha.length_lt
  rw [get?_eq_some_iff, entries, List.mem_filterMap]
  constructor
  · rintro ⟨⟨s, i⟩, hm, he⟩
    have hs := List.mk_mem_zipIdx_iff_getElem?.mp hm
    have hi := (List.getElem?_eq_some_iff.mp hs).1
    obtain ⟨g, value⟩ := s
    obtain ⟨w, hw, he⟩ := Option.map_eq_some_iff.mp he
    cases he
    have hn : (UInt32.ofNat i).toNat = i := UInt32.toNat_ofNat_of_lt' (Nat.lt_trans hi hl)
    dsimp only at hw ⊢
    rw [hn, hs, hw]
  · intro hs
    refine ⟨(⟨h.generation, some v⟩, h.index.toNat), List.mk_mem_zipIdx_iff_getElem?.mpr hs, ?_⟩
    simp

theorem mem_handles (ha : a.Sound) : h ∈ a.handles ↔ (a.get? h).isSome := by
  rw [handles, List.mem_map, Option.isSome_iff_exists]
  constructor
  · rintro ⟨⟨g, v⟩, hm, rfl⟩
    exact ⟨v, (mem_entries ha).mp hm⟩
  · rintro ⟨v, hv⟩
    exact ⟨(h, v), (mem_entries ha).mpr hv, rfl⟩

theorem nodup_handles (ha : a.Sound) : a.handles.Nodup := by
  have hl := ha.length_lt
  have hlt : (a.slots.zipIdx).Pairwise fun x y => x.2 < y.2 := by
    have hr : ((a.slots.zipIdx).map Prod.snd).Pairwise (· < ·) := by
      rw [List.zipIdx_map_snd]
      exact List.pairwise_lt_range' ..
    exact List.pairwise_map.mp hr
  rw [handles, entries, List.nodup_iff_pairwise_ne, List.pairwise_map, List.pairwise_filterMap]
  refine List.Pairwise.imp_of_mem ?_ hlt
  rintro ⟨s, i⟩ ⟨t, j⟩ hi hj hij ⟨g, v⟩ hg ⟨k, w⟩ hk he
  have hil := (List.getElem?_eq_some_iff.mp (List.mk_mem_zipIdx_iff_getElem?.mp hi)).1
  have hjl := (List.getElem?_eq_some_iff.mp (List.mk_mem_zipIdx_iff_getElem?.mp hj)).1
  obtain ⟨_, -, hg⟩ := Option.map_eq_some_iff.mp hg
  obtain ⟨_, -, hk⟩ := Option.map_eq_some_iff.mp hk
  cases hg
  cases hk
  have hn : (UInt32.ofNat i).toNat = (UInt32.ofNat j).toNat :=
    congrArg (fun g => g.index.toNat) he
  rw [UInt32.toNat_ofNat_of_lt' (Nat.lt_trans hil hl),
    UInt32.toNat_ofNat_of_lt' (Nat.lt_trans hjl hl)] at hn
  dsimp only at hij
  omega

theorem get?_of_find? (ha : a.Sound) {p : α → Bool} {v : α} (hf : a.find? p = some (h, v)) :
    a.get? h = some v ∧ p v = true :=
  ⟨(mem_entries ha).mp (List.mem_of_find?_eq_some hf), by simpa using List.find?_some hf⟩

theorem find?_eq_none_iff (ha : a.Sound) {p : α → Bool} :
    a.find? p = none ↔ ∀ h v, a.get? h = some v → p v = false := by
  rw [find?, List.find?_eq_none]
  constructor
  · intro hn h v hv
    simpa using hn (h, v) ((mem_entries ha).mpr hv)
  · rintro hn ⟨h, v⟩ hm
    simpa using hn h v ((mem_entries ha).mp hm)

/-! Changing all values -/

def alterEach (a : Arena α) (f : Handle → α → Option α) (hs : List Handle) : Arena α :=
  hs.foldl (fun b h => b.alter h (f h)) a

variable {each : Handle → α → Option α} {hs : List Handle}

theorem alterEach_sound (ha : a.Sound) : (a.alterEach each hs).Sound := by
  induction hs generalizing a with
  | nil => exact ha
  | cons h hs ih => exact ih (alter_sound ha h (each h))

@[simp] theorem length_slots_alterEach :
    (a.alterEach each hs).slots.length = a.slots.length := by
  induction hs generalizing a with
  | nil => rfl
  | cons h hs ih => exact (ih (a := a.alter h (each h))).trans length_slots_alter

theorem get?_alterEach (hn : hs.Nodup) (g : Handle) :
    (a.alterEach each hs).get? g =
      if g ∈ hs then (a.get? g).bind (each g) else a.get? g := by
  induction hs generalizing a with
  | nil => rw [if_neg List.not_mem_nil]; rfl
  | cons h hs ih =>
    obtain ⟨hh, hn⟩ := List.nodup_cons.mp hn
    show ((a.alter h (each h)).alterEach each hs).get? g = _
    rw [ih hn, get?_alter]
    by_cases hg : g = h
    · subst hg
      rw [if_neg hh, if_pos rfl, if_pos List.mem_cons_self]
    · rw [if_neg hg]
      by_cases hm : g ∈ hs
      · rw [if_pos hm, if_pos (List.mem_cons_of_mem _ hm)]
      · have hm' : g ∉ h :: hs := by
          intro hc
          rcases List.mem_cons.mp hc with hc | hc
          · exact hg hc
          · exact hm hc
        rw [if_neg hm, if_neg hm']

theorem count_alterEach (ha : a.Sound) (hn : hs.Nodup) :
    (a.alterEach each hs).count +
      hs.countP (fun h => (a.get? h).isSome && ((a.get? h).bind (each h)).isNone) = a.count := by
  induction hs generalizing a with
  | nil => rfl
  | cons h hs ih =>
    obtain ⟨hh, hn⟩ := List.nodup_cons.mp hn
    have hrest := ih (alter_sound ha h (each h)) hn
    have hone := count_alter ha h (each h)
    have hsame : hs.countP (fun g => ((a.alter h (each h)).get? g).isSome &&
          (((a.alter h (each h)).get? g).bind (each g)).isNone) =
        hs.countP fun g => (a.get? g).isSome && ((a.get? g).bind (each g)).isNone := by
      apply List.countP_congr
      intro g hg
      have hgh : g ≠ h := fun e => hh (e ▸ hg)
      rw [get?_alter, if_neg hgh]
    rw [hsame] at hrest
    show ((a.alter h (each h)).alterEach each hs).count + _ = _
    rw [List.countP_cons]
    simp only [Bool.and_eq_true]
    omega

def alterAll (a : Arena α) (f : Handle → α → Option α) : Arena α := a.alterEach f a.handles

theorem alterAll_sound (ha : a.Sound) : (a.alterAll each).Sound := alterEach_sound ha

theorem get?_alterAll (ha : a.Sound) (g : Handle) :
    (a.alterAll each).get? g = (a.get? g).bind (each g) := by
  rw [alterAll, get?_alterEach (nodup_handles ha)]
  by_cases hg : g ∈ a.handles
  · rw [if_pos hg]
  · rw [if_neg hg]
    rw [mem_handles ha, Option.not_isSome_iff_eq_none] at hg
    rw [hg]
    rfl

theorem count_alterAll (ha : a.Sound) :
    (a.alterAll each).count + a.entries.countP (fun (h, v) => (each h v).isNone) = a.count := by
  have hc : (a.alterAll each).count + _ = a.count := count_alterEach ha (nodup_handles ha)
  have hsame : a.handles.countP (fun h =>
        (a.get? h).isSome && ((a.get? h).bind (each h)).isNone) =
      a.entries.countP fun (h, v) => (each h v).isNone := by
    rw [handles, List.countP_map]
    apply List.countP_congr
    rintro ⟨h, v⟩ hm
    simp [(mem_entries ha).mp hm]
  rw [hsame] at hc
  exact hc

/-! From one moment to the next -/

/-- The handle finds a value, or its slot has gone on to a later generation. -/
def Issued (a : Arena α) (h : Handle) : Prop :=
  (a.get? h).isSome ∨
    h.index.toNat < a.slots.length ∧ h.generation.toNat < (a.generationAt h.index).toNat

/-- What may become of the slots while each is emptied once at most. -/
structure Advances (a b : Arena α) : Prop where
  length_le : a.slots.length ≤ b.slots.length
  moves : ∀ i, b.generationAt i = a.generationAt i ∨ b.generationAt i = a.generationAt i + 1
  retires : ∀ h, (a.get? h).isSome →
    (b.get? h).isSome ∨ b.generationAt h.index = h.generation + 1

def Ages (a b : Arena α) : Prop :=
  ∀ i, (a.generationAt i).toNat ≤ (b.generationAt i).toNat

variable {b c : Arena α}

theorem advances_of_found (hl : a.slots.length ≤ b.slots.length)
    (hg : ∀ i, b.generationAt i = a.generationAt i)
    (hr : ∀ h, (a.get? h).isSome → (b.get? h).isSome) : a.Advances b :=
  ⟨hl, fun i => .inl (hg i), fun h hv => .inl (hr h hv)⟩

theorem Advances.trans (hab : a.Advances b) (hbc : b.Advances c)
    (hg : ∀ i, c.generationAt i = b.generationAt i) : a.Advances c := by
  constructor
  case length_le => exact Nat.le_trans hab.length_le hbc.length_le
  case moves =>
    intro i
    rw [hg i]
    exact hab.moves i
  case retires =>
    intro h hv
    rw [hg]
    rcases hab.retires h hv with hb | hb
    · rcases hbc.retires h hb with hc | hc
      · exact .inl hc
      · rw [hg] at hc
        exact .inr hc
    · exact .inr hb

/-- A handle given out stays one, whatever becomes of its value. -/
theorem issued_of_advances (hab : a.Advances b) (hg : a.Ages b) (hi : a.Issued h) :
    b.Issued h := by
  have hage := hg h.index
  have hl := hab.length_le
  rcases hi with hv | ⟨hlt, hgen⟩
  · obtain ⟨v, he⟩ := Option.isSome_iff_exists.mp hv
    have hlt := index_lt_of_get? he
    rw [generation_of_get? he] at hage
    rcases hab.retires h hv with hb | hb
    · exact .inl hb
    · refine .inr ⟨by omega, ?_⟩
      have hne : (b.generationAt h.index).toNat ≠ h.generation.toNat := by
        intro e
        have e := UInt32.toNat_inj.mp e
        rw [hb] at e
        exact absurd e (by simp)
      omega
  · exact .inr ⟨by omega, by omega⟩

/-- A new value goes under a handle that was never given out. -/
theorem not_issued_insert (ha : a.Sound) (v : α) : ¬ a.Issued (a.insert v).1 := by
  rcases insert_eq ha.spare v with ⟨i, rest, hv, hs, he⟩ | ⟨hv, he⟩
  · rw [he]
    rintro (hi | ⟨-, hi⟩)
    · simp [get?, hs] at hi
    · exact Nat.lt_irrefl _ hi
  · rw [he]
    have hn : (UInt32.ofNat a.slots.length).toNat = a.slots.length :=
      UInt32.toNat_ofNat_of_lt' ha.length_lt
    rintro (hi | ⟨hi, -⟩)
    · simp [get?, hn] at hi
    · dsimp only at hi
      omega

theorem insert_advances (ha : a.Sound) (v : α) : a.Advances (a.insert v).2 := by
  refine advances_of_found (length_slots_insert a v) (generationAt_insert ha v) ?_
  intro h hv
  rw [get?_insert ha]
  split
  · rfl
  · exact hv

theorem map_advances (f : α → α) : a.Advances (a.map f) := by
  refine advances_of_found (Nat.le_of_eq (length_slots_map f).symm) (generationAt_map f) ?_
  intro h hv
  rw [get?_map, Option.isSome_map]
  exact hv

/-- Each slot is emptied once at most, for it holds one of the handles. -/
theorem alterEach_advances (hs : List Handle) (hc : c.Advances a)
    (hm : ∀ h ∈ hs, (c.get? h).isSome) : c.Advances (a.alterEach each hs) := by
  induction hs generalizing a with
  | nil => exact hc
  | cons h hs ih =>
    refine ih ?_ fun g hg => hm g (List.mem_cons_of_mem _ hg)
    have hh := hm h List.mem_cons_self
    obtain ⟨w, hw⟩ := Option.isSome_iff_exists.mp hh
    constructor
    case length_le =>
      rw [length_slots_alter]
      exact hc.length_le
    case moves =>
      intro i
      rw [generationAt_alter]
      split
      case isTrue hcond =>
        rw [hcond.1, generation_of_get? hw]
        exact .inr rfl
      case isFalse => exact hc.moves i
    case retires =>
      intro g hv
      obtain ⟨v, hv'⟩ := Option.isSome_iff_exists.mp hv
      rw [get?_alter, generationAt_alter]
      by_cases hi : g.index = h.index
      · -- The handles of one slot that find something are one handle.
        have he := eq_of_index hv' hw hi
        subst he
        rcases hc.retires g hv with hg | hg
        · cases hb : (a.get? g).bind (each g) with
          | none => exact .inr (by simp [hg])
          | some u => exact .inl (by simp)
        · right
          split
          · rfl
          · exact hg
      · have hne : g ≠ h := fun e => hi (by rw [e])
        rw [if_neg hne, if_neg fun hcond => hi hcond.1]
        exact hc.retires g hv

theorem advances_refl (a : Arena α) : a.Advances a :=
  advances_of_found (Nat.le_refl _) (fun _ => rfl) fun _ hv => hv

theorem alterAll_advances (ha : a.Sound) : a.Advances (a.alterAll each) :=
  alterEach_advances _ (advances_refl a) fun _ hm => (mem_handles ha).mp hm

theorem alter_advances (a : Arena α) (h : Handle) (f : α → Option α) :
    a.Advances (a.alter h f) := by
  cases hv : a.get? h with
  | none =>
    rw [alter_of_none hv]
    exact advances_refl a
  | some v =>
    have hfound : ∀ g ∈ [h], (a.get? g).isSome := by
      intro g hg
      rw [List.mem_singleton.mp hg, hv]
      rfl
    have hone : a.Advances (a.alterEach (fun _ => f) [h]) :=
      alterEach_advances [h] (advances_refl a) hfound
    exact hone

end RenderRelay.Arena
