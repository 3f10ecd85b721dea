import RenderRelay.Proofs.Registry.Custody
import RenderRelay.Proofs.Registry.Orderly

/-!
# Distinct contexts

However many slots there are and however often they were emptied, no two slots
stand for one context, and what a worker has is what its record says. So where
a worker asks again for just what it has, it is given the same record back.
-/

set_option autoImplicit false

namespace RenderRelay

open Function (update)

/-! ## What is in the slots -/

namespace Arena

variable {α : Type} {a : Arena α} {h : Handle} {v : α} {p : α → Bool}

theorem mem_entries_iff : (h, v) ∈ a.entries ↔
    ∃ i g, a.slots[i]? = some ⟨g, some v⟩ ∧ h = ⟨UInt32.ofNat i, g⟩ := by
  rw [entries, List.mem_filterMap]
  constructor
  · rintro ⟨⟨⟨g, value⟩, i⟩, hm, he⟩
    obtain ⟨w, rfl, hw⟩ := Option.map_eq_some_iff.mp he
    cases hw
    exact ⟨i, g, List.mem_zipIdx_iff_getElem?.mp hm, rfl⟩
  · rintro ⟨i, g, hs, rfl⟩
    exact ⟨(⟨g, some v⟩, i), List.mem_zipIdx_iff_getElem?.mpr hs, rfl⟩

theorem slot_of_find? (hf : a.find? p = some (h, v)) :
    p v = true ∧ ∃ i g, a.slots[i]? = some ⟨g, some v⟩ ∧ h = ⟨UInt32.ofNat i, g⟩ := by
  have hp : p v = true := by
    have hsome := List.find?_some hf
    exact hsome
  exact ⟨hp, mem_entries_iff.mp (List.mem_of_find?_eq_some hf)⟩

theorem slot_of_find?_none (hf : a.find? p = none) {i : Nat} {g : UInt32}
    (hs : a.slots[i]? = some ⟨g, some v⟩) : p v = false :=
  Bool.eq_false_iff.mpr (List.find?_eq_none.mp hf _ (mem_entries_iff.mpr ⟨i, g, hs, rfl⟩))

theorem find?_of_single (hv : a.get? h = some v) (hp : p v = true)
    (hu : ∀ i g w, a.slots[i]? = some ⟨g, some w⟩ → p w = true → i = h.index.toNat) :
    a.find? p = some (h, v) := by
  have hs := get?_eq_some_iff.mp hv
  have hself : (⟨UInt32.ofNat h.index.toNat, h.generation⟩ : Handle) = h := by
    rw [UInt32.ofNat_toNat]
  cases hf : a.find? p with
  | none =>
    rw [slot_of_find?_none hf hs] at hp
    cases hp
  | some found =>
    obtain ⟨g, w⟩ := found
    obtain ⟨hw, i, n, hi, rfl⟩ := slot_of_find? hf
    obtain rfl := hu i n w hi hw
    cases hs.symm.trans hi
    rw [hself]

theorem insert_erase (hv : a.get? h = some v) (w : α) :
    (a.erase h).insert w = (⟨h.index, h.generation + 1⟩,
      { slots := a.slots.set h.index.toNat ⟨h.generation + 1, some w⟩
        vacant := a.vacant
        count := a.count - 1 + 1 }) := by
  have hl := index_lt_of_get? hv
  rw [erase_of_get? hv, insert]
  simp [hl]

/-- What is put in at once takes the slot of what was taken out, under another handle. -/
theorem get?_insert_erase (hv : a.get? h = some v) (w : α) (g : Handle) :
    ((a.erase h).insert w).2.get? g =
      if g = ⟨h.index, h.generation + 1⟩ then some w else if g = h then none else a.get? g := by
  have hl := index_lt_of_get? hv
  obtain ⟨i, n⟩ := g
  rw [insert_erase hv, get?_of_slots_set rfl hl]
  by_cases hi : i = h.index
  · subst hi
    by_cases hn : h.generation + 1 = n
    · rw [if_pos rfl, if_pos hn, if_pos (by rw [hn])]
    · have hnext : (⟨h.index, n⟩ : Handle) ≠ ⟨h.index, h.generation + 1⟩ := by
        rintro he
        exact hn (Handle.mk.inj he).2.symm
      rw [if_pos rfl, if_neg hn, if_neg hnext]
      split
      · rfl
      · next hne =>
        -- The slot had one value, which only `h` found.
        cases hg : a.get? ⟨h.index, n⟩ with
        | none => rfl
        | some u => exact absurd (eq_of_index hg hv rfl) hne
  · have hne : ∀ m, (⟨i, n⟩ : Handle) ≠ ⟨h.index, m⟩ := fun m he => hi (Handle.mk.inj he).1
    rw [if_neg hi, if_neg (hne _), if_neg (hne h.generation)]

theorem slot_of_insert {i : Nat} {g : UInt32} {w : α}
    (hs : (a.insert v).2.slots[i]? = some ⟨g, some w⟩) :
    a.slots[i]? = some ⟨g, some w⟩ ∨
      w = v ∧ i = (a.vacant.head?.map UInt32.toNat).getD a.slots.length := by
  unfold insert at hs
  split at hs
  · next j rest hv =>
    rw [hv]
    by_cases hi : j.toNat = i
    · subst hi
      rw [List.getElem?_set, if_pos rfl] at hs
      split at hs
      · cases hs
        exact .inr ⟨rfl, rfl⟩
      · cases hs
    · rw [List.getElem?_set_ne hi] at hs
      exact .inl hs
  · next hv =>
    rw [hv]
    by_cases hi : i < a.slots.length
    · rw [List.getElem?_append_left hi] at hs
      exact .inl hs
    · rw [List.getElem?_append_right (by omega), List.getElem?_singleton] at hs
      split at hs
      · cases hs
        exact .inr ⟨rfl, by show i = a.slots.length; omega⟩
      · cases hs

/-- What a slot holds once a value was changed is what it held, or the change of that. -/
theorem slot_of_alter {f : α → Option α} {i : Nat} {g : UInt32} {w : α}
    (hs : (a.alter h f).slots[i]? = some ⟨g, some w⟩) :
    a.slots[i]? = some ⟨g, some w⟩ ∨ i = h.index.toNat ∧
      ∃ v, a.slots[i]? = some ⟨h.generation, some v⟩ ∧ f v = some w := by
  cases hv : a.get? h with
  | none =>
    rw [alter_of_none hv] at hs
    exact .inl hs
  | some v =>
    have hslot := get?_eq_some_iff.mp hv
    cases hf : f v with
    | none =>
      rw [alter_of_erase hv hf, erase_of_get? hv, List.getElem?_set] at hs
      split at hs
      · split at hs <;> cases hs
      · exact .inl hs
    | some u =>
      rw [alter_of_set hv hf, set_of_get? hv, List.getElem?_set] at hs
      split at hs
      · next hi =>
        split at hs
        · cases hs
          exact .inr ⟨hi.symm, v, hi ▸ hslot, hf⟩
        · cases hs
      · exact .inl hs

end Arena

/-! ## No two slots stand for one context -/

namespace Registry

variable {r r' r'' : Registry}

def Stands (r : Registry) (i : Nat) (display : Display) (context : Context) : Prop :=
  ∃ g c, r.arena.slots[i]? = some ⟨g, some c⟩ ∧ c.display = display ∧ c.context = context

structure Distinct (r : Registry) : Prop where
  single : ∀ i j display context, r.Stands i display context → r.Stands j display context → i = j
  named : ∀ i display context, r.Stands i display context → display ≠ .none ∧ context ≠ .none

theorem empty_distinct : ({} : Registry).Distinct where
  single _ _ _ _ := by rintro ⟨_, _, hs, -⟩; simp at hs
  named _ _ _ := by rintro ⟨_, _, hs, -⟩; simp at hs

def Narrows (r r' : Registry) : Prop :=
  ∀ i display context, r'.Stands i display context → r.Stands i display context

theorem Narrows.trans (h : r.Narrows r') (h' : r'.Narrows r'') : r.Narrows r'' :=
  fun i display context hs => h i display context (h' i display context hs)

theorem Distinct.narrow (hd : r.Distinct) (hn : r.Narrows r') : r'.Distinct where
  single i j display context hi hj :=
    hd.single i j display context (hn i display context hi) (hn j display context hj)
  named i display context hi := hd.named i display context (hn i display context hi)

theorem stands_of_record? {h : Handle} {c : ContextRecord} (hv : r.record? h = some c) :
    r.Stands h.index.toNat c.display c.context :=
  ⟨h.generation, c, Arena.get?_eq_some_iff.mp hv, rfl, rfl⟩

theorem narrows_alter (r : Registry) (h : Handle) {f : ContextRecord → Option ContextRecord}
    (hf : ∀ c d, f c = some d → d.display = c.display ∧ d.context = c.context) :
    r.Narrows { r with arena := r.arena.alter h f } := by
  rintro i display context ⟨g, d, hs, rfl, rfl⟩
  rcases Arena.slot_of_alter hs with hs | ⟨-, c, hs, hcd⟩
  · exact ⟨g, d, hs, rfl, rfl⟩
  · obtain ⟨hdisplay, hcontext⟩ := hf c d hcd
    exact ⟨_, c, hs, hdisplay.symm, hcontext.symm⟩

theorem narrows_mark (r : Registry) (doomed : Handle → ContextRecord → Option Doom) :
    r.Narrows (r.mark doomed).2 := by
  rw [mark_eq, Arena.alterAll]
  generalize r.arena.handles = hs
  induction hs generalizing r with
  | nil => exact fun _ _ _ h => h
  | cons h hs ih =>
    refine (r.narrows_alter h (f := destroyed doomed h) ?_).trans
      (ih { r with arena := r.arena.alter h (destroyed doomed h) })
    intro c d hd
    obtain ⟨hdisplay, hcontext, -, -⟩ := destroyed_same hd
    exact ⟨hdisplay, hcontext⟩

theorem narrows_initDisplay (r : Registry) (display : Display) :
    r.Narrows (r.initDisplay display) := by
  rintro i d context ⟨g, c, hs, rfl, rfl⟩
  rw [initDisplay_eq] at hs
  have hs : (r.arena.slots.map _)[i]? = some _ := hs
  rw [List.getElem?_map] at hs
  obtain ⟨⟨g', value⟩, hslot, he⟩ := Option.map_eq_some_iff.mp hs
  obtain ⟨-, hvalue⟩ := Arena.Slot.mk.inj he
  obtain ⟨b, rfl, rfl⟩ := Option.map_eq_some_iff.mp hvalue
  exact ⟨g', b, hslot, rfl, rfl⟩

theorem narrows_giveBack (r : Registry) (current : Option Current) :
    r.Narrows (r.giveBack current) := by
  cases current with
  | none => exact fun _ _ _ h => h
  | some own =>
    rw [giveBack, release_eq]
    refine r.narrows_alter _ ?_
    intro c d hd
    rw [ContextRecord.returned_outcome] at hd
    split at hd <;> cases hd
    exact ⟨rfl, rfl⟩

theorem narrows_activate (r : Registry) (h : Handle) (draw read : Surface) :
    r.Narrows (r.activate h draw read).2 := by
  rcases r.activate_cases h draw read with ⟨c, shadow, -, -, -, he⟩ | ⟨e, he⟩
  · rw [he]
    refine r.narrows_alter _ ?_
    intro c d hd
    cases hd
    exact ⟨rfl, rfl⟩
  · rw [he]
    exact fun _ _ _ h => h

theorem Distinct.findOrCreate (hd : r.Distinct) {display : Display} {context : Context}
    (hdisplay : display ≠ .none) (hcontext : context ≠ .none) (draw read : Surface) :
    (r.findOrCreate display draw read context).2.Distinct := by
  unfold Registry.findOrCreate
  cases hf : r.arena.find? fun c => c.display = display && c.context = context with
  | some found => exact hd.narrow (r.narrows_activate found.1 draw read)
  | none =>
    have hnone : ∀ i, ¬ r.Stands i display context := by
      rintro i ⟨g, c, hs, rfl, rfl⟩
      have hp := Arena.slot_of_find?_none hf hs
      simp at hp
    have hadd : ∀ i d c, (r.add display context draw read).2.Stands i d c →
        r.Stands i d c ∨ (d = display ∧ c = context) ∧
          i = (r.arena.vacant.head?.map UInt32.toNat).getD r.arena.slots.length := by
      rintro i d c ⟨g, record, hs, rfl, rfl⟩
      rcases Arena.slot_of_insert hs with hs | ⟨rfl, hi⟩
      · exact .inl ⟨g, record, hs, rfl, rfl⟩
      · exact .inr ⟨⟨rfl, rfl⟩, hi⟩
    have hdistinct : (r.add display context draw read).2.Distinct := by
      constructor
      case single =>
        intro i j d c hi hj
        rcases hadd i d c hi with hold | ⟨⟨rfl, rfl⟩, hnew⟩
        · rcases hadd j d c hj with hold' | ⟨⟨rfl, rfl⟩, -⟩
          · exact hd.single i j d c hold hold'
          · exact absurd hold (hnone i)
        · rcases hadd j _ _ hj with hold' | ⟨-, hnew'⟩
          · exact absurd hold' (hnone j)
          · exact hnew.trans hnew'.symm
      case named =>
        intro i d c hi
        rcases hadd i d c hi with hold | ⟨⟨rfl, rfl⟩, -⟩
        · exact hd.named i d c hold
        · exact ⟨hdisplay, hcontext⟩
    exact hdistinct.narrow (narrows_activate _ _ draw read)

def issue (r : Registry) (display : Display) (draw read : Surface) (context : Context) :
    Except RegistryError Current × Registry :=
  match r.matchExisting display draw read context with
  | some h => r.activate h draw read
  | none => r.findOrCreate display draw read context

theorem makeCurrent_eq_issue (r : Registry) (display : Display) (draw read : Surface)
    (context : Context) (current : Option Current) :
    r.makeCurrent display draw read context current =
      if display = .none ∨ context = .none then (.ok (), r.giveBack current, none)
      else if r.busyElsewhere display context (current.map Current.handle) then
        (.error (.contextBusy display context), r, current)
      else
        (((r.giveBack current).issue display draw read context).1.map fun _ => (),
          ((r.giveBack current).issue display draw read context).2,
          ((r.giveBack current).issue display draw read context).1.toOption) := by
  unfold makeCurrent issue
  dsimp only
  split
  · rfl
  · split
    · rfl
    · cases (r.giveBack current).matchExisting display draw read context with
      | some h =>
        dsimp only
        rcases (r.giveBack current).activate h draw read with ⟨_ | _, _⟩ <;> rfl
      | none =>
        dsimp only
        rcases (r.giveBack current).findOrCreate display draw read context with
          ⟨_ | _, _⟩ <;> rfl

theorem Distinct.makeCurrent (hd : r.Distinct) (display : Display) (draw read : Surface)
    (context : Context) (current : Option Current) :
    (r.makeCurrent display draw read context current).2.1.Distinct := by
  have hback := hd.narrow (r.narrows_giveBack current)
  rw [makeCurrent_eq_issue]
  split
  · exact hback
  next hsome =>
  obtain ⟨hdisplay, hcontext⟩ := not_or.mp hsome
  split
  · exact hd
  show ((r.giveBack current).issue display draw read context).2.Distinct
  unfold issue
  split
  · exact hback.narrow (narrows_activate _ _ draw read)
  · exact hback.findOrCreate hdisplay hcontext draw read

/-! ## What a worker has is what its record says -/

end Registry

structure Current.Of (k : Current) (c : ContextRecord) : Prop where
  active : c.active = true
  display : k.display = c.display
  context : k.context = c.context
  draw : k.draw = c.draw
  read : k.read = c.read

namespace Registry

variable {r r' r'' : Registry} {out : Nat → Option Current}

def Bears (r : Registry) (out : Nat → Option Current) : Prop :=
  ∀ w k, out w = some k → ∃ c, r.record? k.handle = some c ∧ k.Of c

def Steadies (r r' : Registry) : Prop :=
  ∀ (k : Current) c, r.record? k.handle = some c → k.Of c →
    ∃ d, r'.record? k.handle = some d ∧ k.Of d

theorem Bears.steady (hb : r.Bears out) (hs : r.Steadies r') : r'.Bears out := by
  intro w k hk
  obtain ⟨c, hv, hof⟩ := hb w k hk
  exact hs k c hv hof

theorem steadies_alter (r : Registry) (h : Handle) {f : ContextRecord → Option ContextRecord}
    (hf : ∀ (k : Current) c, k.Of c → ∃ d, f c = some d ∧ k.Of d) :
    r.Steadies { r with arena := r.arena.alter h f } := by
  intro k c hv hof
  have hv : r.arena.get? k.handle = some c := hv
  rw [record?, Arena.get?_alter]
  split
  · next hh =>
    obtain ⟨d, hd, hod⟩ := hf k c hof
    exact ⟨d, by rw [← hh, hv]; exact hd, hod⟩
  · exact ⟨c, hv, hof⟩

theorem steadies_mark (r : Registry) (doomed : Handle → ContextRecord → Option Doom) :
    r.Steadies (r.mark doomed).2 := by
  rw [mark_eq, Arena.alterAll]
  generalize r.arena.handles = hs
  induction hs generalizing r with
  | nil => exact fun _ c hv hof => ⟨c, hv, hof⟩
  | cons h hs ih =>
    intro k c hv hof
    have hstep : r.Steadies { r with arena := r.arena.alter h (destroyed doomed h) } :=
      r.steadies_alter h fun k c hof =>
        ⟨_, destroyed_of_active hof.active, { hof with }⟩
    obtain ⟨d, hv, hof⟩ := hstep k c hv hof
    exact ih _ k d hv hof

theorem steadies_initDisplay (r : Registry) (display : Display) :
    r.Steadies (r.initDisplay display) := by
  intro k c hv hof
  refine ⟨revived display c, ?_, { hof with }⟩
  rw [initDisplay_eq, record?, Arena.get?_map, show r.arena.get? k.handle = some c from hv]
  rfl

theorem Bears.giveBack (hb : r.Bears out) (hc : Custody r out) (w : Nat) :
    (r.giveBack (out w)).Bears (update out w none) := by
  intro v k hk
  obtain ⟨hvw, hk⟩ := update_none_eq_some hk
  obtain ⟨c, hv, hof⟩ := hb v k hk
  cases hw : out w with
  | none => exact ⟨c, hv, hof⟩
  | some own =>
    refine ⟨c, ?_, hof⟩
    have hne : k.handle ≠ own.handle := fun he => hvw (hc.apart v w k own hk hw he)
    exact (record?_release_of_ne hne).trans hv

theorem Bears.activate (hb : r.Bears out) {w : Nat} (hw : out w = none) (h : Handle)
    (draw read : Surface) :
    (r.activate h draw read).2.Bears (update out w (r.activate h draw read).1.toOption) := by
  rcases r.activate_cases h draw read with ⟨c, shadow, hv, ha, -, he⟩ | ⟨e, he⟩
  · rw [he]
    intro v k hk
    rcases update_some_eq_some hk with ⟨-, rfl⟩ | ⟨-, hk⟩
    · exact ⟨c.taken draw read, record?_handOut_self hv draw read, rfl, rfl, rfl, rfl, rfl⟩
    · obtain ⟨d, hd, hof⟩ := hb v k hk
      refine ⟨d, ?_, hof⟩
      rw [record?_handOut_of_ne, hd]
      rintro rfl
      obtain rfl := Option.some.inj (hv.symm.trans hd)
      exact absurd hof.active (by simp [ha])
  · have hsame : update out w none = out := Function.update_eq_self_iff.mpr hw.symm
    rw [he, Except.toOption, hsame]
    exact hb

theorem Bears.findOrCreate (hb : r.Bears out) (hc : Custody r out) {w : Nat} (hw : out w = none)
    (display : Display) (draw read : Surface) (context : Context) :
    (r.findOrCreate display draw read context).2.Bears
      (update out w (r.findOrCreate display draw read context).1.toOption) := by
  unfold Registry.findOrCreate
  split
  · exact hb.activate hw _ draw read
  · have hadd : (r.add display context draw read).2.Bears out := by
      intro v k hk
      obtain ⟨c, hv, hof⟩ := hb v k hk
      exact ⟨c, hc.spare.get?_insert_of_some _ hv, hof⟩
    exact hadd.activate hw _ draw read

theorem Bears.makeCurrent (hb : r.Bears out) (hc : Custody r out) (w : Nat) (display : Display)
    (draw read : Surface) (context : Context) :
    (r.makeCurrent display draw read context (out w)).2.1.Bears
      (update out w (r.makeCurrent display draw read context (out w)).2.2) := by
  have hback := hb.giveBack hc w
  have hnone : update out w none w = none := Function.update_self ..
  rw [makeCurrent_eq_issue]
  split
  · exact hback
  split
  · rw [Function.update_eq_self]
    exact hb
  have hmade : ((r.giveBack (out w)).issue display draw read context).2.Bears
      (update (update out w none) w
        ((r.giveBack (out w)).issue display draw read context).1.toOption) := by
    unfold issue
    split
    · exact hback.activate hnone _ draw read
    · exact hback.findOrCreate (hc.giveBack w).1 hnone display draw read context
  rwa [Function.update_idem] at hmade

/-! ## Asking again for what one has -/

variable {k : Current} {c : ContextRecord}

def unmarked (c : ContextRecord) : ContextRecord := { c with doom := {} }

theorem Distinct.busyElsewhere_own (hd : r.Distinct) (hv : r.record? k.handle = some c)
    (hof : k.Of c) : r.busyElsewhere k.display k.context (some k.handle) = false := by
  have hfind : r.arena.find? (fun d => d.display = k.display && d.context = k.context && d.active) =
      some (k.handle, c) := by
    refine Arena.find?_of_single hv (by simp [hof.active, hof.display, hof.context]) ?_
    intro i g d hs hp
    simp only [Bool.and_eq_true, decide_eq_true_eq] at hp
    refine hd.single i _ k.display k.context ⟨g, d, hs, hp.1⟩ ?_
    rw [hof.display, hof.context]
    exact stands_of_record? hv
  unfold busyElsewhere
  rw [hfind]
  simp

/-- The one record of a context is handed out, whether it still has these surfaces or not. -/
theorem Distinct.issue_eq (hd : r.Distinct) {h : Handle} (hv : r.record? h = some c)
    (draw read : Surface) :
    r.issue c.display draw read c.context = r.activate h draw read := by
  have hself : ∀ i g d, r.arena.slots[i]? = some ⟨g, some d⟩ → d.display = c.display →
      d.context = c.context → i = h.index.toNat := fun i g d hs hdisplay hcontext =>
    hd.single i _ c.display c.context ⟨g, d, hs, hdisplay, hcontext⟩ (stands_of_record? hv)
  have hfind : r.arena.find? (fun d => d.display = c.display && d.context = c.context) =
      some (h, c) := by
    refine Arena.find?_of_single hv (by simp) ?_
    intro i g d hs hp
    simp only [Bool.and_eq_true, decide_eq_true_eq] at hp
    exact hself i g d hs hp.1 hp.2
  unfold issue
  cases hm : r.matchExisting c.display draw read c.context with
  | none =>
    dsimp only
    rw [Registry.findOrCreate, hfind]
  | some g =>
    obtain ⟨⟨g', d⟩, hf, rfl⟩ := Option.map_eq_some_iff.mp hm
    obtain ⟨hp, i, n, hs, hg⟩ := Arena.slot_of_find? hf
    simp only [Bool.and_eq_true, decide_eq_true_eq] at hp
    obtain ⟨⟨⟨⟨⟨hdisplay, hcontext⟩, -⟩, -⟩, -⟩, -⟩ := hp
    obtain rfl := hself i n d hs hdisplay hcontext
    have hslot := Arena.get?_eq_some_iff.mp hv
    cases hslot.symm.trans hs
    have hh : g' = h := hg.trans (by rw [UInt32.ofNat_toNat])
    rw [hh]

theorem giveBack_own (hv : r.record? k.handle = some c) (hr : c.doom.reaps = false) :
    r.giveBack (some k) = r.set k.handle (c.returned k.shadow).settled := by
  have hget : r.arena.get? k.handle = some c := hv
  have houtcome : (c.returned k.shadow).outcome = some (c.returned k.shadow).settled := by
    rw [ContextRecord.returned_outcome, hr]
    rfl
  rw [giveBack, release_eq, Arena.alter_of_set hget houtcome]
  rfl

theorem record?_set_self {h : Handle} (hv : r.record? h = some c) (d : ContextRecord) :
    (r.set h d).record? h = some d := by
  have hget : r.arena.get? h = some c := hv
  show (r.arena.set h d).get? h = some d
  rw [Arena.get?_set_self, hget]
  rfl

theorem handOut_set {h : Handle} (hv : r.record? h = some c) (d : ContextRecord)
    (draw read : Surface) : (r.set h d).handOut h draw read = r.set h (d.taken draw read) := by
  have hself : (r.set h d).arena.get? h = some d := record?_set_self hv d
  have halter : (r.set h d).arena.alter h (fun c => some (c.taken draw read)) =
      (r.set h d).arena.set h (d.taken draw read) := Arena.alter_of_set hself rfl
  rw [handOut, halter, set, set, Arena.set_set]

theorem taken_returned (hof : k.Of c) (hs : c.shadow = none) (hr : c.doom.reaps = false) :
    (c.returned k.shadow).settled.taken k.draw k.read = unmarked c := by
  rw [ContextRecord.taken, ContextRecord.doom_settled (c := c.returned k.shadow) hr, hof.draw,
    hof.read, unmarked]
  show ({ c with active := true, doom := {}, shadow := none } : ContextRecord) = _
  rw [← hof.active, ← hs]

/-- A worker that asks again for just what it has gives it back and is given what it asks for. -/
theorem Distinct.makeCurrent_again (hd : r.Distinct) (hv : r.record? k.handle = some c)
    (hof : k.Of c) (hback : r.giveBack (some k) = r') {result : Except RegistryError Current}
    (hissue : r'.issue k.display k.draw k.read k.context = (result, r'')) :
    r.makeCurrent k.display k.draw k.read k.context (some k) =
      (result.map fun _ => (), r'', result.toOption) := by
  obtain ⟨hdisplay, hcontext⟩ := hd.named _ _ _ (stands_of_record? hv)
  have hnone : ¬ (k.display = .none ∨ k.context = .none) := by
    rw [hof.display, hof.context]
    exact not_or.mpr ⟨hdisplay, hcontext⟩
  rw [makeCurrent_eq_issue, if_neg hnone, Option.map_some, hd.busyElsewhere_own hv hof,
    if_neg Bool.false_ne_true, hback, hissue]

/-- With no more than surfaces destroyed, a worker that asks again for just what it has gets it
back, and what was noted on the record is gone. -/
theorem Distinct.makeCurrent_own (hd : r.Distinct) (hv : r.record? k.handle = some c)
    (hof : k.Of c) (hs : c.shadow = none) (hr : c.doom.reaps = false) :
    r.makeCurrent k.display k.draw k.read k.context (some k) =
      (.ok (), r.set k.handle (unmarked c), some k) := by
  have hback := giveBack_own hv hr
  have hdistinct := hd.narrow (r.narrows_giveBack (some k))
  rw [hback] at hdistinct
  have hidle := record?_set_self hv (c.returned k.shadow).settled
  have hissue := hdistinct.issue_eq hidle k.draw k.read
  have hdisplay : (c.returned k.shadow).settled.display = k.display := hof.display.symm
  have hcontext : (c.returned k.shadow).settled.context = k.context := hof.context.symm
  rw [activate_of_idle hidle rfl rfl, handOut_set hv, taken_returned hof hs hr, hdisplay,
    hcontext] at hissue
  exact hd.makeCurrent_again hv hof hback hissue

theorem issue_of_unfound {display : Display} {context : Context} (draw read : Surface)
    (hfind : ∀ p : ContextRecord → Bool,
      (∀ d, p d = true → d.display = display ∧ d.context = context) → r.arena.find? p = none)
    (hnew : (r.add display context draw read).2.record? (r.add display context draw read).1 =
      some (fresh display context draw read)) :
    r.issue display draw read context =
      (.ok ⟨(r.add display context draw read).1, display, context, draw, read, .fresh⟩,
        (r.add display context draw read).2.handOut (r.add display context draw read).1
          draw read) := by
  have hmatch : r.matchExisting display draw read context = none := by
    rw [matchExisting, hfind _ (by simp +contextual)]
    rfl
  have hfound : r.findOrCreate display draw read context =
      (r.add display context draw read).2.activate (r.add display context draw read).1
        draw read := by
    rw [Registry.findOrCreate, hfind _ (by simp)]
    rfl
  rw [issue, hmatch]
  exact hfound.trans (activate_of_idle hnew rfl rfl draw read)

theorem giveBack_gone (hv : r.record? k.handle = some c) (hr : c.doom.reaps = true) :
    r.giveBack (some k) = r.reap k.handle := by
  have hget : r.arena.get? k.handle = some c := hv
  have houtcome : (c.returned k.shadow).outcome = none := by
    rw [ContextRecord.returned_outcome, hr]
    rfl
  rw [giveBack, release_eq, Arena.alter_of_erase hget houtcome, reap]

theorem Distinct.find?_reap (hd : r.Distinct) {h : Handle} (hv : r.record? h = some c)
    {p : ContextRecord → Bool}
    (hp : ∀ d, p d = true → d.display = c.display ∧ d.context = c.context) :
    (r.reap h).arena.find? p = none := by
  have hget : r.arena.get? h = some c := hv
  rw [reap]
  cases hf : (r.arena.erase h).find? p with
  | none => rfl
  | some found =>
    obtain ⟨g, d⟩ := found
    obtain ⟨hpd, i, n, hslot, -⟩ := Arena.slot_of_find? hf
    obtain ⟨hdisplay, hcontext⟩ := hp d hpd
    rw [Arena.erase_of_get? hget, List.getElem?_set] at hslot
    split at hslot
    · split at hslot <;> cases hslot
    · next hi =>
      have hstands : r.Stands i c.display c.context := ⟨n, d, hslot, hdisplay, hcontext⟩
      exact absurd (hd.single _ _ _ _ (stands_of_record? hv) hstands) hi

theorem handle_add_reap {h : Handle} (hv : r.record? h = some c) (display : Display)
    (context : Context) (draw read : Surface) :
    ((r.reap h).add display context draw read).1 = ⟨h.index, h.generation + 1⟩ :=
  congrArg Prod.fst (Arena.insert_erase hv _)

theorem record?_add_reap {h : Handle} (hv : r.record? h = some c) (display : Display)
    (context : Context) (draw read : Surface) (g : Handle) :
    ((r.reap h).add display context draw read).2.record? g =
      if g = ⟨h.index, h.generation + 1⟩ then some (fresh display context draw read)
      else if g = h then none
      else r.record? g :=
  Arena.get?_insert_erase hv _ g

/-- With the display or the context destroyed, a worker that asks again for what it has gets a
new record, and its own is gone. -/
theorem Distinct.makeCurrent_gone (hd : r.Distinct) (hv : r.record? k.handle = some c)
    (hof : k.Of c) (hr : c.doom.reaps = true) :
    ∃ h r', r.makeCurrent k.display k.draw k.read k.context (some k) =
        (.ok (), r', some ⟨h, k.display, k.context, k.draw, k.read, .fresh⟩) ∧
      h ≠ k.handle ∧
      ∀ g, r'.record? g =
        if g = h then some ((fresh k.display k.context k.draw k.read).taken k.draw k.read)
        else if g = k.handle then none
        else r.record? g := by
  have hadd := record?_add_reap hv k.display k.context k.draw k.read
  rw [← handle_add_reap hv k.display k.context k.draw k.read] at hadd
  have hnew := (hadd _).trans (if_pos rfl)
  have hissue := issue_of_unfound k.draw k.read (fun p hp =>
    hd.find?_reap hv (by rwa [← hof.display, ← hof.context])) hnew
  refine ⟨_, _, hd.makeCurrent_again hv hof (giveBack_gone hv hr) hissue, ?apart, ?records⟩
  case apart =>
    rw [handle_add_reap hv]
    intro he
    have hgeneration := congrArg Handle.generation he
    simp at hgeneration
  case records =>
    intro g
    split
    · next hg => rw [hg, record?_handOut_self hnew]
    · next hg => rw [record?_handOut_of_ne hg, hadd, if_neg hg]

end Registry

end RenderRelay
