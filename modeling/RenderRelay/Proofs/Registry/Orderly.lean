import RenderRelay.Proofs.Registry.Records

/-!
# Orderly registries

In an orderly registry each context has one record at most, an idle record has
its shadow and nothing noted on it, and an active one has handed its shadow
out. Every operation leaves the registry orderly, for it changes records one
by one or adds one for a context that had none.
-/

set_option autoImplicit false

namespace RenderRelay

structure ContextRecord.Tidy (c : ContextRecord) : Prop where
  shadow : c.shadow.isSome = !c.active
  idle : c.active = false → c.doom = {}

namespace Registry

structure Orderly (r : Registry) : Prop where
  sound : r.arena.Sound
  single : r.Single
  tidy : ∀ h c, r.record? h = some c → c.Tidy

theorem empty_orderly : ({} : Registry).Orderly where
  sound := Arena.empty_sound
  single _ _ _ _ hg := absurd hg (by simp)
  tidy _ _ hh := absurd hh (by simp)

/-! Changes record by record -/

structure Transforms (r r' : Registry)
    (each : Handle → ContextRecord → Option ContextRecord) : Prop where
  sound : r'.arena.Sound
  advances : r.arena.Advances r'.arena
  record? : ∀ h, r'.record? h = (r.record? h).bind (each h)

def Keeps (each : Handle → ContextRecord → Option ContextRecord) : Prop :=
  ∀ h c d, each h c = some d →
    d.display = c.display ∧ d.context = c.context ∧ (c.Tidy → d.Tidy)

variable {r r' : Registry} {each : Handle → ContextRecord → Option ContextRecord}

theorem Transforms.before (ht : r.Transforms r' each) {h : Handle} {d : ContextRecord}
    (hd : r'.record? h = some d) : ∃ c, r.record? h = some c ∧ each h c = some d := by
  rw [ht.record?] at hd
  exact Option.bind_eq_some_iff.mp hd

theorem Orderly.transform (hr : r.Orderly) (ht : r.Transforms r' each) (hk : Keeps each) :
    r'.Orderly := by
  constructor
  case sound => exact ht.sound
  case single =>
    intro g h c d hg hh hdis hcon
    obtain ⟨c', hg, hc⟩ := ht.before hg
    obtain ⟨d', hh, hd⟩ := ht.before hh
    obtain ⟨hc1, hc2, -⟩ := hk g c' c hc
    obtain ⟨hd1, hd2, -⟩ := hk h d' d hd
    exact hr.single g h c' d' hg hh (by rw [← hc1, ← hd1, hdis]) (by rw [← hc2, ← hd2, hcon])
  case tidy =>
    intro h d hd
    obtain ⟨c, hh, hc⟩ := ht.before hd
    exact (hk h c d hc).2.2 (hr.tidy h c hh)

theorem transforms_refl (hr : r.arena.Sound) : r.Transforms r fun _ c => some c where
  sound := hr
  advances := Arena.advances_refl _
  record? h := by cases r.record? h <;> rfl

theorem alter_transforms (hr : r.arena.Sound) (h : Handle) (f : ContextRecord → Option ContextRecord)
    (ha : r'.arena = r.arena.alter h f) :
    r.Transforms r' fun g c => if g = h then f c else some c := by
  constructor
  case sound =>
    rw [ha]
    exact Arena.alter_sound hr h f
  case advances =>
    rw [ha]
    exact Arena.alter_advances ..
  case record? =>
    intro g
    rw [Registry.record?, Registry.record?, ha, Arena.get?_alter]
    by_cases hg : g = h
    · simp only [hg, if_true]
    · simp only [if_neg hg]
      cases r.arena.get? g <;> rfl

theorem alterAll_transforms (hr : r.arena.Sound) (ha : r'.arena = r.arena.alterAll each) :
    r.Transforms r' each where
  sound := by
    rw [ha]
    exact Arena.alterAll_sound hr
  advances := by
    rw [ha]
    exact Arena.alterAll_advances hr
  record? h := by
    rw [Registry.record?, ha, Arena.get?_alterAll hr]
    rfl

/-! Letting go -/

def returning (current : Current) (h : Handle) (c : ContextRecord) : Option ContextRecord :=
  if h = current.handle then (c.returned current.shadow).outcome else some c

theorem release_transforms (hr : r.arena.Sound) (current : Current) :
    r.Transforms (r.release current) (returning current) :=
  alter_transforms hr current.handle (fun c => (c.returned current.shadow).outcome)
    (by rw [release_eq])

theorem returning_eq_some {current : Current} {h : Handle} {c d : ContextRecord}
    (hd : returning current h c = some d) :
    (h ≠ current.handle ∧ d = c) ∨
      (h = current.handle ∧ c.doom.reaps = false ∧ d = (c.returned current.shadow).settled) := by
  unfold returning at hd
  split at hd
  case isTrue hh =>
    rw [ContextRecord.returned_outcome] at hd
    split at hd
    case isTrue => cases hd
    case isFalse hr => exact .inr ⟨hh, Bool.eq_false_iff.mpr hr, (Option.some.inj hd).symm⟩
  case isFalse hh => exact .inl ⟨hh, (Option.some.inj hd).symm⟩

theorem returning_keeps (current : Current) : Keeps (returning current) := by
  intro h c d hd
  rcases returning_eq_some hd with ⟨-, rfl⟩ | ⟨-, hr, rfl⟩
  · exact ⟨rfl, rfl, id⟩
  · have hdoom := ContextRecord.doom_settled (c := c.returned current.shadow) hr
    exact ⟨rfl, rfl, fun _ => ⟨rfl, fun _ => hdoom⟩⟩

theorem Orderly.release (hr : r.Orderly) (current : Current) : (r.release current).Orderly :=
  hr.transform (release_transforms hr.sound current) (returning_keeps current)

theorem record?_release_of_ne {current : Current} {h : Handle} (hh : h ≠ current.handle) :
    (r.release current).record? h = r.record? h := by
  rw [release_eq, record?]
  dsimp only
  rw [Arena.get?_alter, if_neg hh]
  rfl

theorem Orderly.giveBack (hr : r.Orderly) (current : Option Current) :
    (r.giveBack current).Orderly := by
  cases current with
  | none => exact hr
  | some own => exact hr.release own

theorem giveBack_advances (hr : r.arena.Sound) (current : Option Current) :
    r.arena.Advances (r.giveBack current).arena := by
  cases current with
  | none => exact Arena.advances_refl _
  | some own => exact (release_transforms hr own).advances

/-! Handing out -/

def taking (h : Handle) (draw read : Surface) (g : Handle) (c : ContextRecord) :
    Option ContextRecord :=
  if g = h then some (c.taken draw read) else some c

theorem handOut_transforms (hr : r.arena.Sound) (h : Handle) (draw read : Surface) :
    r.Transforms (r.handOut h draw read) (taking h draw read) :=
  alter_transforms hr h (fun c => some (c.taken draw read)) rfl

theorem taking_keeps (h : Handle) (draw read : Surface) : Keeps (taking h draw read) := by
  intro g c d hd
  unfold taking at hd
  split at hd
  · cases hd
    exact ⟨rfl, rfl, fun _ => ⟨rfl, fun ha => Bool.noConfusion ha⟩⟩
  · cases hd
    exact ⟨rfl, rfl, id⟩

theorem Orderly.handOut (hr : r.Orderly) (h : Handle) (draw read : Surface) :
    (r.handOut h draw read).Orderly :=
  hr.transform (handOut_transforms hr.sound h draw read) (taking_keeps h draw read)

theorem Orderly.add (hr : r.Orderly) {display : Display} {context : Context}
    (hn : ∀ h c, r.record? h = some c → ¬ (c.display = display ∧ c.context = context))
    (draw read : Surface)
    (hl : (r.add display context draw read).2.arena.slots.length < UInt32.size) :
    (r.add display context draw read).2.Orderly := by
  have hback : ∀ h d, (r.add display context draw read).2.record? h = some d →
      (h = (r.add display context draw read).1 ∧ d = fresh display context draw read) ∨
        r.record? h = some d := by
    intro h d hd
    rw [record?_add hr.sound] at hd
    by_cases hh : h = (r.add display context draw read).1
    · rw [if_pos hh] at hd
      exact .inl ⟨hh, (Option.some.inj hd).symm⟩
    · rw [if_neg hh] at hd
      exact .inr hd
  constructor
  case sound => exact Arena.insert_sound hr.sound _ hl
  case single =>
    intro g h c d hg hh hdis hcon
    rcases hback g c hg with ⟨rfl, rfl⟩ | hg
    · rcases hback h d hh with ⟨rfl, rfl⟩ | hh
      · rfl
      · exact absurd ⟨hdis.symm, hcon.symm⟩ (hn h d hh)
    · rcases hback h d hh with ⟨rfl, rfl⟩ | hh
      · exact absurd ⟨hdis, hcon⟩ (hn g c hg)
      · exact hr.single g h c d hg hh hdis hcon
  case tidy =>
    intro h d hd
    rcases hback h d hd with ⟨-, rfl⟩ | hd
    · exact ⟨rfl, fun _ => rfl⟩
    · exact hr.tidy h d hd

/-! Making current -/

/-- The record is idle and is handed out, or active and stays where it is, or
there was none and a fresh one is handed out. -/
theorem Orderly.findOrCreate_cases (hr : r.Orderly) (display : Display) (draw read : Surface)
    (context : Context) :
    (∃ h c shadow, r.record? h = some c ∧ c.display = display ∧ c.context = context ∧
      c.active = false ∧ c.shadow = some shadow ∧ r.findOrCreate display draw read context =
        (.ok ⟨h, c.display, c.context, draw, read, shadow⟩, r.handOut h draw read)) ∨
    (∃ h c, r.record? h = some c ∧ c.display = display ∧ c.context = context ∧
      c.active = true ∧ r.findOrCreate display draw read context =
        (.error (.contextBusy display context), r)) ∨
    ((∀ h c, r.record? h = some c → ¬ (c.display = display ∧ c.context = context)) ∧
      r.findOrCreate display draw read context =
        (.ok ⟨(r.add display context draw read).1, display, context, draw, read, .fresh⟩,
          (r.add display context draw read).2.handOut (r.add display context draw read).1
            draw read)) := by
  by_cases hex : ∃ h c, r.record? h = some c ∧ c.display = display ∧ c.context = context
  · obtain ⟨h, c, hv, rfl, rfl⟩ := hex
    have hfound := findOrCreate_of_record hr.sound hr.single hv draw read
    cases ha : c.active with
    | true =>
      rw [activate_of_active hv ha] at hfound
      exact .inr (.inl ⟨h, c, hv, rfl, rfl, ha, hfound⟩)
    | false =>
      have hs := (hr.tidy h c hv).shadow
      rw [ha] at hs
      obtain ⟨shadow, hs⟩ := Option.isSome_iff_exists.mp hs
      rw [activate_of_idle hv ha hs] at hfound
      exact .inl ⟨h, c, shadow, hv, rfl, rfl, ha, hs, hfound⟩
  · have hn : ∀ h c, r.record? h = some c → ¬ (c.display = display ∧ c.context = context) :=
      fun h c hv he => hex ⟨h, c, hv, he⟩
    have hv := record?_add_self hr.sound display context draw read
    refine .inr (.inr ⟨hn, ?_⟩)
    rw [findOrCreate_of_none hr.sound hn, activate_of_idle hv rfl rfl]
    rfl

/-- The record that is found at a handle is not one that comes new. -/
theorem record?_add_of_some (hr : r.arena.Sound) {h : Handle} {c : ContextRecord}
    (hv : r.record? h = some c) (display : Display) (context : Context) (draw read : Surface) :
    h ≠ (r.add display context draw read).1 ∧
      (r.add display context draw read).2.record? h = some c := by
  have hne : h ≠ (r.add display context draw read).1 := by
    intro he
    refine Arena.not_issued_insert hr (fresh display context draw read) (.inl ?_)
    have hs : (r.arena.get? h).isSome := Option.isSome_iff_exists.mpr ⟨c, hv⟩
    rw [he] at hs
    exact hs
  refine ⟨hne, ?_⟩
  rw [record?_add hr, if_neg hne, hv]

/-- Asking for a context changes its record if that is idle, and no other. -/
theorem Orderly.record?_findOrCreate (hr : r.Orderly) {h : Handle} {c : ContextRecord}
    (hv : r.record? h = some c) (display : Display) (draw read : Surface) (context : Context) :
    (r.findOrCreate display draw read context).2.record? h =
      if c.active = false ∧ c.display = display ∧ c.context = context then
        some (c.taken draw read)
      else some c := by
  rcases hr.findOrCreate_cases display draw read context with
    ⟨g, d, shadow, hg, hdis, hcon, ha, -, he⟩ | ⟨g, d, hg, hdis, hcon, ha, he⟩ | ⟨hn, he⟩
  · rw [he]
    by_cases hh : h = g
    · subst hh
      rw [hv] at hg
      cases hg
      rw [if_pos ⟨ha, hdis, hcon⟩, (handOut_transforms hr.sound h draw read).record?, hv]
      exact if_pos rfl
    · rw [if_neg, record?_handOut_of_ne hh, hv]
      rintro ⟨-, hdis', hcon'⟩
      exact hh (hr.single h g c d hv hg (hdis'.trans hdis.symm) (hcon'.trans hcon.symm))
  · rw [he, if_neg, hv]
    rintro ⟨hc, hdis', hcon'⟩
    have hh := hr.single h g c d hv hg (hdis'.trans hdis.symm) (hcon'.trans hcon.symm)
    subst hh
    rw [hv] at hg
    cases hg
    rw [ha] at hc
    cases hc
  · obtain ⟨hne, hadd⟩ := record?_add_of_some hr.sound hv display context draw read
    rw [he, if_neg fun hcond => hn h c hv hcond.2]
    dsimp only
    rw [record?_handOut_of_ne hne, hadd]

theorem Orderly.record?_findOrCreate_none (hr : r.Orderly) {h : Handle}
    (hv : r.record? h = none) (hg : r.arena.generationAt h.index ≠ h.generation)
    (display : Display) (draw read : Surface) (context : Context) :
    (r.findOrCreate display draw read context).2.record? h = none := by
  rcases hr.findOrCreate_cases display draw read context with
    ⟨g, d, shadow, hd, -, -, -, -, he⟩ | ⟨g, d, -, -, -, -, he⟩ | ⟨-, he⟩
  · have hne : h ≠ g := by
      intro e
      rw [← e, hv] at hd
      cases hd
    rw [he]
    dsimp only
    rw [record?_handOut_of_ne hne, hv]
  · rw [he]
    exact hv
  · have hne : h ≠ (r.add display context draw read).1 := by
      intro e
      apply hg
      rw [e]
      exact (Arena.generation_insert hr.sound _).symm
    rw [he]
    dsimp only
    rw [record?_handOut_of_ne hne, record?_add hr.sound, if_neg hne, hv]

theorem Orderly.findOrCreate_advances (hr : r.Orderly) (display : Display) (draw read : Surface)
    (context : Context) :
    r.arena.Advances (r.findOrCreate display draw read context).2.arena ∧
      ∀ i, (r.findOrCreate display draw read context).2.arena.generationAt i =
        r.arena.generationAt i := by
  rcases hr.findOrCreate_cases display draw read context with
    ⟨h, c, shadow, -, -, -, -, -, he⟩ | ⟨h, c, -, -, -, -, he⟩ | ⟨-, he⟩
  · rw [he]
    exact ⟨(handOut_transforms hr.sound ..).advances, generationAt_handOut r h draw read⟩
  · rw [he]
    exact ⟨Arena.advances_refl _, fun _ => rfl⟩
  · have hgen : ∀ i, (r.add display context draw read).2.arena.generationAt i =
        r.arena.generationAt i := Arena.generationAt_insert hr.sound _
    have hadd : r.arena.Advances (r.add display context draw read).2.arena :=
      Arena.insert_advances hr.sound _
    have hout : (r.add display context draw read).2.arena.Advances
        ((r.add display context draw read).2.handOut (r.add display context draw read).1
          draw read).arena := by
      rw [arena_handOut]
      exact Arena.alter_advances ..
    rw [he]
    refine ⟨hadd.trans hout (generationAt_handOut _ _ draw read), ?_⟩
    intro i
    rw [generationAt_handOut, hgen]

/-- A match on the surfaces as well finds the record of the context. -/
theorem Orderly.activate_of_matchExisting (hr : r.Orderly) {display : Display}
    {draw read : Surface} {context : Context} {h : Handle}
    (hm : r.matchExisting display draw read context = some h) :
    r.activate h draw read = r.findOrCreate display draw read context := by
  obtain ⟨⟨g, c⟩, hf, rfl⟩ := Option.map_eq_some_iff.mp hm
  obtain ⟨hv, hp⟩ := Arena.get?_of_find? hr.sound hf
  simp only [Bool.and_eq_true, decide_eq_true_eq] at hp
  obtain ⟨⟨⟨⟨⟨rfl, rfl⟩, -⟩, -⟩, -⟩, -⟩ := hp
  exact (findOrCreate_of_record hr.sound hr.single hv draw read).symm

/-- Making current is giving back and asking for the record of the context,
unless it is refused. -/
theorem Orderly.makeCurrent_eq (hr : r.Orderly) (display : Display) (draw read : Surface)
    (context : Context) (current : Option Current) :
    r.makeCurrent display draw read context current =
      if display = .none ∨ context = .none then (.ok (), r.giveBack current, none)
      else if r.busyElsewhere display context (current.map Current.handle) then
        (.error (.contextBusy display context), r, current)
      else
        (((r.giveBack current).findOrCreate display draw read context).1.map fun _ => (),
          ((r.giveBack current).findOrCreate display draw read context).2,
          ((r.giveBack current).findOrCreate display draw read context).1.toOption) := by
  unfold makeCurrent
  dsimp only
  split
  · rfl
  · split
    · rfl
    · cases hm : (r.giveBack current).matchExisting display draw read context with
      | none =>
        rcases (r.giveBack current).findOrCreate display draw read context with
          ⟨e | next, r'⟩ <;> rfl
      | some h =>
        dsimp only
        rw [(hr.giveBack current).activate_of_matchExisting hm]
        rcases (r.giveBack current).findOrCreate display draw read context with
          ⟨e | next, r'⟩ <;> rfl

/-- A context is refused just when it is active and not one's own. -/
theorem Orderly.busyElsewhere_iff (hr : r.Orderly) {display : Display} {context : Context}
    {own : Option Handle} :
    r.busyElsewhere display context own = true ↔
      ∃ h c, r.record? h = some c ∧ c.display = display ∧ c.context = context ∧
        c.active = true ∧ some h ≠ own := by
  unfold busyElsewhere
  cases hf : r.arena.find? fun d => d.display = display && d.context = context && d.active with
  | none =>
    have hn := (Arena.find?_eq_none_iff hr.sound).mp hf
    constructor
    · intro hb
      cases hb
    · rintro ⟨h, c, hv, hdis, hcon, ha, -⟩
      have hc := hn h c hv
      simp [hdis, hcon, ha] at hc
  | some found =>
    obtain ⟨g, d⟩ := found
    obtain ⟨hg, hp⟩ := Arena.get?_of_find? hr.sound hf
    simp only [Bool.and_eq_true, decide_eq_true_eq] at hp
    obtain ⟨⟨hdis, hcon⟩, ha⟩ := hp
    constructor
    · intro hb
      exact ⟨g, d, hg, hdis, hcon, ha, by simpa using hb⟩
    · rintro ⟨h, c, hv, hdis', hcon', -, hne⟩
      have hgh : g = h := hr.single g h d c hg hv (hdis.trans hdis'.symm) (hcon.trans hcon'.symm)
      simpa [hgh] using hne

/-! Destruction -/

/-- Destruction takes nothing from a record but itself, its surfaces and notes. -/
theorem destroyed_same {doomed : Handle → ContextRecord → Option Doom} {h : Handle}
    {c d : ContextRecord} (hd : destroyed doomed h c = some d) :
    d.display = c.display ∧ d.context = c.context ∧ d.active = c.active ∧ d.shadow = c.shadow := by
  cases ha : c.active with
  | true =>
    rw [destroyed_of_active ha] at hd
    cases hd
    exact ⟨rfl, rfl, ha, rfl⟩
  | false =>
    rw [destroyed_of_idle ha] at hd
    split at hd
    · cases hd
      exact ⟨rfl, rfl, ha, rfl⟩
    · split at hd
      · cases hd
      · cases hd
        exact ⟨rfl, rfl, ha, rfl⟩

theorem destroyed_keeps (doomed : Handle → ContextRecord → Option Doom) :
    Keeps (destroyed doomed) := by
  intro h c d hd
  obtain ⟨hdis, hcon, hac, hsh⟩ := destroyed_same hd
  refine ⟨hdis, hcon, fun hc => ⟨by rw [hac, hsh]; exact hc.shadow, ?_⟩⟩
  intro ha
  rw [hac] at ha
  have hidle := hc.idle ha
  rw [destroyed_of_idle ha] at hd
  split at hd
  · cases hd
    exact hidle
  · split at hd
    case isTrue => cases hd
    case isFalse hr =>
      cases hd
      exact ContextRecord.doom_settled (Bool.eq_false_iff.mpr hr)

theorem mark_transforms (hr : r.arena.Sound) (doomed : Handle → ContextRecord → Option Doom) :
    r.Transforms (r.mark doomed).2 (destroyed doomed) :=
  alterAll_transforms hr (by rw [mark_eq])

theorem teardown_transforms (hr : r.arena.Sound) :
    r.Transforms r.teardown.2 fun _ _ => none :=
  alterAll_transforms hr (by rw [teardown_eq])

theorem initDisplay_transforms (hr : r.arena.Sound) (display : Display) :
    r.Transforms (r.initDisplay display) fun _ c => some (revived display c) where
  sound := by
    rw [initDisplay_eq]
    exact Arena.map_sound hr _
  advances := by
    rw [initDisplay_eq]
    exact Arena.map_advances _
  record? h := by
    rw [initDisplay_eq]
    exact (Arena.get?_map r.arena (revived display) h).trans (Option.map_eq_bind ..)

theorem revived_keeps (display : Display) : Keeps fun _ c => some (revived display c) := by
  intro h c d hd
  cases hd
  refine ⟨rfl, rfl, fun hc => ⟨hc.shadow, ?_⟩⟩
  intro ha
  rw [revived, hc.idle ha, ite_self]

/-! No slot is given up -/

theorem length_slots_handOut (r : Registry) (h : Handle) (draw read : Surface) :
    (r.handOut h draw read).arena.slots.length = r.arena.slots.length :=
  Arena.length_slots_alter

theorem length_slots_giveBack (r : Registry) (current : Option Current) :
    (r.giveBack current).arena.slots.length = r.arena.slots.length := by
  cases current with
  | none => rfl
  | some own =>
    rw [giveBack, release_eq]
    exact Arena.length_slots_alter

theorem length_slots_activate (r : Registry) (h : Handle) (draw read : Surface) :
    (r.activate h draw read).2.arena.slots.length = r.arena.slots.length := by
  cases hv : r.record? h with
  | none => rw [activate, hv]
  | some c =>
    cases ha : c.active with
    | true => rw [activate_of_active hv ha]
    | false =>
      cases hs : c.shadow with
      | none =>
        rw [activate, hv]
        simp only [ha, hs]
      | some shadow =>
        rw [activate_of_idle hv ha hs]
        exact length_slots_handOut ..

theorem length_slots_findOrCreate (r : Registry) (display : Display) (draw read : Surface)
    (context : Context) :
    r.arena.slots.length ≤ (r.findOrCreate display draw read context).2.arena.slots.length := by
  unfold findOrCreate
  split
  · exact Nat.le_of_eq (length_slots_activate ..).symm
  · dsimp only
    rw [length_slots_activate]
    exact Arena.length_slots_insert ..

theorem length_slots_makeCurrent (r : Registry) (display : Display) (draw read : Surface)
    (context : Context) (current : Option Current) :
    r.arena.slots.length ≤
      (r.makeCurrent display draw read context current).2.1.arena.slots.length := by
  have hgive := length_slots_giveBack r current
  unfold makeCurrent
  dsimp only
  split
  · exact Nat.le_of_eq hgive.symm
  · split
    · exact Nat.le_refl _
    · cases (r.giveBack current).matchExisting display draw read context with
      | none =>
        have hlen := length_slots_findOrCreate (r.giveBack current) display draw read context
        rw [hgive] at hlen
        dsimp only
        generalize (r.giveBack current).findOrCreate display draw read context = found at hlen ⊢
        obtain ⟨e | next, r'⟩ := found <;> exact hlen
      | some h =>
        have hlen := (length_slots_activate (r.giveBack current) h draw read).trans hgive
        dsimp only
        generalize (r.giveBack current).activate h draw read = found at hlen ⊢
        obtain ⟨e | next, r'⟩ := found <;> exact Nat.le_of_eq hlen.symm

theorem length_slots_mark (r : Registry) (doomed : Handle → ContextRecord → Option Doom) :
    (r.mark doomed).2.arena.slots.length = r.arena.slots.length := by
  rw [mark_eq]
  exact Arena.length_slots_alterEach

theorem length_slots_teardown (r : Registry) :
    r.teardown.2.arena.slots.length = r.arena.slots.length := by
  rw [teardown_eq]
  exact Arena.length_slots_alterEach

theorem length_slots_initDisplay (r : Registry) (display : Display) :
    (r.initDisplay display).arena.slots.length = r.arena.slots.length := by
  rw [initDisplay_eq]
  exact Arena.length_slots_map _

end Registry

end RenderRelay
