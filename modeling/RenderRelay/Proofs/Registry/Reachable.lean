import Mathlib.Data.List.Induction
import RenderRelay.Proofs.Registry.Coherence

/-!
# What a run of acts keeps

Each act is put together from the changes that keep the registry and what is
out coherent, so they are coherent after any run. How often each slot was
emptied gives its generation, as long as that is less than the generations
there are.
-/

set_option autoImplicit false

namespace RenderRelay.Tenancy

open Function (update)

variable {r : Registry} {held : Holder → Option Holding} {s : Tenancy}

/-! Parts of an act -/

theorem currentOf_eq_some_iff {w : Nat} {current : Current} :
    s.currentOf w = some current ↔ ∃ x, s.held (.worker w) = some x ∧ x.current = current :=
  Option.map_eq_some_iff

/-- A holder that has none gets the record of a context that is not active. -/
theorem Coherent.issue (hc : Coherent r held) {k : Holder} (hk : held k = none)
    {display : Display} {context : Context}
    (hfree : ∀ h c, r.record? h = some c → c.display = display → c.context = context →
      c.active = false) (draw read : Surface)
    (hl : (r.findOrCreate display draw read context).2.arena.slots.length < UInt32.size) :
    ∃ current, (r.findOrCreate display draw read context).1 = .ok current ∧
      Coherent (r.findOrCreate display draw read context).2
        (update held k (some { current })) := by
  rcases hc.orderly.findOrCreate_cases display draw read context with
    ⟨h, c, shadow, hv, -, -, ha, -, he⟩ | ⟨h, c, hv, hdis, hcon, ha, -⟩ | ⟨hn, he⟩
  · rw [he]
    exact ⟨_, rfl, hc.handOut hk hv ha draw read shadow⟩
  · rw [hfree h c hv hdis hcon] at ha
    cases ha
  · rw [he] at hl ⊢
    rw [Registry.length_slots_handOut] at hl
    have hadd := hc.add hn draw read hl
    have hv := Registry.record?_add_self hc.orderly.sound display context draw read
    exact ⟨_, rfl, hadd.handOut hk hv rfl draw read .fresh⟩

/-- What is active and not one's own is refused; so what is not refused is idle
once one's own was given back. -/
theorem idle_of_not_busy (hr : r.Orderly) {display : Display} {context : Context}
    {current : Option Current}
    (hb : r.busyElsewhere display context (current.map Current.handle) = false) :
    ∀ h c, (r.giveBack current).record? h = some c → c.display = display →
      c.context = context → c.active = false := by
  intro h c hv hdis hcon
  apply Bool.eq_false_iff.mpr
  intro ha
  have hown : r.record? h = some c ∧ some h ≠ current.map Current.handle := by
    cases current with
    | none => exact ⟨hv, by simp⟩
    | some own =>
      obtain ⟨d, hd, hcd⟩ := (Registry.release_transforms hr.sound own).before hv
      rcases Registry.returning_eq_some hcd with ⟨hne, rfl⟩ | ⟨-, -, rfl⟩
      · exact ⟨hd, fun e => hne (Option.some.inj e)⟩
      · cases ha
  have hbusy := hr.busyElsewhere_iff.mpr ⟨h, c, hown.1, hdis, hcon, ha, hown.2⟩
  rw [hb] at hbusy
  cases hbusy

theorem Coherent.giveBack (hc : Coherent s.registry held) {w : Nat}
    (hcur : s.currentOf w = (held (.worker w)).map Holding.current)
    (hage : s.registry.arena.Ages (s.registry.giveBack (s.currentOf w)).arena) :
    Coherent (s.registry.giveBack (s.currentOf w)) (update held (.worker w) none) := by
  rw [hcur] at hage ⊢
  cases hk : held (.worker w) with
  | none =>
    have hu : update held (.worker w) none = held := by rw [← hk, Function.update_eq_self]
    rw [hu]
    exact hc
  | some x =>
    rw [hk] at hage
    exact hc.letGo hk hage

/-- The caller's own record is the one the caller holds, whatever else is out. -/
theorem Coherent.own_iff (hc : Coherent s.registry s.held) {k : Holder} {x : Holding}
    (hk : s.held k = some x) (caller : Option Nat) :
    (caller.bind s.currentOf).map Current.handle = some x.current.handle ↔
      caller.map Holder.worker = some k := by
  cases caller with
  | none => simp
  | some w =>
    constructor
    · intro he
      obtain ⟨current, hcur, hh⟩ := Option.map_eq_some_iff.mp he
      obtain ⟨y, hy, rfl⟩ := currentOf_eq_some_iff.mp hcur
      exact congrArg some (hc.apart _ _ y x hy hk hh)
    · intro he
      cases he
      have hcur : s.currentOf w = some x.current := currentOf_eq_some_iff.mpr ⟨x, hk, rfl⟩
      rw [Option.bind_some, hcur]
      rfl

/-! One act -/

theorem witnessed_refused (s : Tenancy) (a : Act) (w : Nat) :
    update (witnessed a s.held) (.worker w) ((witnessed a s.held (.worker w)).bind fun x =>
      (s.currentOf w).map fun current => { x with current }) = witnessed a s.held := by
  apply Function.update_eq_self_iff.mpr
  unfold witnessed currentOf
  cases s.held (.worker w) <;> rfl

/-- What comes of making a context current: nothing but the giving back, a
refusal, or what comes of asking for its record then. -/
theorem outcome_makeCurrent (hr : s.registry.Orderly) (w : Nat) (display : Display)
    (draw read : Surface) (context : Context) :
    ((display = .none ∨ context = .none) ∧
      s.outcome (.makeCurrent w display draw read context) =
        (s.registry.giveBack (s.currentOf w),
          update (witnessed (.makeCurrent w display draw read context) s.held) (.worker w) none)) ∨
    (¬ (display = .none ∨ context = .none) ∧
      s.registry.busyElsewhere display context ((s.currentOf w).map Current.handle) = true ∧
      s.outcome (.makeCurrent w display draw read context) =
        (s.registry, witnessed (.makeCurrent w display draw read context) s.held)) ∨
    (¬ (display = .none ∨ context = .none) ∧
      s.registry.busyElsewhere display context ((s.currentOf w).map Current.handle) = false ∧
      s.outcome (.makeCurrent w display draw read context) =
        (((s.registry.giveBack (s.currentOf w)).findOrCreate display draw read context).2,
          update (witnessed (.makeCurrent w display draw read context) s.held) (.worker w)
            (((s.registry.giveBack (s.currentOf w)).findOrCreate display draw read
              context).1.toOption.map fun current => { current }))) := by
  have he := hr.makeCurrent_eq display draw read context (s.currentOf w)
  unfold outcome
  dsimp only
  rw [he]
  by_cases hnone : display = .none ∨ context = .none
  · rw [if_pos hnone]
    exact .inl ⟨hnone, rfl⟩
  · rw [if_neg hnone]
    cases hb : s.registry.busyElsewhere display context ((s.currentOf w).map Current.handle) with
    | true =>
      refine .inr (.inl ⟨hnone, rfl, ?_⟩)
      rw [if_pos rfl]
      dsimp only
      rw [witnessed_refused]
    | false =>
      refine .inr (.inr ⟨hnone, rfl, ?_⟩)
      rw [if_neg Bool.false_ne_true]
      rcases (s.registry.giveBack (s.currentOf w)).findOrCreate display draw read context with
        ⟨e | current, r⟩
      · cases witnessed (.makeCurrent w display draw read context) s.held (.worker w) <;> rfl
      · rfl

theorem outcome_findOrCreate_of_none {w : Nat} (hw : s.held (.worker w) = none)
    (display : Display) (draw read : Surface) (context : Context) :
    s.outcome (.findOrCreate w display draw read context) =
      ((s.registry.findOrCreate display draw read context).2,
        update (witnessed (.findOrCreate w display draw read context) s.held) (.worker w)
          ((s.registry.findOrCreate display draw read context).1.toOption.map
            fun current => { current })) := by
  have hcur : s.currentOf w = none := by rw [currentOf, hw]; rfl
  unfold outcome
  dsimp only
  rw [hcur]
  rcases s.registry.findOrCreate display draw read context with ⟨e | current, r⟩
  · have hu : update (witnessed (.findOrCreate w display draw read context) s.held) (.worker w)
        none = witnessed (.findOrCreate w display draw read context) s.held := by
      apply Function.update_eq_self_iff.mpr
      rw [witnessed, hw]
      rfl
    exact congrArg (Prod.mk r) hu.symm
  · rfl

theorem outcome_findOrCreate_of_some {w : Nat} {x : Holding} (hw : s.held (.worker w) = some x)
    (display : Display) (draw read : Surface) (context : Context) :
    s.outcome (.findOrCreate w display draw read context) =
      (s.registry, witnessed (.findOrCreate w display draw read context) s.held) := by
  have hcur : s.currentOf w = some x.current := currentOf_eq_some_iff.mpr ⟨x, hw, rfl⟩
  unfold outcome
  dsimp only
  rw [hcur]

theorem outcome_advances (hr : s.registry.Orderly) (a : Act) :
    s.registry.arena.Advances (s.outcome a).1.arena := by
  cases a with
  | makeCurrent w display draw read context =>
    have hgive := Registry.giveBack_advances hr.sound (s.currentOf w)
    rcases outcome_makeCurrent hr w display draw read context with
      ⟨-, he⟩ | ⟨-, -, he⟩ | ⟨-, -, he⟩
    · rw [he]
      exact hgive
    · rw [he]
      exact Arena.advances_refl _
    · obtain ⟨hadv, hgen⟩ :=
        (hr.giveBack (s.currentOf w)).findOrCreate_advances display draw read context
      rw [he]
      exact hgive.trans hadv hgen
  | findOrCreate w display draw read context =>
    cases hw : s.held (.worker w) with
    | none =>
      rw [outcome_findOrCreate_of_none hw]
      exact (hr.findOrCreate_advances display draw read context).1
    | some x =>
      rw [outcome_findOrCreate_of_some hw]
      exact Arena.advances_refl _
  | release w => exact Registry.giveBack_advances hr.sound _
  | drop w => exact Arena.advances_refl _
  | use w shadow => exact Arena.advances_refl _
  | initDisplay display => exact (Registry.initDisplay_transforms hr.sound display).advances
  | terminateDisplay caller display => exact (Registry.mark_transforms hr.sound _).advances
  | destroyContext display context => exact (Registry.mark_transforms hr.sound _).advances
  | destroySurface display surface => exact (Registry.mark_transforms hr.sound _).advances
  | teardown => exact (Registry.teardown_transforms hr.sound).advances

/-! What is noted is what the deeds say -/

theorem doom_terminated {k : Holder} {x : Holding} {c : ContextRecord} (ha : Agrees x c)
    {caller : Option Nat} {display : Display} {own : Option Handle}
    (hown : own = some x.current.handle ↔ caller.map Holder.worker = some k) :
    c.doom.union ((if c.display = display ∧ (c.active = false ∨ own = some x.current.handle) then
        some ({ display := true } : Doom) else none).getD {}) =
      doomOf x.current ((Act.terminateDisplay caller display).deedFor k :: x.since) := by
  have hstep : doomOf x.current ((Act.terminateDisplay caller display).deedFor k :: x.since) =
      if x.current.display = display ∧ decide (caller.map Holder.worker = some k) = true then
        { doomOf x.current x.since with display := true }
      else doomOf x.current x.since := rfl
  rw [hstep, ← ha.doom, ha.display, ha.active]
  by_cases hcond : c.display = display ∧ own = some x.current.handle
  · rw [if_pos ⟨hcond.1, .inr hcond.2⟩, if_pos ⟨hcond.1, decide_eq_true (hown.mp hcond.2)⟩]
    simp [Doom.union]
  · have hn : ¬ (c.display = display ∧ (true = false ∨ own = some x.current.handle)) := by
      rintro ⟨hd, hf | ho⟩
      · cases hf
      · exact hcond ⟨hd, ho⟩
    rw [if_neg hn, if_neg fun h => hcond ⟨h.1, hown.mpr (of_decide_eq_true h.2)⟩]
    simp [Doom.union]

theorem doom_contextDestroyed {x : Holding} {c : ContextRecord} (ha : Agrees x c)
    (display : Display) (context : Context) (k : Holder) :
    c.doom.union ((if c.display = display ∧ c.context = context then
        some ({ context := true } : Doom) else none).getD {}) =
      doomOf x.current ((Act.destroyContext display context).deedFor k :: x.since) := by
  have hstep : doomOf x.current ((Act.destroyContext display context).deedFor k :: x.since) =
      if x.current.display = display ∧ x.current.context = context then
        { doomOf x.current x.since with context := true }
      else doomOf x.current x.since := rfl
  rw [hstep, ← ha.doom, ha.display, ha.context]
  split <;> simp [Doom.union]

theorem doom_surfaceDestroyed {x : Holding} {c : ContextRecord} (ha : Agrees x c)
    (display : Display) (surface : Surface) (k : Holder) :
    c.doom.union ((if c.display = display ∧ (c.draw = surface ∨ c.read = surface) then
        some ({ draw := c.draw = surface, read := c.read = surface } : Doom) else none).getD {}) =
      doomOf x.current ((Act.destroySurface display surface).deedFor k :: x.since) := by
  have hstep : doomOf x.current ((Act.destroySurface display surface).deedFor k :: x.since) =
      if x.current.display = display then
        { doomOf x.current x.since with
          draw := (doomOf x.current x.since).draw || x.current.draw = surface
          read := (doomOf x.current x.since).read || x.current.read = surface }
      else doomOf x.current x.since := rfl
  rw [hstep, ← ha.doom, ha.display, ha.draw, ha.read]
  by_cases hd : c.display = display
  · by_cases hs : c.draw = surface ∨ c.read = surface
    · rw [if_pos hd, if_pos ⟨hd, hs⟩]
      simp [Doom.union]
    · obtain ⟨hdraw, hread⟩ := not_or.mp hs
      rw [if_pos hd, if_neg fun h => hs h.2]
      simp [Doom.union, hdraw, hread]
  · rw [if_neg hd, if_neg fun h => hd h.1]
    simp [Doom.union]

/-- Every act keeps the registry and what is out coherent. -/
theorem outcome_coherent (hc : Coherent s.registry s.held) (hlost : s.held (.lost s.acts) = none)
    (a : Act) (hl : (s.outcome a).1.arena.slots.length < UInt32.size)
    (hage : s.registry.arena.Ages (s.outcome a).1.arena) :
    Coherent (s.outcome a).1 (s.outcome a).2 := by
  have hcur : ∀ w, s.currentOf w = (witnessed a s.held (.worker w)).map Holding.current := by
    intro w
    unfold witnessed currentOf
    cases s.held (.worker w) <;> rfl
  cases a with
  | makeCurrent w display draw read context =>
    have hw := hc.witness (a := .makeCurrent w display draw read context) fun _ _ _ => rfl
    rcases outcome_makeCurrent hc.orderly w display draw read context with
      ⟨-, he⟩ | ⟨-, -, he⟩ | ⟨-, hb, he⟩
    · rw [he] at hage ⊢
      exact hw.giveBack (hcur w) hage
    · rw [he]
      exact hw
    · rw [he] at hl hage ⊢
      have hgen := ((hc.orderly.giveBack (s.currentOf w)).findOrCreate_advances display draw read
        context).2
      have hgive := hw.giveBack (hcur w) fun i => by rw [← hgen]; exact hage i
      obtain ⟨current, hok, hissue⟩ := hgive.issue (Function.update_self ..)
        (idle_of_not_busy hc.orderly hb) draw read hl
      rw [hok]
      rw [Function.update_idem] at hissue
      exact hissue
  | findOrCreate w display draw read context =>
    have hw := hc.witness (a := .findOrCreate w display draw read context) fun _ _ _ => rfl
    cases hk : s.held (.worker w) with
    | some x =>
      rw [outcome_findOrCreate_of_some hk]
      exact hw
    | none =>
      have hkw : witnessed (.findOrCreate w display draw read context) s.held (.worker w) =
          none := by
        rw [witnessed, hk]
        rfl
      rw [outcome_findOrCreate_of_none hk] at hl hage ⊢
      rcases hc.orderly.findOrCreate_cases display draw read context with
        ⟨h, c, shadow, hv, -, -, ha, -, he⟩ | ⟨h, c, -, -, -, -, he⟩ | ⟨hn, -⟩
      · rw [he]
        exact hw.handOut hkw hv ha draw read shadow
      · have hu : update (witnessed (.findOrCreate w display draw read context) s.held)
            (.worker w) none = witnessed (.findOrCreate w display draw read context) s.held :=
          Function.update_eq_self_iff.mpr hkw.symm
        rw [he]
        show Coherent s.registry (update _ (.worker w) none)
        rw [hu]
        exact hw
      · obtain ⟨current, hok, hissue⟩ := hw.issue hkw
          (fun h c hv hdis hcon => absurd ⟨hdis, hcon⟩ (hn h c hv)) draw read hl
        rw [hok]
        exact hissue
  | release w =>
    have hw := hc.witness (a := .release w) fun _ _ _ => rfl
    exact hw.giveBack (hcur w) hage
  | drop w =>
    have hw := hc.witness (a := .drop w) fun _ _ _ => rfl
    have hfree : witnessed (.drop w) s.held (.lost s.acts) = none := by
      rw [witnessed, hlost]
      rfl
    exact hw.drop hfree
  | use w shadow =>
    have hw := hc.witness (a := .use w shadow) fun _ _ _ => rfl
    exact hw.use w shadow
  | initDisplay display => exact hc.initDisplay display hage
  | terminateDisplay caller display =>
    refine hc.mark hage ?_
    intro k x c hk ha
    exact doom_terminated ha (hc.own_iff hk caller)
  | destroyContext display context =>
    refine hc.mark hage ?_
    intro k x c _ ha
    exact doom_contextDestroyed ha display context k
  | destroySurface display surface =>
    refine hc.mark hage ?_
    intro k x c _ ha
    exact doom_surfaceDestroyed ha display surface k
  | teardown => exact hc.teardown hage

/-! A run of acts -/

structure Kept (s : Tenancy) : Prop where
  coherent : Coherent s.registry s.held
  aged : ∀ i, s.registry.arena.generationAt i = UInt32.ofNat (s.reaped i)
  lost : ∀ n, s.acts ≤ n → s.held (.lost n) = none

theorem start_kept : Kept {} where
  coherent := start_coherent
  aged _ := rfl
  lost _ _ := rfl

theorem perform_aged (hs : s.Kept) (a : Act) (i : UInt32) :
    (s.perform a).registry.arena.generationAt i = UInt32.ofNat ((s.perform a).reaped i) := by
  have haged := hs.aged i
  show (s.outcome a).1.arena.generationAt i = UInt32.ofNat (s.reaped i + ite ..)
  rcases (outcome_advances hs.coherent.orderly a).moves i with hsame | hnext
  · rw [if_pos hsame, hsame]
    exact haged
  · have hne : (s.outcome a).1.arena.generationAt i ≠ s.registry.arena.generationAt i := by
      rw [hnext]
      simp
    rw [if_neg hne, hnext, haged, UInt32.ofNat_add]
    rfl

theorem perform_ages (hs : s.Kept) (a : Act) (hb : (s.perform a).Bounded) :
    s.registry.arena.Ages (s.perform a).registry.arena := by
  intro i
  have hle : s.reaped i ≤ (s.perform a).reaped i := Nat.le_add_right ..
  have hlt := hb.reaped i
  rw [hs.aged, perform_aged hs, UInt32.toNat_ofNat_of_lt' hlt,
    UInt32.toNat_ofNat_of_lt' (Nat.lt_of_le_of_lt hle hlt)]
  exact hle

theorem outcome_lost (hr : s.registry.Orderly) (a : Act) {n : Nat} (hn : n ≠ s.acts)
    (hlost : s.held (.lost n) = none) : (s.outcome a).2 (.lost n) = none := by
  have hw : witnessed a s.held (.lost n) = none := by
    rw [witnessed, hlost]
    rfl
  have hworker : ∀ w v, update (witnessed a s.held) (.worker w) v (.lost n) = none := by
    intro w v
    rw [Function.update_of_ne Holder.noConfusion]
    exact hw
  cases a with
  | makeCurrent w display draw read context =>
    rcases outcome_makeCurrent hr w display draw read context with
      ⟨-, he⟩ | ⟨-, -, he⟩ | ⟨-, -, he⟩
    · rw [he]
      exact hworker w none
    · rw [he]
      exact hw
    · rw [he]
      dsimp only
      rw [hworker]
  | findOrCreate w display draw read context =>
    cases hk : s.held (.worker w) with
    | none =>
      rw [outcome_findOrCreate_of_none hk]
      dsimp only
      rw [hworker]
    | some x =>
      rw [outcome_findOrCreate_of_some hk]
      exact hw
  | release w => exact hworker w none
  | drop w =>
    have hne' : Holder.lost n ≠ .lost s.acts := fun e => hn (Holder.lost.inj e)
    unfold outcome
    dsimp only
    rw [Function.update_of_ne Holder.noConfusion, Function.update_of_ne hne']
    exact hw
  | use w shadow =>
    unfold outcome
    dsimp only
    rw [hworker]
  | initDisplay display => exact hw
  | terminateDisplay caller display => exact hw
  | destroyContext display context => exact hw
  | destroySurface display surface => exact hw
  | teardown => exact hw

theorem perform_kept (hs : s.Kept) (a : Act) (hb : (s.perform a).Bounded) :
    (s.perform a).Kept := by
  constructor
  case coherent =>
    exact outcome_coherent hs.coherent (hs.lost _ (Nat.le_refl _)) a hb.slots
      (perform_ages hs a hb)
  case aged => exact perform_aged hs a
  case lost =>
    intro n hn
    have hle : s.acts < n := hn
    exact outcome_lost hs.coherent.orderly a (by omega) (hs.lost n (by omega))

theorem length_slots_outcome (s : Tenancy) (a : Act) :
    s.registry.arena.slots.length ≤ (s.outcome a).1.arena.slots.length := by
  cases a with
  | makeCurrent w display draw read context =>
    have hlen := s.registry.length_slots_makeCurrent display draw read context (s.currentOf w)
    unfold outcome
    dsimp only
    rcases hm : s.registry.makeCurrent display draw read context (s.currentOf w) with
      ⟨e | ok, r, slot⟩
    · rw [hm] at hlen
      exact hlen
    · rw [hm] at hlen
      exact hlen
  | findOrCreate w display draw read context =>
    cases hk : s.held (.worker w) with
    | none =>
      rw [outcome_findOrCreate_of_none hk]
      exact Registry.length_slots_findOrCreate ..
    | some x => exact Nat.le_of_eq (by rw [outcome_findOrCreate_of_some hk])
  | release w => exact Nat.le_of_eq (Registry.length_slots_giveBack ..).symm
  | drop w => exact Nat.le_refl _
  | use w shadow => exact Nat.le_refl _
  | initDisplay display => exact Nat.le_of_eq (Registry.length_slots_initDisplay ..).symm
  | terminateDisplay caller display => exact Nat.le_of_eq (Registry.length_slots_mark ..).symm
  | destroyContext display context => exact Nat.le_of_eq (Registry.length_slots_mark ..).symm
  | destroySurface display surface => exact Nat.le_of_eq (Registry.length_slots_mark ..).symm
  | teardown => exact Nat.le_of_eq (Registry.length_slots_teardown _).symm

theorem bounded_of_perform {a : Act} (hb : (s.perform a).Bounded) : s.Bounded where
  slots := Nat.lt_of_le_of_lt (length_slots_outcome s a) hb.slots
  reaped i := Nat.lt_of_le_of_lt (Nat.le_add_right ..) (hb.reaped i)

theorem bounded_of_run {acts : List Act} (hb : (s.run acts).Bounded) : s.Bounded := by
  induction acts generalizing s with
  | nil => exact hb
  | cons a acts ih => exact bounded_of_perform (ih hb)

theorem run_kept (hs : s.Kept) (acts : List Act) (hb : (s.run acts).Bounded) :
    (s.run acts).Kept := by
  induction acts generalizing s with
  | nil => exact hs
  | cons a acts ih => exact ih (perform_kept hs a (bounded_of_run hb)) hb

theorem reaped_le_length (acts : List Act) (i : UInt32) :
    (s.run acts).reaped i ≤ s.reaped i + acts.length := by
  induction acts generalizing s with
  | nil => exact Nat.le_refl _
  | cons a acts ih =>
    have hrest := ih (s := s.perform a)
    have hone : (s.perform a).reaped i ≤ s.reaped i + 1 := by
      show s.reaped i + ite .. ≤ _
      split <;> omega
    show ((s.perform a).run acts).reaped i ≤ _
    rw [List.length_cons]
    omega

theorem bounded_of_length (acts : List Act)
    (hs : (run {} acts).registry.arena.slots.length < UInt32.size) (hl : acts.length < UInt32.size) :
    (run {} acts).Bounded where
  slots := hs
  reaped i := by
    have hle := reaped_le_length (s := {}) acts i
    have hz : ({} : Tenancy).reaped i = 0 := rfl
    omega

/-! The deeds are what was done -/

/-- What is out after an act was handed out by it, or was out before it. -/
theorem outcome_since (s : Tenancy) (a : Act) {k : Holder} {y : Holding}
    (hk : (s.outcome a).2 k = some y) :
    (y.since = [] ∧ a.handsTo k) ∨
      ∃ l x, s.held l = some x ∧ y.since = a.deedFor l :: x.since := by
  have hw : ∀ l x, witnessed a s.held l = some x →
      ∃ l x', s.held l = some x' ∧ x.since = a.deedFor l :: x'.since := by
    intro l x hx
    obtain ⟨x', hx', rfl⟩ := witnessed_eq_some hx
    exact ⟨l, x', hx', rfl⟩
  have hu : ∀ {w v}, update (witnessed a s.held) (.worker w) v k = some y →
      (k = .worker w ∧ v = some y) ∨ ∃ l x, s.held l = some x ∧ y.since = a.deedFor l :: x.since := by
    intro w v hy
    by_cases hkw : k = .worker w
    · rw [hkw, Function.update_self] at hy
      exact .inl ⟨hkw, hy⟩
    · rw [Function.update_of_ne hkw] at hy
      exact .inr (hw k y hy)
  unfold outcome at hk
  cases a with
  | makeCurrent w display draw read context =>
    dsimp only at hk
    split at hk
    · rcases hu hk with ⟨hkw, hv⟩ | hbefore
      · obtain ⟨current, -, rfl⟩ := Option.map_eq_some_iff.mp hv
        exact .inl ⟨rfl, hkw⟩
      · exact .inr hbefore
    · rcases hu hk with ⟨-, hv⟩ | hbefore
      · obtain ⟨x, hx, hv⟩ := Option.bind_eq_some_iff.mp hv
        obtain ⟨current, -, rfl⟩ := Option.map_eq_some_iff.mp hv
        exact .inr (hw _ x hx)
      · exact .inr hbefore
  | findOrCreate w display draw read context =>
    dsimp only at hk
    split at hk
    · rcases hu hk with ⟨hkw, hv⟩ | hbefore
      · cases hv
        exact .inl ⟨rfl, hkw⟩
      · exact .inr hbefore
    · exact .inr (hw k y hk)
    · exact .inr (hw k y hk)
  | release w =>
    rcases hu hk with ⟨-, hv⟩ | hbefore
    · cases hv
    · exact .inr hbefore
  | drop w =>
    obtain ⟨-, hk⟩ := update_none_eq_some hk
    by_cases hl : k = .lost s.acts
    · rw [hl, Function.update_self] at hk
      exact .inr (hw _ y hk)
    · rw [Function.update_of_ne hl] at hk
      exact .inr (hw k y hk)
  | use w shadow =>
    rcases hu hk with ⟨-, hv⟩ | hbefore
    · obtain ⟨x, hx, rfl⟩ := Option.map_eq_some_iff.mp hv
      exact .inr (hw _ x hx)
    · exact .inr hbefore
  | _ => exact .inr (hw k y hk)

/-- The deeds since a context was handed out are the acts after the one that
handed it out. -/
theorem since_of_run (acts : List Act) {k : Holder} {x : Holding}
    (hk : (run {} acts).held k = some x) :
    ∃ before a l, acts = before ++ a :: (x.since.map Deed.act).reverse ∧ a.handsTo l := by
  induction acts using List.reverseRecOn generalizing k x with
  | nil => cases hk
  | append_singleton acts a ih =>
    have hlast : run {} (acts ++ [a]) = (run {} acts).perform a := by
      rw [run, List.foldl_append]
      rfl
    rw [hlast] at hk
    rcases outcome_since _ a hk with ⟨hs, hto⟩ | ⟨l, y, hy, hs⟩
    · refine ⟨acts, a, k, ?_, hto⟩
      rw [hs]
      rfl
    · obtain ⟨before, b, m, he, hto⟩ := ih hy
      refine ⟨before, b, m, ?_, hto⟩
      rw [hs, List.map_cons, List.reverse_cons, ← List.cons_append, ← List.append_assoc, ← he]
      rfl

end RenderRelay.Tenancy
