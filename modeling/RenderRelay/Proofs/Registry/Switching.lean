import RenderRelay.Proofs.Registry.Destruction

/-!
# Switching contexts

What making a context current does, whoever asks for it and whatever was done
before. It is refused only while another has the context, and then nothing
changes, though the context that is held is given back before the steps that
may fail: an idle record has its shadow, a context has one record at most, and
so these steps do not fail. What is handed out is the shadow that was returned
last under the same handle, or a fresh one under a new handle.
-/

set_option autoImplicit false

namespace RenderRelay

open Function (update)

/-! ## The shadows that were returned -/

namespace Registry

def remember (shadows : Handle → Option Shadow) : Option Current → Handle → Option Shadow
  | none => shadows
  | some current => update shadows current.handle (some current.shadow)

def Remembers (r : Registry) (shadows : Handle → Option Shadow) : Prop :=
  ∀ h c, r.record? h = some c → c.active = false → c.shadow = shadows h

variable {r r' : Registry} {shadows : Handle → Option Shadow}

/-- What neither calls a context back nor hands one out leaves the shadows. -/
theorem Remembers.transform {each : Handle → ContextRecord → Option ContextRecord}
    (hm : r.Remembers shadows) (ht : r.Transforms r' each)
    (heach : ∀ h c d, each h c = some d → d.active = c.active ∧ d.shadow = c.shadow) :
    r'.Remembers shadows := by
  intro h d hd ha
  obtain ⟨c, hc, hcd⟩ := ht.before hd
  obtain ⟨hactive, hshadow⟩ := heach h c d hcd
  rw [hshadow]
  exact hm h c hc (hactive ▸ ha)

theorem Remembers.giveBack (hm : r.Remembers shadows) (hr : r.arena.Sound)
    (current : Option Current) : (r.giveBack current).Remembers (remember shadows current) := by
  cases current with
  | none => exact hm
  | some own =>
    intro h d hd ha
    obtain ⟨c, hc, hcd⟩ := (release_transforms hr own).before hd
    rw [remember]
    rcases returning_eq_some hcd with ⟨hne, hsame⟩ | ⟨rfl, -, rfl⟩
    · rw [Function.update_of_ne hne]
      subst hsame
      exact hm h d hc ha
    · rw [Function.update_self]
      rfl

theorem Remembers.handOut (hm : r.Remembers shadows) (hr : r.arena.Sound) (h : Handle)
    (draw read : Surface) : (r.handOut h draw read).Remembers shadows := by
  intro g d hd ha
  obtain ⟨c, hc, hcd⟩ := (handOut_transforms hr h draw read).before hd
  unfold taking at hcd
  split at hcd
  · cases hcd
    cases ha
  · cases hcd
    exact hm g _ hc ha

theorem record?_handOut_add (hr : r.arena.Sound) (display : Display) (context : Context)
    (draw read : Surface) (h : Handle) :
    ((r.add display context draw read).2.handOut (r.add display context draw read).1
        draw read).record? h =
      if h = (r.add display context draw read).1 then
        some { display, context, draw, read, active := true, doom := {}, shadow := none }
      else r.record? h := by
  have hadd := record?_add hr display context draw read h
  split
  · next hh =>
    rw [if_pos hh] at hadd
    rw [← hh, record?_handOut_self hadd]
    rfl
  · next hh =>
    rw [if_neg hh] at hadd
    rw [record?_handOut_of_ne hh, hadd]

theorem Remembers.findOrCreate (hm : r.Remembers shadows) (hr : r.Orderly) (display : Display)
    (draw read : Surface) (context : Context) :
    (r.findOrCreate display draw read context).2.Remembers shadows := by
  rcases hr.findOrCreate_cases display draw read context with
    ⟨h, c, shadow, -, -, -, -, -, he⟩ | ⟨h, c, -, -, -, -, he⟩ | ⟨hn, he⟩
  · rw [he]
    exact hm.handOut hr.sound h draw read
  · rw [he]
    exact hm
  · rw [he]
    intro h d hd ha
    dsimp only at hd
    rw [record?_handOut_add hr.sound] at hd
    split at hd
    · cases hd
      cases ha
    · exact hm h d hd ha

theorem Orderly.findOrCreate_ok (hr : r.Orderly) {display : Display} {context : Context}
    (hidle : ∀ h c, r.record? h = some c → c.display = display → c.context = context →
      c.active = false) (draw read : Surface) :
    ∃ next r', r.findOrCreate display draw read context = (.ok next, r') := by
  rcases hr.findOrCreate_cases display draw read context with
    ⟨h, c, shadow, -, -, -, -, -, he⟩ | ⟨h, c, hv, hdis, hcon, ha, -⟩ | ⟨-, he⟩
  · exact ⟨_, _, he⟩
  · rw [hidle h c hv hdis hcon] at ha
    cases ha
  · exact ⟨_, _, he⟩

/-- Making a context current empties the slot, is refused before anything changes, or succeeds
in all its steps. -/
theorem Orderly.makeCurrent_cases (hr : r.Orderly) (display : Display) (draw read : Surface)
    (context : Context) (current : Option Current) :
    ((display = .none ∨ context = .none) ∧
      r.makeCurrent display draw read context current = (.ok (), r.giveBack current, none)) ∨
    (¬ (display = .none ∨ context = .none) ∧
      r.busyElsewhere display context (current.map Current.handle) = true ∧
      r.makeCurrent display draw read context current =
        (.error (.contextBusy display context), r, current)) ∨
    (¬ (display = .none ∨ context = .none) ∧
      r.busyElsewhere display context (current.map Current.handle) = false ∧
      ∃ next r', (r.giveBack current).findOrCreate display draw read context = (.ok next, r') ∧
        r.makeCurrent display draw read context current = (.ok (), r', some next)) := by
  have he := hr.makeCurrent_eq display draw read context current
  by_cases hnone : display = .none ∨ context = .none
  · rw [if_pos hnone] at he
    exact .inl ⟨hnone, he⟩
  · rw [if_neg hnone] at he
    cases hb : r.busyElsewhere display context (current.map Current.handle) with
    | true =>
      rw [hb] at he
      exact .inr (.inl ⟨hnone, rfl, he⟩)
    | false =>
      obtain ⟨next, r', hfound⟩ := (hr.giveBack current).findOrCreate_ok
        (Tenancy.idle_of_not_busy hr hb) draw read
      rw [hb, hfound] at he
      exact .inr (.inr ⟨hnone, rfl, next, r', hfound, he⟩)

/-- What a match on the surfaces as well finds is found without it. -/
theorem Orderly.find?_of_matchExisting (hr : r.Orderly) {display : Display} {draw read : Surface}
    {context : Context} {h : Handle}
    (hm : r.matchExisting display draw read context = some h) :
    ∃ c, (r.arena.find? fun c => c.display = display && c.context = context) = some (h, c) := by
  obtain ⟨⟨g, c⟩, hf, rfl⟩ := Option.map_eq_some_iff.mp hm
  obtain ⟨hv, hp⟩ := Arena.get?_of_find? hr.sound hf
  simp only [Bool.and_eq_true, decide_eq_true_eq] at hp
  obtain ⟨⟨⟨⟨⟨rfl, rfl⟩, -⟩, -⟩, -⟩, -⟩ := hp
  cases hf' : r.arena.find? fun d => d.display = c.display && d.context = c.context with
  | none =>
    have hn := (Arena.find?_eq_none_iff hr.sound).mp hf' g c hv
    simp at hn
  | some found =>
    obtain ⟨g', d⟩ := found
    obtain ⟨hd, hp⟩ := Arena.get?_of_find? hr.sound hf'
    simp only [Bool.and_eq_true, decide_eq_true_eq] at hp
    obtain rfl := hr.single g' g d c hd hv hp.1 hp.2
    exact ⟨d, rfl⟩

end Registry

namespace Tenancy

def returned (s : Tenancy) : Act → Option Current
  | .makeCurrent w display draw read context =>
    match (s.registry.makeCurrent display draw read context (s.currentOf w)).1 with
    | .ok () => s.currentOf w
    | .error _ => none
  | .release w => s.currentOf w
  | _ => none

def shadowsAfter (s : Tenancy) (shadows : Handle → Option Shadow) :
    List Act → Handle → Option Shadow
  | [] => shadows
  | a :: acts => (s.perform a).shadowsAfter (Registry.remember shadows (s.returned a)) acts

variable {s : Tenancy} {shadows : Handle → Option Shadow}

theorem registry_makeCurrent (s : Tenancy) (w : Nat) (display : Display) (draw read : Surface)
    (context : Context) :
    (s.perform (.makeCurrent w display draw read context)).registry =
      (s.registry.makeCurrent display draw read context (s.currentOf w)).2.1 := by
  show (s.outcome _).1 = _
  unfold outcome
  dsimp only
  rcases s.registry.makeCurrent display draw read context (s.currentOf w) with
    ⟨_ | _, registry, slot⟩ <;> rfl

theorem remembers_makeCurrent (hr : s.registry.Orderly) (hm : s.registry.Remembers shadows)
    (w : Nat) (display : Display) (draw read : Surface) (context : Context) :
    (s.perform (.makeCurrent w display draw read context)).registry.Remembers
      (Registry.remember shadows (s.returned (.makeCurrent w display draw read context))) := by
  have hgive := hm.giveBack hr.sound (s.currentOf w)
  rw [registry_makeCurrent, returned]
  rcases hr.makeCurrent_cases display draw read context (s.currentOf w) with
    ⟨-, he⟩ | ⟨-, -, he⟩ | ⟨-, -, next, r', hfound, he⟩
  · rw [he]
    exact hgive
  · rw [he]
    exact hm
  · have hmade := hgive.findOrCreate (hr.giveBack _) display draw read context
    rw [hfound] at hmade
    rw [he]
    exact hmade

theorem remembers_perform (hr : s.registry.Orderly) (hm : s.registry.Remembers shadows)
    (a : Act) :
    (s.perform a).registry.Remembers (Registry.remember shadows (s.returned a)) := by
  have hmark : ∀ doomed, (s.registry.mark doomed).2.Remembers shadows := fun doomed =>
    hm.transform (Registry.mark_transforms hr.sound doomed)
      fun _ _ _ hd => (Registry.destroyed_same hd).2.2
  cases a with
  | makeCurrent w display draw read context =>
    exact remembers_makeCurrent hr hm w display draw read context
  | findOrCreate w display draw read context =>
    show (s.outcome _).1.Remembers shadows
    cases hw : s.held (.worker w) with
    | none =>
      rw [outcome_findOrCreate_of_none hw]
      exact hm.findOrCreate hr display draw read context
    | some x =>
      rw [outcome_findOrCreate_of_some hw]
      exact hm
  | release w => exact hm.giveBack hr.sound (s.currentOf w)
  | drop | use => exact hm
  | initDisplay display =>
    refine hm.transform (Registry.initDisplay_transforms hr.sound display) ?_
    intro _ _ _ hd
    cases hd
    exact ⟨rfl, rfl⟩
  | terminateDisplay | destroyContext | destroySurface => exact hmark _
  | teardown =>
    refine hm.transform (Registry.teardown_transforms hr.sound) ?_
    intro _ _ _ hd
    cases hd

theorem run_remembers (hs : s.Kept) (hm : s.registry.Remembers shadows) (acts : List Act)
    (hb : (s.run acts).Bounded) :
    (s.run acts).registry.Remembers (s.shadowsAfter shadows acts) := by
  induction acts generalizing s shadows with
  | nil => exact hm
  | cons a acts ih =>
    exact ih (perform_kept hs a (bounded_of_run hb))
      (remembers_perform hs.coherent.orderly hm a) hb

/-! ## Handles that were given out -/

theorem issued_run (hs : s.Kept) (acts : List Act) (hb : (s.run acts).Bounded) {h : Handle}
    (hi : s.registry.arena.Issued h) : (s.run acts).registry.arena.Issued h := by
  induction acts generalizing s with
  | nil => exact hi
  | cons a acts ih =>
    have hnext : (s.perform a).Bounded := bounded_of_run hb
    exact ih (perform_kept hs a hnext) hb (Arena.issued_of_advances
      (outcome_advances hs.coherent.orderly a) (perform_ages hs a hnext) hi)

def Known (acts : List Act) (h : Handle) : Prop :=
  ∃ earlier, earlier <+: acts ∧ ((run {} earlier).registry.record? h).isSome

theorem issued_of_known {acts : List Act} (hb : (run {} acts).Bounded) {h : Handle}
    (hk : Known acts h) : (run {} acts).registry.arena.Issued h := by
  obtain ⟨earlier, ⟨later, rfl⟩, hv⟩ := hk
  have happend : run {} (earlier ++ later) = (run {} earlier).run later := List.foldl_append
  rw [happend] at hb ⊢
  exact issued_run (run_kept start_kept earlier (bounded_of_run hb)) later hb (.inl hv)

/-! ## The statement -/

def settledFor (s : Tenancy) (w : Nat) : Registry := s.registry.giveBack (s.currentOf w)

def Busy (s : Tenancy) (w : Nat) (display : Display) (context : Context) : Prop :=
  display ≠ .none ∧ context ≠ .none ∧ ∃ h c, s.registry.record? h = some c ∧
    c.display = display ∧ c.context = context ∧ c.active = true ∧
      some h ≠ (s.currentOf w).map Current.handle

/-- What is handed out from a registry in which the context is not active: the record it has,
with the shadow that was returned last, or a new one with a fresh shadow. -/
structure Made (r r' : Registry) (shadows : Handle → Option Shadow) (display : Display)
    (draw read : Surface) (context : Context) (next : Current) : Prop where
  asked : next = ⟨next.handle, display, context, draw, read, next.shadow⟩
  record : r'.record? next.handle =
    some { display, context, draw, read, active := true, doom := {}, shadow := none }
  others : ∀ h, h ≠ next.handle → r'.record? h = r.record? h
  same : ∀ h c, r.record? h = some c → c.display = display → c.context = context →
    next.handle = h ∧ some next.shadow = shadows h
  new : (∀ h c, r.record? h = some c → ¬ (c.display = display ∧ c.context = context)) →
    r.record? next.handle = none ∧ next.shadow = .fresh
  initialized : r'.initialized = r.initialized

structure Switches (s : Tenancy) (shadows : Handle → Option Shadow) (known : Handle → Prop)
    (w : Nat) (display : Display) (draw read : Surface) (context : Context) : Prop where
  fails_iff : (∃ e, (s.registry.makeCurrent display draw read context (s.currentOf w)).1 =
    .error e) ↔ s.Busy w display context
  refused : s.Busy w display context →
    s.registry.makeCurrent display draw read context (s.currentOf w) =
      (.error (.contextBusy display context), s.registry, s.currentOf w)
  /-- The record that the worker had is deactivated and settled, and no other. -/
  deactivated : ∀ own c, s.currentOf w = some own → s.registry.record? own.handle = some c →
    (s.settledFor w).record? own.handle = c.handedBack own.shadow
  kept : ∀ h, (∀ own, s.currentOf w = some own → h ≠ own.handle) →
    (s.settledFor w).record? h = s.registry.record? h
  initialized : (s.settledFor w).initialized = s.registry.initialized
  emptied : display = .none ∨ context = .none →
    s.registry.makeCurrent display draw read context (s.currentOf w) =
      (.ok (), s.settledFor w, none)
  made : ¬ s.Busy w display context → display ≠ .none → context ≠ .none →
    ∃ next r', s.registry.makeCurrent display draw read context (s.currentOf w) =
        (.ok (), r', some next) ∧
      Made (s.settledFor w) r' (Registry.remember shadows (s.currentOf w)) display draw read
        context next ∧
      ((∀ h c, (s.settledFor w).record? h = some c →
          ¬ (c.display = display ∧ c.context = context)) →
        (s.perform (.makeCurrent w display draw read context)).Bounded → ¬ known next.handle)
  /-- The match on the surfaces finds no other record than is found without it. -/
  matched : ∀ r ∈ [s.registry, s.settledFor w], ∀ h,
    r.matchExisting display draw read context = some h →
      ∃ c, (r.arena.find? fun c => c.display = display && c.context = context) = some (h, c)

section

variable {r r' : Registry} {display : Display} {draw read : Surface} {context : Context}
  {next : Current}

theorem made_of_idle (hr : r.Orderly) (hm : r.Remembers shadows) {h : Handle} {c : ContextRecord}
    {shadow : Shadow} (hv : r.record? h = some c) (ha : c.active = false)
    (hs : c.shadow = some shadow) (draw read : Surface) :
    Made r (r.handOut h draw read) shadows c.display draw read c.context
      ⟨h, c.display, c.context, draw, read, shadow⟩ where
  asked := rfl
  record := by
    rw [Registry.record?_handOut_self hv, ContextRecord.taken, (hr.tidy h c hv).idle ha]
  others g hg := Registry.record?_handOut_of_ne hg draw read
  same g d hd hdis hcon := by
    obtain rfl := hr.single h g c d hv hd hdis.symm hcon.symm
    exact ⟨rfl, hs.symm.trans (hm h c hv ha)⟩
  new hn := absurd ⟨rfl, rfl⟩ (hn h c hv)
  initialized := rfl

theorem made_of_new (hr : r.Orderly)
    (hn : ∀ h c, r.record? h = some c → ¬ (c.display = display ∧ c.context = context)) :
    Made r ((r.add display context draw read).2.handOut (r.add display context draw read).1
        draw read) shadows display draw read context
      ⟨(r.add display context draw read).1, display, context, draw, read, .fresh⟩ where
  asked := rfl
  record := by rw [Registry.record?_handOut_add hr.sound, if_pos rfl]
  others h hh := by rw [Registry.record?_handOut_add hr.sound, if_neg hh]
  same h c hv hdis hcon := absurd ⟨hdis, hcon⟩ (hn h c hv)
  new _ := by
    refine ⟨?_, rfl⟩
    cases hv : r.record? (r.add display context draw read).1 with
    | none => rfl
    | some c => exact absurd rfl (Registry.record?_add_of_some hr.sound hv ..).1
  initialized := rfl

theorem made_of_findOrCreate (hr : r.Orderly) (hm : r.Remembers shadows)
    (hfound : r.findOrCreate display draw read context = (.ok next, r')) :
    Made r r' shadows display draw read context next := by
  rcases hr.findOrCreate_cases display draw read context with
    ⟨h, c, shadow, hv, rfl, rfl, ha, hs, he⟩ | ⟨h, c, -, -, -, -, he⟩ | ⟨hn, he⟩
  · rw [he] at hfound
    cases hfound
    exact made_of_idle hr hm hv ha hs draw read
  · rw [he] at hfound
    cases hfound
  · rw [he] at hfound
    cases hfound
    exact made_of_new hr hn

/-- A record that comes new has a handle that was never given out. -/
theorem not_issued_findOrCreate (hr : r.Orderly)
    (hn : ∀ h c, r.record? h = some c → ¬ (c.display = display ∧ c.context = context))
    (hfound : r.findOrCreate display draw read context = (.ok next, r')) :
    ¬ r.arena.Issued next.handle := by
  rcases hr.findOrCreate_cases display draw read context with
    ⟨h, c, shadow, hv, hdis, hcon, -⟩ | ⟨h, c, hv, hdis, hcon, -⟩ | ⟨-, he⟩
  · exact absurd ⟨hdis, hcon⟩ (hn h c hv)
  · exact absurd ⟨hdis, hcon⟩ (hn h c hv)
  · rw [he] at hfound
    cases hfound
    exact Arena.not_issued_insert hr.sound _

end

theorem busy_iff (hr : s.registry.Orderly) (w : Nat) (display : Display) (context : Context) :
    s.Busy w display context ↔ ¬ (display = .none ∨ context = .none) ∧
      s.registry.busyElsewhere display context ((s.currentOf w).map Current.handle) = true := by
  rw [hr.busyElsewhere_iff, Busy, not_or, and_assoc]

/-- Where a new record is made, the slots have not gone on since what was held was given back. -/
theorem Kept.ages_settled (hs : s.Kept) {w : Nat} {display : Display} {draw read : Surface}
    {context : Context} {next : Current} {r' : Registry}
    (hfound : (s.settledFor w).findOrCreate display draw read context = (.ok next, r'))
    (he : s.registry.makeCurrent display draw read context (s.currentOf w) =
      (.ok (), r', some next))
    (hb : (s.perform (.makeCurrent w display draw read context)).Bounded) :
    s.registry.arena.Ages (s.settledFor w).arena := by
  intro i
  have hgen := ((hs.coherent.orderly.giveBack (s.currentOf w)).findOrCreate_advances
    display draw read context).2 i
  have hperform := perform_ages hs _ hb i
  rw [registry_makeCurrent, he] at hperform
  rw [settledFor] at hfound ⊢
  rw [hfound] at hgen
  rw [← hgen]
  exact hperform

theorem Kept.switches (hs : s.Kept) (hm : s.registry.Remembers shadows) {known : Handle → Prop}
    (hknown : ∀ h, known h → s.registry.arena.Issued h) (w : Nat) (display : Display)
    (draw read : Surface) (context : Context) :
    s.Switches shadows known w display draw read context := by
  have hr := hs.coherent.orderly
  have hcases := hr.makeCurrent_cases display draw read context (s.currentOf w)
  have hbusy := busy_iff hr w display context
  constructor
  case fails_iff =>
    rcases hcases with ⟨hnone, he⟩ | ⟨hsome, hb, he⟩ | ⟨hsome, hb, next, r', -, he⟩
    · rw [he, hbusy]
      simp [hnone]
    · rw [he, hbusy]
      simp [hsome, hb]
    · rw [he, hbusy]
      simp [hb]
  case refused =>
    intro hb
    obtain ⟨hsome, hb⟩ := hbusy.mp hb
    rcases hcases with ⟨hnone, -⟩ | ⟨-, -, he⟩ | ⟨-, hfree, -⟩
    · exact absurd hnone hsome
    · exact he
    · rw [hb] at hfree
      cases hfree
  case deactivated =>
    intro own c hown hv
    rw [settledFor, hown]
    exact record?_release_self hv
  case kept =>
    intro h hh
    exact record?_giveBack_of_ne hh
  case initialized =>
    rw [settledFor]
    cases s.currentOf w with
    | none => rfl
    | some own => rw [Registry.giveBack, Registry.release_eq]
  case emptied =>
    intro hnone
    rcases hcases with ⟨-, he⟩ | ⟨hsome, -⟩ | ⟨hsome, -⟩
    · exact he
    · exact absurd hnone hsome
    · exact absurd hnone hsome
  case made =>
    intro hfree hdis hcon
    rcases hcases with ⟨hnone, -⟩ | ⟨hsome, hb, -⟩ | ⟨-, -, next, r', hfound, he⟩
    · exact absurd hnone (not_or.mpr ⟨hdis, hcon⟩)
    · exact absurd (hbusy.mpr ⟨hsome, hb⟩) hfree
    · have hgive := hr.giveBack (s.currentOf w)
      refine ⟨next, r', he, made_of_findOrCreate hgive (hm.giveBack hr.sound _) hfound, ?_⟩
      intro hn hbounded hk
      exact not_issued_findOrCreate hgive hn hfound
        (Arena.issued_of_advances (Registry.giveBack_advances hr.sound _)
          (hs.ages_settled hfound he hbounded) (hknown _ hk))
  case matched =>
    intro r hmem h hmatch
    have horderly : r.Orderly := by
      have hmem : r = s.registry ∨ r = s.settledFor w := by simpa using hmem
      rcases hmem with rfl | rfl
      · exact hr
      · exact hr.giveBack _
    exact horderly.find?_of_matchExisting hmatch

/-- Whatever any workers did with a new registry before, making a context current does just
what it says. -/
theorem run_switches (acts : List Act) (hb : (run {} acts).Bounded) (w : Nat)
    (display : Display) (draw read : Surface) (context : Context) :
    (run {} acts).Switches (({} : Tenancy).shadowsAfter (fun _ => none) acts) (Known acts)
      w display draw read context :=
  (run_kept start_kept acts hb).switches
    (run_remembers start_kept (fun h c hv => absurd hv (by simp)) acts hb)
    (fun _ hk => issued_of_known hb hk) w display draw read context

/-- The context of the first worker is destroyed while it is current there. -/
def doomed : List Act :=
  [.makeCurrent 0 ⟨1⟩ ⟨3⟩ ⟨4⟩ ⟨7⟩, .makeCurrent 1 ⟨1⟩ ⟨3⟩ ⟨3⟩ ⟨8⟩, .destroyContext ⟨1⟩ ⟨7⟩]

/-- The record goes when its worker asks for it again, and a new one is made in its slot. -/
theorem run_switches_of_doomed :
    (run {} doomed).Bounded ∧
    ((run {} doomed).currentOf 0).map Current.handle = some ⟨0, 0⟩ ∧
    ((run {} doomed).registry.makeCurrent ⟨1⟩ ⟨3⟩ ⟨4⟩ ⟨7⟩
      ((run {} doomed).currentOf 0)).2.2.map Current.handle = some ⟨0, 1⟩ ∧
    (run {} doomed).Switches (({} : Tenancy).shadowsAfter (fun _ => none) doomed) (Known doomed)
      0 ⟨1⟩ ⟨3⟩ ⟨4⟩ ⟨7⟩ := by
  have hb := bounded_of_length doomed (by decide +kernel) (by decide)
  exact ⟨hb, by decide +kernel, by decide +kernel, run_switches doomed hb 0 ⟨1⟩ ⟨3⟩ ⟨4⟩ ⟨7⟩⟩

end Tenancy

end RenderRelay
