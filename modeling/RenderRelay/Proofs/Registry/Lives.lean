import Mathlib.Data.List.Nodup
import RenderRelay.Proofs.Registry.Orderly

/-!
# Records and their handles

A record is made under a handle that was never given out, and the handle finds
it and nothing else for as long as it is there. What is done with the registry
does not matter: contexts may be handed back that a teardown took, that were
handed back before or that never came from this registry. Only the generations
of a slot must not begin again, so no slot may be emptied as often as there
are generations.
-/

set_option autoImplicit false

namespace RenderRelay

/-! ## Values that are taken out -/

namespace Arena

variable {α : Type} {a b : Arena α} {h : Handle}

def departed (a b : Arena α) : List Handle := a.handles.filter fun h => (b.get? h).isNone

theorem mem_departed (ha : a.Sound) :
    h ∈ a.departed b ↔ (a.get? h).isSome ∧ b.get? h = none := by
  rw [departed, List.mem_filter, mem_handles ha, Option.isNone_iff_eq_none]

theorem nodup_departed (ha : a.Sound) : (a.departed b).Nodup := (nodup_handles ha).filter _

def Rests (a b : Arena α) : Prop :=
  ∀ i, (∀ h, h.index = i → a.get? h = none) → b.generationAt i = a.generationAt i

theorem alterEach_rests (each : Handle → α → Option α) (hs : List Handle) :
    a.Rests (a.alterEach each hs) := by
  induction hs generalizing a with
  | nil => exact fun _ _ => rfl
  | cons h hs ih =>
    intro i hi
    have hnone : ∀ g, g.index = i → (a.alter h (each h)).get? g = none := by
      intro g hg
      rw [get?_alter]
      split
      · next hgh => rw [← hgh, hi g hg]; rfl
      · exact hi g hg
    have hrest := ih (a := a.alter h (each h)) i hnone
    rw [generationAt_alter, if_neg] at hrest
    · exact hrest
    · rintro ⟨rfl, hsome, -⟩
      rw [hi h rfl] at hsome
      cases hsome

theorem alter_rests (h : Handle) (f : α → Option α) : a.Rests (a.alter h f) :=
  alterEach_rests (fun _ => f) [h]

/-- A slot goes to its next generation once for each value that is taken out of it. -/
theorem generationAt_of_departed (ha : a.Sound) (hab : a.Advances b) (hr : a.Rests b)
    (i : UInt32) : b.generationAt i =
      a.generationAt i + UInt32.ofNat ((a.departed b).countP fun h => h.index = i) := by
  by_cases hex : ∃ h v, h.index = i ∧ a.get? h = some v
  · obtain ⟨h, v, rfl, hv⟩ := hex
    -- The slot has one value at most, so that its handle is the only one to count.
    have hcount : (a.departed b).countP (fun g => g.index = h.index) =
        (a.departed b).count h := by
      apply List.countP_congr
      intro g hg
      obtain ⟨w, hw⟩ := Option.isSome_iff_exists.mp ((mem_departed ha).mp hg).1
      simp only [decide_eq_true_eq, beq_iff_eq]
      exact ⟨eq_of_index hw hv, fun hgh => hgh ▸ rfl⟩
    have hsome : (a.get? h).isSome := by rw [hv]; rfl
    rw [hcount, generation_of_get? hv]
    cases hb : b.get? h with
    | none =>
      have hgone : b.generationAt h.index = h.generation + 1 := by
        refine (hab.retires h hsome).resolve_left ?_
        rw [hb]
        exact Bool.false_ne_true
      rw [hgone, List.count_eq_one_of_mem (nodup_departed ha) ((mem_departed ha).mpr ⟨hsome, hb⟩)]
      rfl
    | some w =>
      have hout : h ∉ a.departed b := by
        rw [mem_departed ha, hb]
        exact fun hm => nomatch hm.2
      rw [generation_of_get? hb, List.count_eq_zero_of_not_mem hout]
      exact (UInt32.add_zero _).symm
  · have hnone : ∀ h, h.index = i → a.get? h = none := by
      intro h hi
      cases hv : a.get? h with
      | none => rfl
      | some v => exact absurd ⟨h, v, hi, hv⟩ hex
    have hzero : (a.departed b).countP (fun h => h.index = i) = 0 := by
      rw [List.countP_eq_zero]
      intro h hh hi
      rw [mem_departed ha, hnone h (of_decide_eq_true hi)] at hh
      exact nomatch hh.1
    rw [hr i hnone, hzero]
    exact (UInt32.add_zero _).symm

theorem Sound.count_vacant (ha : a.Sound) {n : Nat} {slot : Slot α}
    (hs : a.slots[n]? = some slot) :
    a.vacant.count (UInt32.ofNat n) = if slot.value.isNone then 1 else 0 := by
  have hl : n < a.slots.length := (List.getElem?_eq_some_iff.mp hs).1
  have hn : (UInt32.ofNat n).toNat = n := UInt32.toNat_ofNat_of_lt' (Nat.lt_trans hl ha.length_lt)
  have hmem := ha.mem_vacant (UInt32.ofNat n)
  rw [hn, hs] at hmem
  obtain ⟨g, value⟩ := slot
  cases value with
  | none => exact List.count_eq_one_of_mem ha.vacant_nodup (hmem.mpr ⟨g, rfl⟩)
  | some v =>
    refine List.count_eq_zero_of_not_mem fun hm => ?_
    obtain ⟨g', hg⟩ := hmem.mp hm
    cases hg

end Arena

/-! ## What is done and what comes of it -/

namespace Registry

/-- What can be done with a registry. A context that is handed back, or passed
by a caller, may be any. -/
inductive Operation where
  | makeCurrent (display : Display) (draw read : Surface) (context : Context)
    (current : Option Current)
  | findOrCreate (display : Display) (draw read : Surface) (context : Context)
  | release (current : Current)
  | initDisplay (display : Display)
  | terminateDisplay (display : Display) (caller : Option Current)
  | destroyContext (display : Display) (context : Context)
  | destroySurface (display : Display) (surface : Surface)
  | teardown
  deriving DecidableEq, Repr

def performed (r : Registry) : Operation → Registry
  | .makeCurrent display draw read context current =>
    (r.makeCurrent display draw read context current).2.1
  | .findOrCreate display draw read context => (r.findOrCreate display draw read context).2
  | .release current => r.release current
  | .initDisplay display => r.initDisplay display
  | .terminateDisplay display caller => (r.terminateDisplay display caller).2
  | .destroyContext display context => (r.destroyContext display context).2
  | .destroySurface display surface => r.destroySurface display surface
  | .teardown => r.teardown.2

/-- The registry in the middle of an operation: a context is made current once
the one that is handed back is out of the way, unless it is refused. -/
def between (r : Registry) : Operation → Registry
  | .makeCurrent display _ _ context current =>
    if ¬ (display = .none ∨ context = .none) ∧
        r.busyElsewhere display context (current.map Current.handle) then r
    else r.giveBack current
  | _ => r

def handed (r : Registry) : Operation → Option Current
  | .makeCurrent display draw read context current =>
    match r.makeCurrent display draw read context current with
    | (.ok (), _, next) => next
    | (.error _, _) => none
  | .findOrCreate display draw read context =>
    (r.findOrCreate display draw read context).1.toOption
  | _ => none

def Operation.AsksFor (op : Operation) (display : Display) (context : Context) : Prop :=
  match op with
  | .makeCurrent d _ _ c _ => d = display ∧ c = context
  | .findOrCreate d _ _ c => d = display ∧ c = context
  | _ => False

inductive Event where
  | made (handle : Handle) (display : Display) (context : Context)
  | reaped (handle : Handle)
  deriving DecidableEq, Repr

namespace Event

def handle : Event → Handle
  | made h _ _ => h
  | reaped h => h

def made? : Event → Option Handle
  | made h _ _ => some h
  | reaped _ => none

def empties (i : UInt32) : Event → Bool
  | made .. => false
  | reaped h => h.index = i

end Event

def eventsTo (r r' : Registry) : List Event :=
  (r.arena.departed r'.arena).map .reaped ++
    (r'.records.filter fun (h, _) => (r.record? h).isNone).map fun (h, c) =>
      .made h c.display c.context

def Finds (r : Registry) (h : Handle) (display : Display) (context : Context) : Prop :=
  ∃ c, r.record? h = some c ∧ c.display = display ∧ c.context = context

end Registry

/-- A registry, and what became of all records since it was new. -/
structure Chronicle where
  registry : Registry := {}
  events : List Registry.Event := []

namespace Chronicle

open Registry (Operation Event)

def note (s : Chronicle) (r : Registry) : Chronicle where
  registry := r
  events := s.events ++ s.registry.eventsTo r

def perform (s : Chronicle) (op : Operation) : Chronicle :=
  (s.note (s.registry.between op)).note (s.registry.performed op)

def run (s : Chronicle) (ops : List Operation) : Chronicle := ops.foldl perform s

def reaped (s : Chronicle) (i : UInt32) : Nat := s.events.countP (Event.empties i)

structure Bounded (s : Chronicle) : Prop where
  slots : s.registry.arena.slots.length < UInt32.size
  reaped : ∀ i, s.reaped i < UInt32.size

structure Identifies (s : Chronicle) : Prop where
  count_eq : s.registry.arena.count =
    s.registry.arena.slots.countP fun slot => slot.value.isSome
  count_vacant : ∀ n slot, s.registry.arena.slots[n]? = some slot →
    s.registry.arena.vacant.count (UInt32.ofNat n) = if slot.value.isNone then 1 else 0
  vacant_lt : ∀ i ∈ s.registry.arena.vacant, i.toNat < s.registry.arena.slots.length
  /-- Handles come from operations that make the record or have it at hand. -/
  handed : ∀ op next, s.registry.handed op = some next →
    op.AsksFor next.display next.context ∧
      (s.perform op).registry.Finds next.handle next.display next.context
  matched : ∀ display draw read context h,
    s.registry.matchExisting display draw read context = some h →
      s.registry.Finds h display context
  listed : ∀ h c, (h, c) ∈ s.registry.records ↔ s.registry.record? h = some c
  /-- No two records were made under one handle. -/
  made_once : (s.events.filterMap Event.made?).Nodup
  /-- A handle finds the record that was made under it, until that is reaped. -/
  finds_iff : ∀ h display context, s.registry.Finds h display context ↔
    .made h display context ∈ s.events ∧ .reaped h ∉ s.events
  /-- Whatever is done afterwards, the handle finds that record or none. -/
  same : ∀ h display context, .made h display context ∈ s.events → ∀ ops,
    (s.run ops).Bounded → ∀ c, (s.run ops).registry.record? h = some c →
      c.display = display ∧ c.context = context
  gone : ∀ h, .reaped h ∈ s.events → ∀ ops, (s.run ops).Bounded →
    (s.run ops).registry.record? h = none

end Chronicle

/-! ## From one moment to the next -/

namespace Registry

variable {r r' : Registry}

/-- Either records go or one comes, and what stays is of the same context. -/
structure Evolves (r r' : Registry) : Prop where
  orderly : r'.Orderly
  advances : r.arena.Advances r'.arena
  rests : r.arena.Rests r'.arena
  keeps : ∀ h c d, r.record? h = some c → r'.record? h = some d →
    d.display = c.display ∧ d.context = c.context
  comes : ∀ h, r.record? h = none → (r'.record? h).isSome → ¬ r.arena.Issued h

theorem Orderly.evolves_transform (hr : r.Orderly)
    {each : Handle → ContextRecord → Option ContextRecord} (ht : r.Transforms r' each)
    (hk : Keeps each) (hrests : r.arena.Rests r'.arena) : r.Evolves r' where
  orderly := hr.transform ht hk
  advances := ht.advances
  rests := hrests
  keeps h c d hc hd := by
    rw [ht.record?, hc] at hd
    obtain ⟨hdisplay, hcontext, -⟩ := hk h c d hd
    exact ⟨hdisplay, hcontext⟩
  comes h hn hs := by
    rw [ht.record?, hn] at hs
    cases hs

theorem Orderly.evolves_refl (hr : r.Orderly) : r.Evolves r := by
  refine hr.evolves_transform (transforms_refl hr.sound) ?_ fun _ _ => rfl
  intro h c d hd
  cases hd
  exact ⟨rfl, rfl, id⟩

theorem Orderly.evolves_release (hr : r.Orderly) (current : Current) :
    r.Evolves (r.release current) := by
  refine hr.evolves_transform (release_transforms hr.sound current) (returning_keeps current) ?_
  rw [release_eq]
  exact Arena.alter_rests _ _

theorem Orderly.evolves_giveBack (hr : r.Orderly) (current : Option Current) :
    r.Evolves (r.giveBack current) := by
  cases current with
  | none => exact hr.evolves_refl
  | some own => exact hr.evolves_release own

theorem Orderly.evolves_mark (hr : r.Orderly)
    (doomed : Handle → ContextRecord → Option Doom) : r.Evolves (r.mark doomed).2 := by
  refine hr.evolves_transform (mark_transforms hr.sound doomed) (destroyed_keeps doomed) ?_
  rw [mark_eq]
  exact Arena.alterEach_rests _ _

theorem Orderly.evolves_initDisplay (hr : r.Orderly) (display : Display) :
    r.Evolves (r.initDisplay display) := by
  refine hr.evolves_transform (initDisplay_transforms hr.sound display) (revived_keeps display) ?_
  rw [initDisplay_eq]
  exact fun i _ => Arena.generationAt_map _ i

theorem Orderly.evolves_teardown (hr : r.Orderly) : r.Evolves r.teardown.2 := by
  refine hr.evolves_transform (teardown_transforms hr.sound) (fun _ _ _ hd => nomatch hd) ?_
  rw [teardown_eq]
  exact Arena.alterEach_rests _ _

theorem Orderly.findOrCreate (hr : r.Orderly) {display : Display} {draw read : Surface}
    {context : Context}
    (hl : (r.findOrCreate display draw read context).2.arena.slots.length < UInt32.size) :
    (r.findOrCreate display draw read context).2.Orderly := by
  rcases hr.findOrCreate_cases display draw read context with
    ⟨h, c, shadow, -, -, -, -, -, he⟩ | ⟨h, c, -, -, -, -, he⟩ | ⟨hn, he⟩
  · rw [he]
    exact hr.handOut h draw read
  · rw [he]
    exact hr
  · rw [he] at hl ⊢
    rw [length_slots_handOut] at hl
    exact (hr.add hn draw read hl).handOut _ draw read

theorem Orderly.evolves_findOrCreate (hr : r.Orderly) {display : Display} {draw read : Surface}
    {context : Context}
    (hl : (r.findOrCreate display draw read context).2.arena.slots.length < UInt32.size) :
    r.Evolves (r.findOrCreate display draw read context).2 := by
  obtain ⟨hadvances, hgenerations⟩ := hr.findOrCreate_advances display draw read context
  constructor
  case orderly => exact hr.findOrCreate hl
  case advances => exact hadvances
  case rests => exact fun i _ => hgenerations i
  case keeps =>
    intro h c d hc hd
    rw [hr.record?_findOrCreate hc] at hd
    split at hd <;> cases hd <;> exact ⟨rfl, rfl⟩
  case comes =>
    intro h hn hs hi
    rcases hi with hi | ⟨-, hlt⟩
    · rw [record?] at hn
      rw [hn] at hi
      cases hi
    · -- The slot has gone on, and what is found in it has its present generation.
      have hne : r.arena.generationAt h.index ≠ h.generation := by
        intro he
        rw [he] at hlt
        exact Nat.lt_irrefl _ hlt
      rw [hr.record?_findOrCreate_none hn hne] at hs
      cases hs

/-- Making a context current is giving back, and asking for its record from there. -/
theorem Orderly.performed_makeCurrent (hr : r.Orderly) (display : Display) (draw read : Surface)
    (context : Context) (current : Option Current) :
    let between := r.between (.makeCurrent display draw read context current)
    r.performed (.makeCurrent display draw read context current) = between ∧
        r.handed (.makeCurrent display draw read context current) = none ∨
      r.performed (.makeCurrent display draw read context current) =
          (between.findOrCreate display draw read context).2 ∧
        r.handed (.makeCurrent display draw read context current) =
          (between.findOrCreate display draw read context).1.toOption := by
  have he := hr.makeCurrent_eq display draw read context current
  unfold performed handed between
  dsimp only
  rw [he]
  by_cases hnone : display = .none ∨ context = .none
  · rw [if_pos hnone, if_neg fun h => h.1 hnone]
    exact .inl ⟨rfl, rfl⟩
  · rw [if_neg hnone]
    by_cases hbusy : r.busyElsewhere display context (current.map Current.handle)
    · rw [if_pos hbusy, if_pos ⟨hnone, hbusy⟩]
      exact .inl ⟨rfl, rfl⟩
    · rw [if_neg hbusy, if_neg fun h => hbusy h.2]
      refine .inr ⟨rfl, ?_⟩
      cases ((r.giveBack current).findOrCreate display draw read context).1 <;> rfl

theorem length_slots_performed (r : Registry) (op : Operation) :
    r.arena.slots.length ≤ (r.performed op).arena.slots.length := by
  cases op with
  | makeCurrent display draw read context current => exact length_slots_makeCurrent ..
  | findOrCreate display draw read context => exact length_slots_findOrCreate ..
  | release current => exact Nat.le_of_eq (length_slots_giveBack r (some current)).symm
  | initDisplay display => exact Nat.le_of_eq (length_slots_initDisplay ..).symm
  | terminateDisplay display caller => exact Nat.le_of_eq (length_slots_mark ..).symm
  | destroyContext display context => exact Nat.le_of_eq (length_slots_mark ..).symm
  | destroySurface display surface => exact Nat.le_of_eq (length_slots_mark ..).symm
  | teardown => exact Nat.le_of_eq (length_slots_teardown r).symm

theorem Orderly.evolves_between (hr : r.Orderly) (op : Operation) : r.Evolves (r.between op) := by
  unfold between
  split
  · split
    · exact hr.evolves_refl
    · exact hr.evolves_giveBack _
  · exact hr.evolves_refl

theorem Orderly.evolves_performed (hr : r.Orderly) (op : Operation)
    (hl : (r.performed op).arena.slots.length < UInt32.size) :
    (r.between op).Evolves (r.performed op) := by
  cases op with
  | makeCurrent display draw read context current =>
    have hbetween := (hr.evolves_between (.makeCurrent display draw read context current)).orderly
    rcases hr.performed_makeCurrent display draw read context current with ⟨he, -⟩ | ⟨he, -⟩
    · rw [he]
      exact hbetween.evolves_refl
    · rw [he] at hl ⊢
      exact hbetween.evolves_findOrCreate hl
  | findOrCreate display draw read context => exact hr.evolves_findOrCreate hl
  | release current => exact hr.evolves_release current
  | initDisplay display => exact hr.evolves_initDisplay display
  | terminateDisplay display caller => exact hr.evolves_mark _
  | destroyContext display context => exact hr.evolves_mark _
  | destroySurface display surface => exact hr.evolves_mark _
  | teardown => exact hr.evolves_teardown

theorem Orderly.finds_of_findOrCreate (hr : r.Orderly) {display : Display} {draw read : Surface}
    {context : Context} {next : Current}
    (hn : (r.findOrCreate display draw read context).1.toOption = some next) :
    next.display = display ∧ next.context = context ∧
      (r.findOrCreate display draw read context).2.Finds next.handle display context := by
  rcases hr.findOrCreate_cases display draw read context with
    ⟨h, c, shadow, hv, rfl, rfl, -, -, he⟩ | ⟨h, c, -, -, -, -, he⟩ | ⟨-, he⟩
  · rw [he] at hn ⊢
    cases hn
    exact ⟨rfl, rfl, _, record?_handOut_self hv draw read, rfl, rfl⟩
  · rw [he] at hn
    cases hn
  · have hv := record?_add_self hr.sound display context draw read
    rw [he] at hn ⊢
    cases hn
    exact ⟨rfl, rfl, _, record?_handOut_self hv draw read, rfl, rfl⟩

theorem Orderly.finds_of_handed (hr : r.Orderly) {op : Operation} {next : Current}
    (hn : r.handed op = some next) : op.AsksFor next.display next.context ∧
      (r.performed op).Finds next.handle next.display next.context := by
  cases op with
  | makeCurrent display draw read context current =>
    rcases hr.performed_makeCurrent display draw read context current with
      ⟨-, hnone⟩ | ⟨he, hhanded⟩
    · rw [hnone] at hn
      cases hn
    · have hbetween :=
        (hr.evolves_between (.makeCurrent display draw read context current)).orderly
      rw [hhanded] at hn
      obtain ⟨rfl, rfl, hf⟩ := hbetween.finds_of_findOrCreate hn
      rw [he]
      exact ⟨⟨rfl, rfl⟩, hf⟩
  | findOrCreate display draw read context =>
    obtain ⟨rfl, rfl, hf⟩ := hr.finds_of_findOrCreate hn
    exact ⟨⟨rfl, rfl⟩, hf⟩
  | _ => cases hn

theorem Orderly.finds_of_matchExisting (hr : r.Orderly) {display : Display}
    {draw read : Surface} {context : Context} {h : Handle}
    (hm : r.matchExisting display draw read context = some h) : r.Finds h display context := by
  obtain ⟨⟨g, c⟩, hf, rfl⟩ := Option.map_eq_some_iff.mp hm
  obtain ⟨hv, hp⟩ := Arena.get?_of_find? hr.sound hf
  simp only [Bool.and_eq_true, decide_eq_true_eq] at hp
  obtain ⟨⟨⟨⟨⟨hdisplay, hcontext⟩, -⟩, -⟩, -⟩, -⟩ := hp
  exact ⟨c, hv, hdisplay, hcontext⟩

/-! The events of one moment -/

theorem made?_eventsTo (r r' : Registry) :
    (r.eventsTo r').filterMap Event.made? = r'.arena.departed r.arena := by
  have hreaped : Event.made? ∘ Event.reaped = fun _ => none := rfl
  have hmade : (Event.made? ∘ fun (h, c) => .made h c.display c.context) =
      some ∘ (Prod.fst : Handle × ContextRecord → Handle) := rfl
  have hcame : r'.arena.departed r.arena =
      (r'.records.filter fun (h, _) => (r.record? h).isNone).map Prod.fst := List.filter_map
  rw [eventsTo, List.filterMap_append, List.filterMap_map, hreaped, List.filterMap_none,
    List.nil_append, List.filterMap_map, hmade, List.filterMap_eq_map, hcame]

theorem countP_eventsTo (r r' : Registry) (i : UInt32) :
    (r.eventsTo r').countP (Event.empties i) =
      (r.arena.departed r'.arena).countP fun h => h.index = i := by
  have hmade : ∀ l : List (Handle × ContextRecord), (l.map fun (h, c) =>
      Event.made h c.display c.context).countP (Event.empties i) = 0 := by
    intro l
    rw [List.countP_map]
    exact List.countP_eq_zero.mpr fun _ _ => Bool.false_ne_true
  rw [eventsTo, List.countP_append, List.countP_map, hmade]
  rfl

theorem reaped_mem_eventsTo (hr : r.arena.Sound) {h : Handle} :
    .reaped h ∈ r.eventsTo r' ↔ (r.record? h).isSome ∧ r'.record? h = none := by
  have hgone : h ∈ r.arena.departed r'.arena ↔ (r.record? h).isSome ∧ r'.record? h = none :=
    Arena.mem_departed hr
  simp [eventsTo, hgone]

theorem made_mem_eventsTo (hr' : r'.arena.Sound) {h : Handle} {display : Display}
    {context : Context} :
    .made h display context ∈ r.eventsTo r' ↔ r.record? h = none ∧ r'.Finds h display context := by
  have hmem : ∀ c, (h, c) ∈ r'.records ↔ r'.record? h = some c := fun c => Arena.mem_entries hr'
  simp only [eventsTo, Finds, List.mem_append, List.mem_map, List.mem_filter, Prod.exists,
    Event.made.injEq, reduceCtorEq, and_false, exists_false, false_or, Option.isNone_iff_eq_none]
  constructor
  · rintro ⟨g, c, ⟨hc, hn⟩, rfl, hdisplay, hcontext⟩
    exact ⟨hn, c, (hmem c).mp hc, hdisplay, hcontext⟩
  · rintro ⟨hn, c, hc, hdisplay, hcontext⟩
    exact ⟨h, c, ⟨(hmem c).mpr hc, hn⟩, rfl, hdisplay, hcontext⟩

/-- Two records that were made under one handle are one. -/
theorem Event.eq_of_made {events : List Event} (hn : (events.filterMap made?).Nodup) {h : Handle}
    {display display' : Display} {context context' : Context}
    (hm : made h display context ∈ events) (hm' : made h display' context' ∈ events) :
    display' = display ∧ context' = context := by
  obtain ⟨earlier, later, rfl⟩ := List.append_of_mem hm
  have hother : ∀ rest : List Event, made h display' context' ∈ rest → h ∈ rest.filterMap made? :=
    fun _ he => List.mem_filterMap.mpr ⟨_, he, rfl⟩
  have hmade : (made h display context :: later).filterMap made? = h :: later.filterMap made? :=
    rfl
  rw [List.filterMap_append, hmade, List.nodup_middle, List.nodup_cons, List.mem_append,
    not_or] at hn
  rcases List.mem_append.mp hm' with he | he
  · exact absurd (hother _ he) hn.1.1
  · rcases List.mem_cons.mp he with he | he
    · cases he
      exact ⟨rfl, rfl⟩
    · exact absurd (hother _ he) hn.1.2

end Registry

namespace Chronicle

open Registry (Operation Event Evolves)

/-! ## Runs -/

variable {s : Chronicle} {r : Registry}

structure Kept (s : Chronicle) : Prop where
  orderly : s.registry.Orderly
  aged : ∀ i, s.registry.arena.generationAt i = UInt32.ofNat (s.reaped i)
  issued : ∀ e ∈ s.events, s.registry.arena.Issued e.handle
  made_once : (s.events.filterMap Event.made?).Nodup
  finds_iff : ∀ h display context, s.registry.Finds h display context ↔
    .made h display context ∈ s.events ∧ .reaped h ∉ s.events

theorem start_kept : Kept {} where
  orderly := Registry.empty_orderly
  aged _ := rfl
  issued _ he := nomatch he
  made_once := List.nodup_nil
  finds_iff h display context := by
    constructor
    · rintro ⟨c, hc, -⟩
      rw [Registry.record?_empty] at hc
      cases hc
    · rintro ⟨hm, -⟩
      cases hm

theorem reaped_note (s : Chronicle) (r : Registry) (i : UInt32) :
    (s.note r).reaped i =
      s.reaped i + (s.registry.arena.departed r.arena).countP fun h => h.index = i := by
  rw [reaped, note, List.countP_append, Registry.countP_eventsTo]
  rfl

theorem note_aged (hs : s.Kept) (he : Evolves s.registry r) (i : UInt32) :
    r.arena.generationAt i = UInt32.ofNat ((s.note r).reaped i) := by
  rw [Arena.generationAt_of_departed hs.orderly.sound he.advances he.rests, hs.aged, reaped_note,
    UInt32.ofNat_add]

theorem note_ages (hs : s.Kept) (he : Evolves s.registry r) (hb : (s.note r).Bounded) :
    s.registry.arena.Ages r.arena := by
  intro i
  have hle : s.reaped i ≤ (s.note r).reaped i := by
    rw [reaped_note]
    exact Nat.le_add_right ..
  have hlt := hb.reaped i
  rw [hs.aged, note_aged hs he, UInt32.toNat_ofNat_of_lt' hlt,
    UInt32.toNat_ofNat_of_lt' (Nat.lt_of_le_of_lt hle hlt)]
  exact hle

theorem note_kept (hs : s.Kept) (he : Evolves s.registry r) (hb : (s.note r).Bounded) :
    (s.note r).Kept := by
  have hages := note_ages hs he hb
  have hsound := hs.orderly.sound
  have hsound' := he.orderly.sound
  constructor
  case orderly => exact he.orderly
  case aged => exact note_aged hs he
  case issued =>
    intro e hm
    rcases List.mem_append.mp hm with hm | hm
    · exact Arena.issued_of_advances he.advances hages (hs.issued e hm)
    · cases e with
      | made h display context =>
        obtain ⟨-, c, hc, -⟩ := (Registry.made_mem_eventsTo hsound').mp hm
        exact .inl (Option.isSome_iff_exists.mpr ⟨c, hc⟩)
      | reaped h =>
        have hfound := ((Registry.reaped_mem_eventsTo hsound).mp hm).1
        exact Arena.issued_of_advances he.advances hages (.inl hfound)
  case made_once =>
    rw [note, List.filterMap_append, Registry.made?_eventsTo]
    refine List.nodup_append'.mpr ⟨hs.made_once, Arena.nodup_departed hsound', ?_⟩
    intro h hm hnew
    obtain ⟨e, hmem, hmade⟩ := List.mem_filterMap.mp hm
    obtain ⟨hfound, hnone⟩ := (Arena.mem_departed hsound').mp hnew
    have hissued := hs.issued e hmem
    cases e with
    | made g display context =>
      cases hmade
      exact he.comes h hnone hfound hissued
    | reaped g => cases hmade
  case finds_iff =>
    intro h display context
    have hmade : .made h display context ∈ s.registry.eventsTo r ↔
        s.registry.record? h = none ∧ r.Finds h display context :=
      Registry.made_mem_eventsTo hsound'
    have hreaped : .reaped h ∈ s.registry.eventsTo r ↔
        (s.registry.record? h).isSome ∧ r.record? h = none :=
      Registry.reaped_mem_eventsTo hsound
    simp only [note, List.mem_append, not_or]
    constructor
    · rintro ⟨d, hd, rfl, rfl⟩
      have hstays : .reaped h ∉ s.registry.eventsTo r := by
        rw [hreaped, hd]
        exact fun hn => nomatch hn.2
      cases hv : s.registry.record? h with
      | some c =>
        obtain ⟨hdisplay, hcontext⟩ := he.keeps h c d hv hd
        obtain ⟨hm, hn⟩ := (hs.finds_iff h d.display d.context).mp
          ⟨c, hv, hdisplay.symm, hcontext.symm⟩
        exact ⟨.inl hm, hn, hstays⟩
      | none =>
        refine ⟨.inr (hmade.mpr ⟨hv, d, hd, rfl, rfl⟩), fun hm => ?_, hstays⟩
        exact he.comes h hv (Option.isSome_iff_exists.mpr ⟨d, hd⟩) (hs.issued _ hm)
    · rintro ⟨hm | hm, hn, hstays⟩
      · obtain ⟨c, hc, rfl, rfl⟩ := (hs.finds_iff h display context).mpr ⟨hm, hn⟩
        cases hv : r.record? h with
        | none => exact absurd (hreaped.mpr ⟨by rw [hc]; rfl, hv⟩) hstays
        | some d =>
          obtain ⟨hdisplay, hcontext⟩ := he.keeps h c d hc hv
          exact ⟨d, hv, hdisplay, hcontext⟩
      · exact (hmade.mp hm).2

/-! What fits in the end fitted all the time -/

theorem bounded_of_note (hb : (s.note r).Bounded)
    (hl : s.registry.arena.slots.length ≤ r.arena.slots.length) : s.Bounded where
  slots := Nat.lt_of_le_of_lt hl hb.slots
  reaped i := by
    have hlt := hb.reaped i
    rw [reaped_note] at hlt
    exact Nat.lt_of_le_of_lt (Nat.le_add_right ..) hlt

theorem perform_kept (hs : s.Kept) (op : Operation) (hb : (s.perform op).Bounded) :
    (s.perform op).Kept := by
  have hlast := hs.orderly.evolves_performed op hb.slots
  have hfirst := hs.orderly.evolves_between op
  exact note_kept (note_kept hs hfirst (bounded_of_note hb hlast.advances.length_le)) hlast hb

theorem bounded_of_perform {op : Operation} (hb : (s.perform op).Bounded) : s.Bounded where
  slots := Nat.lt_of_le_of_lt (s.registry.length_slots_performed op) hb.slots
  reaped i := by
    have hlt := hb.reaped i
    rw [perform, reaped_note, reaped_note] at hlt
    omega

theorem bounded_of_run {ops : List Operation} (hb : (s.run ops).Bounded) : s.Bounded := by
  induction ops generalizing s with
  | nil => exact hb
  | cons op ops ih => exact bounded_of_perform (ih hb)

theorem run_kept (hs : s.Kept) (ops : List Operation) (hb : (s.run ops).Bounded) :
    (s.run ops).Kept := by
  induction ops generalizing s with
  | nil => exact hs
  | cons op ops ih => exact ih (perform_kept hs op (bounded_of_run hb)) hb

theorem events_run (s : Chronicle) (ops : List Operation) : s.events ⊆ (s.run ops).events := by
  induction ops generalizing s with
  | nil => exact List.Subset.refl _
  | cons op ops ih =>
    refine List.Subset.trans ?_ (ih (s.perform op))
    intro e he
    exact List.mem_append_left _ (List.mem_append_left _ he)

theorem Kept.identifies (hs : s.Kept) : s.Identifies := by
  have hsound := hs.orderly.sound
  constructor
  case count_eq => exact hsound.count_eq
  case count_vacant => exact fun n slot => hsound.count_vacant
  case vacant_lt =>
    intro i hi
    obtain ⟨g, hg⟩ := (hsound.mem_vacant i).mp hi
    exact (List.getElem?_eq_some_iff.mp hg).1
  case handed => exact fun op next => hs.orderly.finds_of_handed
  case matched => exact fun _ _ _ _ _ => hs.orderly.finds_of_matchExisting
  case listed => exact fun h c => Arena.mem_entries hsound
  case made_once => exact hs.made_once
  case finds_iff => exact hs.finds_iff
  case same =>
    intro h display context hm ops hb c hc
    have hrun := run_kept hs ops hb
    have hmade := ((hrun.finds_iff h c.display c.context).mp ⟨c, hc, rfl, rfl⟩).1
    exact Event.eq_of_made hrun.made_once (s.events_run ops hm) hmade
  case gone =>
    intro h hm ops hb
    have hrun := run_kept hs ops hb
    cases hc : (s.run ops).registry.record? h with
    | none => rfl
    | some c =>
      have hnot := ((hrun.finds_iff h c.display c.context).mp ⟨c, hc, rfl, rfl⟩).2
      exact absurd (s.events_run ops hm) hnot

/-- Whatever is done with a new registry, its slots are in order, and a handle
stands for one record and no other. -/
theorem run_identifies (ops : List Operation) (hb : (run {} ops).Bounded) :
    (run {} ops).Identifies :=
  (run_kept start_kept ops hb).identifies

theorem bounded_of_length (hs : s.registry.arena.slots.length < UInt32.size)
    (he : s.events.length < UInt32.size) : s.Bounded where
  slots := hs
  reaped _ := Nat.lt_of_le_of_lt List.countP_le_length he

/-- A context is remade as it goes, and after a teardown one that it took is handed back twice. -/
def relapsing : List Operation :=
  [.makeCurrent ⟨1⟩ ⟨3⟩ ⟨3⟩ ⟨7⟩ none, .findOrCreate ⟨1⟩ ⟨4⟩ ⟨4⟩ ⟨8⟩, .destroyContext ⟨1⟩ ⟨7⟩,
    .makeCurrent ⟨1⟩ ⟨3⟩ ⟨3⟩ ⟨7⟩ (some ⟨⟨0, 0⟩, ⟨1⟩, ⟨7⟩, ⟨3⟩, ⟨3⟩, .fresh⟩), .teardown,
    .release ⟨⟨1, 0⟩, ⟨1⟩, ⟨8⟩, ⟨4⟩, ⟨4⟩, .fresh⟩, .findOrCreate ⟨1⟩ ⟨4⟩ ⟨4⟩ ⟨8⟩,
    .release ⟨⟨1, 0⟩, ⟨1⟩, ⟨8⟩, ⟨4⟩, ⟨4⟩, .fresh⟩]

theorem run_identifies_of_relapsing :
    (run {} relapsing).Bounded ∧
    (run {} relapsing).events =
      [.made ⟨0, 0⟩ ⟨1⟩ ⟨7⟩, .made ⟨1, 0⟩ ⟨1⟩ ⟨8⟩, .reaped ⟨0, 0⟩, .made ⟨0, 1⟩ ⟨1⟩ ⟨7⟩,
        .reaped ⟨0, 1⟩, .reaped ⟨1, 0⟩, .made ⟨1, 1⟩ ⟨1⟩ ⟨8⟩] ∧
    (run {} relapsing).Identifies := by
  have he : (run {} relapsing).events =
      [.made ⟨0, 0⟩ ⟨1⟩ ⟨7⟩, .made ⟨1, 0⟩ ⟨1⟩ ⟨8⟩, .reaped ⟨0, 0⟩, .made ⟨0, 1⟩ ⟨1⟩ ⟨7⟩,
        .reaped ⟨0, 1⟩, .reaped ⟨1, 0⟩, .made ⟨1, 1⟩ ⟨1⟩ ⟨8⟩] := by decide +kernel
  have hb : (run {} relapsing).Bounded :=
    bounded_of_length (by decide +kernel) (by rw [he]; decide)
  exact ⟨hb, he, run_identifies relapsing hb⟩

end Chronicle

end RenderRelay
