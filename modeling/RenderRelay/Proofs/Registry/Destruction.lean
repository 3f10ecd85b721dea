import RenderRelay.Proofs.Registry.Reachable

/-!
# Destruction

Nothing takes a record or its surfaces from its holder but a teardown. What
was destroyed meanwhile is noted, and nothing else is; once the holder lets go
it takes effect, and on idle records it does so at once.
-/

set_option autoImplicit false

namespace RenderRelay

def ContextRecord.handedBack (c : ContextRecord) (shadow : Shadow) : Option ContextRecord :=
  if c.doom.display ∨ c.doom.context then none
  else some { c with
    active := false
    draw := if c.doom.draw then .none else c.draw
    read := if c.doom.read then .none else c.read
    doom := {}
    shadow := some shadow }

def Registry.removed (r r' : Registry) : Nat :=
  r.records.countP fun (h, _) => (r'.record? h).isNone

namespace Tenancy

structure Exact (s : Tenancy) : Prop where
  idle : ∀ h c, s.registry.record? h = some c → c.active = false → c.doom = {}
  /-- An active record has a holder, and stays as it is until that lets go. -/
  stays : ∀ h c, s.registry.record? h = some c → c.active = true →
    ∃ k x, s.held k = some x ∧ x.current.handle = h ∧ ∀ a, a ≠ .teardown → ¬ a.letsGo k →
      ∃ doom, (s.perform a).registry.record? h = some { c with doom }
  context_iff : ∀ k x c, s.held k = some x → s.registry.record? x.current.handle = some c →
    (c.doom.context = true ↔ ∃ deed ∈ x.since, deed.act = .destroyContext c.display c.context)
  draw_iff : ∀ k x c, s.held k = some x → s.registry.record? x.current.handle = some c →
    (c.doom.draw = true ↔ ∃ deed ∈ x.since, deed.act = .destroySurface c.display c.draw)
  read_iff : ∀ k x c, s.held k = some x → s.registry.record? x.current.handle = some c →
    (c.doom.read = true ↔ ∃ deed ∈ x.since, deed.act = .destroySurface c.display c.read)
  display_iff : ∀ k x c, s.held k = some x → s.registry.record? x.current.handle = some c →
    (c.doom.display = true ↔ ∃ later deed earlier, x.since = later ++ deed :: earlier ∧
      (∃ caller, deed.act = .terminateDisplay caller c.display) ∧ deed.own = true ∧
      ∀ d ∈ later, d.act ≠ .initDisplay c.display)
  released : ∀ w x c, s.held (.worker w) = some x →
    s.registry.record? x.current.handle = some c →
    (s.perform (.release w)).registry.record? x.current.handle = c.handedBack x.current.shadow
  /-- A context that is active elsewhere is refused. -/
  refused : ∀ w x g d draw read, s.held (.worker w) = some x → s.registry.record? g = some d →
    d.active = true → g ≠ x.current.handle → d.display ≠ .none → d.context ≠ .none →
    (s.perform (.makeCurrent w d.display draw read d.context)).registry = s.registry ∧
    (s.perform (.makeCurrent w d.display draw read d.context)).currentOf w = some x.current
  /-- Else the holder lets go, and may get the same record again. -/
  remade : ∀ w x c display draw read context, s.held (.worker w) = some x →
    s.registry.record? x.current.handle = some c →
    (display = .none ∨ context = .none ∨ ∀ g d, s.registry.record? g = some d →
      d.display = display → d.context = context → d.active = true → g = x.current.handle) →
    (s.perform (.makeCurrent w display draw read context)).registry.record? x.current.handle =
      (c.handedBack x.current.shadow).map fun d =>
        if display ≠ .none ∧ context ≠ .none ∧ d.display = display ∧ d.context = context then
          { d with active := true, draw, read, shadow := none }
        else d
  terminated : ∀ caller display,
    (s.registry.terminateDisplay display (caller.bind s.currentOf)).1 =
      s.registry.removed (s.perform (.terminateDisplay caller display)).registry ∧
    ∀ h c, s.registry.record? h = some c → c.active = false →
      (s.perform (.terminateDisplay caller display)).registry.record? h =
        if c.display = display then none else some c
  contextDestroyed : ∀ display context,
    (s.registry.destroyContext display context).1 =
      s.registry.removed (s.perform (.destroyContext display context)).registry ∧
    ∀ h c, s.registry.record? h = some c → c.active = false →
      (s.perform (.destroyContext display context)).registry.record? h =
        if c.display = display ∧ c.context = context then none else some c
  surfaceDestroyed : ∀ display surface h c, s.registry.record? h = some c → c.active = false →
    (s.perform (.destroySurface display surface)).registry.record? h = some { c with
      draw := if c.display = display ∧ c.draw = surface then .none else c.draw
      read := if c.display = display ∧ c.read = surface then .none else c.read }

/-! What the deeds say -/

variable {current : Current} {since : List Deed}

theorem flag_iff (flag : Doom → Bool) {a : Act} (hz : flag {} = false)
    (hstep : ∀ deed doom, flag (Deed.destroys current deed doom) = true ↔
      deed.act = a ∨ flag doom = true) :
    flag (doomOf current since) = true ↔ ∃ deed ∈ since, deed.act = a := by
  induction since with
  | nil => simp [doomOf, hz]
  | cons deed since ih =>
    have hcons : doomOf current (deed :: since) = deed.destroys current (doomOf current since) :=
      rfl
    rw [hcons, hstep, ih]
    simp only [List.mem_cons, exists_eq_or_imp]

theorem doomOf_context_iff : (doomOf current since).context = true ↔
    ∃ deed ∈ since, deed.act = .destroyContext current.display current.context := by
  apply flag_iff Doom.context rfl
  rintro ⟨act, own⟩ doom
  unfold Deed.destroys
  cases act with
  | destroyContext display context =>
    by_cases hcond : current.display = display ∧ current.context = context
    · obtain ⟨rfl, rfl⟩ := hcond
      simp
    · have hne : Act.destroyContext display context ≠
          .destroyContext current.display current.context := by
        intro he
        cases he
        exact hcond ⟨rfl, rfl⟩
      simp [hcond, hne]
  | initDisplay | terminateDisplay | destroySurface =>
    dsimp only
    split <;> simp
  | _ => simp

theorem destroys_surface_iff (deed : Deed) (doom : Doom) :
    ((deed.destroys current doom).draw = true ↔
      deed.act = .destroySurface current.display current.draw ∨ doom.draw = true) ∧
    ((deed.destroys current doom).read = true ↔
      deed.act = .destroySurface current.display current.read ∨ doom.read = true) := by
  obtain ⟨act, own⟩ := deed
  unfold Deed.destroys
  cases act with
  | destroySurface display surface =>
    have hdraw : surface = current.draw ↔ current.draw = surface := eq_comm
    have hread : surface = current.read ↔ current.read = surface := eq_comm
    by_cases hd : current.display = display
    · subst hd
      simp [or_comm, hdraw, hread]
    · simp [hd, Ne.symm hd]
  | initDisplay | terminateDisplay | destroyContext =>
    dsimp only
    split <;> simp
  | _ => simp

theorem doomOf_draw_iff : (doomOf current since).draw = true ↔
    ∃ deed ∈ since, deed.act = .destroySurface current.display current.draw :=
  flag_iff Doom.draw rfl fun deed doom => (destroys_surface_iff deed doom).1

theorem doomOf_read_iff : (doomOf current since).read = true ↔
    ∃ deed ∈ since, deed.act = .destroySurface current.display current.read :=
  flag_iff Doom.read rfl fun deed doom => (destroys_surface_iff deed doom).2

/-- The display was terminated by its holder, and did not come up again. -/
def Terminated (display : Display) (since : List Deed) : Prop :=
  ∃ later deed earlier, since = later ++ deed :: earlier ∧
    (∃ caller, deed.act = .terminateDisplay caller display) ∧ deed.own = true ∧
    ∀ d ∈ later, d.act ≠ .initDisplay display

theorem terminated_cons {display : Display} {deed : Deed} {earlier : List Deed} :
    Terminated display (deed :: earlier) ↔
      ((∃ caller, deed.act = .terminateDisplay caller display) ∧ deed.own = true) ∨
      (deed.act ≠ .initDisplay display ∧ Terminated display earlier) := by
  constructor
  · rintro ⟨later, d, rest, he, hact, hown, hlater⟩
    cases later with
    | nil =>
      cases he
      exact .inl ⟨hact, hown⟩
    | cons first later =>
      cases he
      exact .inr ⟨hlater _ List.mem_cons_self, later, d, rest, rfl, hact, hown,
        fun e he => hlater e (List.mem_cons_of_mem _ he)⟩
  · rintro (⟨hact, hown⟩ | ⟨hne, later, d, rest, rfl, hact, hown, hlater⟩)
    · exact ⟨[], deed, earlier, rfl, hact, hown, fun _ he => absurd he List.not_mem_nil⟩
    · refine ⟨deed :: later, d, rest, rfl, hact, hown, ?_⟩
      intro e he
      rcases List.mem_cons.mp he with rfl | he
      · exact hne
      · exact hlater e he

theorem doomOf_display_iff :
    (doomOf current since).display = true ↔ Terminated current.display since := by
  induction since with
  | nil =>
    constructor
    · intro hd
      cases hd
    · rintro ⟨later, deed, earlier, he, -⟩
      exact absurd he.symm (by simp)
  | cons deed since ih =>
    have hcons : doomOf current (deed :: since) = deed.destroys current (doomOf current since) :=
      rfl
    rw [hcons, terminated_cons, ← ih]
    obtain ⟨act, own⟩ := deed
    unfold Deed.destroys
    cases act with
    | initDisplay display =>
      by_cases hd : current.display = display
      · simp [hd]
      · simp [hd, Ne.symm hd]
    | terminateDisplay caller display =>
      by_cases hd : current.display = display
      · by_cases ho : own = true
        · simp [hd, ho]
        · simp [hd, ho]
      · simp [hd, Ne.symm hd]
    | destroyContext | destroySurface =>
      dsimp only
      split <;> simp
    | _ => simp

/-! What one act does to one record -/

variable {s : Tenancy}

theorem handedBack_eq (c : ContextRecord) (shadow : Shadow) :
    (c.returned shadow).outcome = c.handedBack shadow := by
  rw [ContextRecord.returned_outcome, ContextRecord.handedBack]
  by_cases hr : c.doom.reaps
  · have hor : c.doom.display ∨ c.doom.context := Bool.or_eq_true_iff.mp hr
    rw [if_pos hr, if_pos hor]
  · have hor : ¬ (c.doom.display ∨ c.doom.context) := fun h => hr (Bool.or_eq_true_iff.mpr h)
    have hdoom := ContextRecord.doom_settled (c := c.returned shadow) (Bool.eq_false_iff.mpr hr)
    have hsettled : (c.returned shadow).settled =
        { (c.returned shadow).settled with doom := (c.returned shadow).settled.doom } := rfl
    rw [if_neg hr, if_neg hor, hsettled, hdoom]
    rfl

theorem record?_release_self {r : Registry} {own : Current} {c : ContextRecord}
    (hv : r.record? own.handle = some c) :
    (r.release own).record? own.handle = c.handedBack own.shadow := by
  have hv : r.arena.get? own.handle = some c := hv
  rw [Registry.release_eq, Registry.record?]
  dsimp only
  rw [Arena.get?_alter, if_pos rfl, hv]
  exact handedBack_eq c own.shadow

theorem record?_giveBack_of_ne {r : Registry} {current : Option Current} {h : Handle}
    (hh : ∀ own, current = some own → h ≠ own.handle) :
    (r.giveBack current).record? h = r.record? h := by
  cases current with
  | none => rfl
  | some own => exact Registry.record?_release_of_ne (hh own rfl)

theorem Coherent.currentOf_ne (hc : Coherent s.registry s.held) {k : Holder} {x : Holding}
    (hk : s.held k = some x) {w : Nat} (hkw : k ≠ .worker w) :
    ∀ own, s.currentOf w = some own → x.current.handle ≠ own.handle := by
  intro own hown he
  obtain ⟨y, hy, rfl⟩ := currentOf_eq_some_iff.mp hown
  exact hkw (hc.apart k _ x y hk hy he)

theorem Coherent.stays (hc : Coherent s.registry s.held) {k : Holder} {x : Holding}
    {c : ContextRecord} (hk : s.held k = some x)
    (hv : s.registry.record? x.current.handle = some c) {a : Act} (ha : a ≠ .teardown)
    (hgo : ¬ a.letsGo k) :
    ∃ doom, (s.perform a).registry.record? x.current.handle = some { c with doom } := by
  have hactive := (hc.agrees k x c hk hv).active
  have hidle : ∀ display context, ¬ (c.active = false ∧ c.display = display ∧
      c.context = context) := by
    rintro display context ⟨hf, -⟩
    rw [hactive] at hf
    cases hf
  have hmark : ∀ doomed, ∃ doom,
      (s.registry.mark doomed).2.record? x.current.handle = some { c with doom } := by
    intro doomed
    refine ⟨c.doom.union ((doomed x.current.handle c).getD {}), ?_⟩
    rw [(Registry.mark_transforms hc.orderly.sound doomed).record?, hv]
    exact Registry.destroyed_of_active hactive
  show ∃ doom, (s.outcome a).1.record? x.current.handle = some { c with doom }
  cases a with
  | makeCurrent w display draw read context =>
    have hgive : (s.registry.giveBack (s.currentOf w)).record? x.current.handle = some c := by
      rw [record?_giveBack_of_ne (hc.currentOf_ne hk hgo), hv]
    rcases outcome_makeCurrent hc.orderly w display draw read context with
      ⟨-, he⟩ | ⟨-, -, he⟩ | ⟨-, -, he⟩
    · rw [he]
      exact ⟨c.doom, hgive⟩
    · rw [he]
      exact ⟨c.doom, hv⟩
    · rw [he]
      refine ⟨c.doom, ?_⟩
      dsimp only
      rw [(hc.orderly.giveBack _).record?_findOrCreate hgive, if_neg (hidle display context)]
  | findOrCreate w display draw read context =>
    refine ⟨c.doom, ?_⟩
    cases hw : s.held (.worker w) with
    | none =>
      rw [outcome_findOrCreate_of_none hw]
      dsimp only
      rw [hc.orderly.record?_findOrCreate hv, if_neg (hidle display context)]
    | some y =>
      rw [outcome_findOrCreate_of_some hw]
      exact hv
  | release w =>
    refine ⟨c.doom, ?_⟩
    exact (record?_giveBack_of_ne (hc.currentOf_ne hk hgo)).trans hv
  | drop w => exact ⟨c.doom, hv⟩
  | use w shadow => exact ⟨c.doom, hv⟩
  | initDisplay display =>
    refine ⟨(Registry.revived display c).doom, ?_⟩
    have hr := (Registry.initDisplay_transforms hc.orderly.sound display).record? x.current.handle
    rw [hv] at hr
    exact hr
  | terminateDisplay caller display => exact hmark _
  | destroyContext display context => exact hmark _
  | destroySurface display surface => exact hmark _
  | teardown => exact absurd rfl ha

theorem Coherent.remade (hc : Coherent s.registry s.held) {w : Nat} {x : Holding}
    {c : ContextRecord} (hw : s.held (.worker w) = some x)
    (hv : s.registry.record? x.current.handle = some c) (display : Display) (draw read : Surface)
    (context : Context)
    (hfree : display = .none ∨ context = .none ∨ ∀ g d, s.registry.record? g = some d →
      d.display = display → d.context = context → d.active = true → g = x.current.handle) :
    (s.perform (.makeCurrent w display draw read context)).registry.record? x.current.handle =
      (c.handedBack x.current.shadow).map fun d =>
        if display ≠ .none ∧ context ≠ .none ∧ d.display = display ∧ d.context = context then
          { d with active := true, draw, read, shadow := none }
        else d := by
  have hcur : s.currentOf w = some x.current := currentOf_eq_some_iff.mpr ⟨x, hw, rfl⟩
  have hgive : (s.registry.giveBack (s.currentOf w)).record? x.current.handle =
      c.handedBack x.current.shadow := by
    rw [hcur]
    exact record?_release_self hv
  show (s.outcome _).1.record? x.current.handle = _
  rcases outcome_makeCurrent hc.orderly w display draw read context with
    ⟨hnone, he⟩ | ⟨hsome, hb, -⟩ | ⟨hsome, -, he⟩
  · have hid : ∀ d : ContextRecord, ¬ (display ≠ .none ∧ context ≠ .none ∧ d.display = display ∧
        d.context = context) := by
      rintro d ⟨hdis, hcon, -⟩
      rcases hnone with hn | hn
      · exact hdis hn
      · exact hcon hn
    rw [he]
    dsimp only
    rw [hgive]
    cases c.handedBack x.current.shadow with
    | none => rfl
    | some d => rw [Option.map_some, if_neg (hid d)]
  · obtain ⟨g, d, hg, hdis, hcon, ha, hne⟩ := hc.orderly.busyElsewhere_iff.mp hb
    rcases hfree with hn | hn | hf
    · exact absurd (.inl hn) hsome
    · exact absurd (.inr hn) hsome
    · rw [hcur, hf g d hg hdis hcon ha] at hne
      exact absurd rfl hne
  · obtain ⟨hdisplay, hcontext⟩ := not_or.mp hsome
    have hor := hc.orderly.giveBack (s.currentOf w)
    rw [he]
    dsimp only
    cases ho : c.handedBack x.current.shadow with
    | none =>
      -- The record went, so its slot has gone on and the handle finds nothing new.
      rw [ho] at hgive
      have hgen : (s.registry.giveBack (s.currentOf w)).arena.generationAt x.current.handle.index =
          x.current.handle.generation + 1 := by
        have hs : (s.registry.arena.get? x.current.handle).isSome :=
          Option.isSome_iff_exists.mpr ⟨c, hv⟩
        rcases (Registry.giveBack_advances hc.orderly.sound (s.currentOf w)).retires _ hs with
          hf | hg
        · have hn : ((s.registry.giveBack (s.currentOf w)).record? x.current.handle).isSome := hf
          rw [hgive] at hn
          cases hn
        · exact hg
      refine hor.record?_findOrCreate_none hgive ?_ display draw read context
      rw [hgen]
      simp
    | some d =>
      have hidle : d.active = false := by
        unfold ContextRecord.handedBack at ho
        split at ho
        · cases ho
        · cases ho
          rfl
      rw [ho] at hgive
      rw [hor.record?_findOrCreate hgive, Option.map_some]
      by_cases hm : d.display = display ∧ d.context = context
      · rw [if_pos ⟨hidle, hm⟩, if_pos ⟨hdisplay, hcontext, hm⟩]
        rfl
      · rw [if_neg fun h => hm h.2, if_neg fun h => hm h.2.2]

/-! Destroying at once -/

theorem mark_removed {r : Registry} (hr : r.arena.Sound)
    (doomed : Handle → ContextRecord → Option Doom) :
    (r.mark doomed).1 = r.removed (r.mark doomed).2 := by
  rw [Registry.mark_count hr, Registry.removed]
  apply List.countP_congr
  rintro ⟨h, c⟩ hm
  have hv : r.record? h = some c := (Arena.mem_entries hr).mp hm
  dsimp only
  rw [(Registry.mark_transforms hr doomed).record?, hv]
  rfl

/-- An idle record of which something is noted that takes it goes at once. -/
theorem record?_mark_of_reaps {r : Registry} (hr : r.Orderly) {h : Handle} {c : ContextRecord}
    (hv : r.record? h = some c) (ha : c.active = false) {p : Prop} [Decidable p] {d : Doom}
    (hd : d.reaps = true) {doomed : Handle → ContextRecord → Option Doom}
    (hp : doomed h c = if p then some d else none) :
    (r.mark doomed).2.record? h = if p then none else some c := by
  rw [(Registry.mark_transforms hr.sound doomed).record?, hv]
  show Registry.destroyed doomed h c = _
  rw [Registry.destroyed_of_idle ha, hp]
  by_cases hcond : p
  · have hreaps : (c.marked d).doom.reaps = true := by
      rw [ContextRecord.marked, (hr.tidy h c hv).idle ha]
      simpa [Doom.union] using hd
    rw [if_pos hcond, if_pos hcond]
    exact if_pos hreaps
  · rw [if_neg hcond, if_neg hcond]

theorem record?_destroySurface {r : Registry} (hr : r.Orderly) {h : Handle} {c : ContextRecord}
    (hv : r.record? h = some c) (ha : c.active = false) (display : Display) (surface : Surface) :
    (r.destroySurface display surface).record? h = some { c with
      draw := if c.display = display ∧ c.draw = surface then .none else c.draw
      read := if c.display = display ∧ c.read = surface then .none else c.read } := by
  have hdoom := (hr.tidy h c hv).idle ha
  rw [Registry.destroySurface, (Registry.mark_transforms hr.sound _).record?, hv, Option.bind_some,
    Registry.destroyed_of_idle ha]
  by_cases hd : c.display = display
  · by_cases hs : c.draw = surface ∨ c.read = surface
    · rw [if_pos ⟨hd, hs⟩]
      simp [ContextRecord.marked, ContextRecord.settled, Doom.union, Doom.reaps, hdoom, hd]
    · obtain ⟨hdraw, hread⟩ := not_or.mp hs
      rw [if_neg fun h => hs h.2]
      simp [hdraw, hread]
  · rw [if_neg fun h => hd h.1]
    simp [hd]

theorem Coherent.exact (hc : Coherent s.registry s.held) : s.Exact := by
  constructor
  case idle =>
    intro h c hv
    exact (hc.orderly.tidy h c hv).idle
  case stays =>
    intro h c hv ha
    obtain ⟨k, x, hk, rfl⟩ := hc.owned h c hv ha
    exact ⟨k, x, hk, rfl, fun a hne hgo => hc.stays hk hv hne hgo⟩
  case context_iff =>
    intro k x c hk hv
    have ha := hc.agrees k x c hk hv
    rw [ha.doom, ← ha.display, ← ha.context]
    exact doomOf_context_iff
  case draw_iff =>
    intro k x c hk hv
    have ha := hc.agrees k x c hk hv
    rw [ha.doom, ← ha.display, ← ha.draw]
    exact doomOf_draw_iff
  case read_iff =>
    intro k x c hk hv
    have ha := hc.agrees k x c hk hv
    rw [ha.doom, ← ha.display, ← ha.read]
    exact doomOf_read_iff
  case display_iff =>
    intro k x c hk hv
    have ha := hc.agrees k x c hk hv
    rw [ha.doom, ← ha.display]
    exact doomOf_display_iff
  case released =>
    intro w x c hw hv
    have hcur : s.currentOf w = some x.current := currentOf_eq_some_iff.mpr ⟨x, hw, rfl⟩
    show (s.registry.giveBack (s.currentOf w)).record? x.current.handle = _
    rw [hcur]
    exact record?_release_self hv
  case refused =>
    intro w x g d draw read hw hg ha hne hdis hcon
    have hcur : s.currentOf w = some x.current := currentOf_eq_some_iff.mpr ⟨x, hw, rfl⟩
    have hbusy : s.registry.busyElsewhere d.display d.context
        ((s.currentOf w).map Current.handle) = true := by
      rw [hcur]
      exact hc.orderly.busyElsewhere_iff.mpr
        ⟨g, d, hg, rfl, rfl, ha, fun e => hne (Option.some.inj e)⟩
    show (s.outcome _).1 = s.registry ∧ ((s.outcome _).2 (.worker w)).map Holding.current = _
    rcases outcome_makeCurrent hc.orderly w d.display draw read d.context with
      ⟨hnone, -⟩ | ⟨-, -, he⟩ | ⟨-, hb, -⟩
    · rcases hnone with hn | hn
      · exact absurd hn hdis
      · exact absurd hn hcon
    · rw [he]
      refine ⟨rfl, ?_⟩
      dsimp only
      rw [witnessed, hw]
      rfl
    · rw [hbusy] at hb
      cases hb
  case remade =>
    intro w x c display draw read context hw hv hfree
    exact hc.remade hw hv display draw read context hfree
  case terminated =>
    intro caller display
    refine ⟨mark_removed hc.orderly.sound _, ?_⟩
    intro h c hv ha
    refine record?_mark_of_reaps hc.orderly hv ha (d := { display := true }) rfl ?_
    simp [ha]
  case contextDestroyed =>
    intro display context
    refine ⟨mark_removed hc.orderly.sound _, ?_⟩
    intro h c hv ha
    exact record?_mark_of_reaps hc.orderly hv ha (d := { context := true }) rfl rfl
  case surfaceDestroyed =>
    intro display surface h c hv ha
    exact record?_destroySurface hc.orderly hv ha display surface

/-- Whatever is done with a new registry, what was destroyed is known exactly. -/
theorem run_exact (acts : List Act) (hb : (run {} acts).Bounded) : (run {} acts).Exact :=
  (run_kept start_kept acts hb).coherent.exact

/-- The display goes and comes back while one of its contexts is current, but
not so the surface. -/
def revival : List Act :=
  [.makeCurrent 0 ⟨1⟩ ⟨3⟩ ⟨4⟩ ⟨7⟩, .terminateDisplay (some 0) ⟨1⟩, .destroySurface ⟨1⟩ ⟨3⟩,
    .initDisplay ⟨1⟩]

theorem run_exact_of_revival :
    (run {} revival).Bounded ∧
    ((run {} revival).registry.record? ⟨0, 0⟩).map ContextRecord.doom = some { draw := true } ∧
    (run {} revival).Exact := by
  have hb := bounded_of_length revival (by decide +kernel) (by decide)
  exact ⟨hb, by decide +kernel, run_exact revival hb⟩

end Tenancy

end RenderRelay
