import RenderRelay.Proofs.Registry.Reachable

/-!
# Currency

After any acts of any workers a context has one record at most. The record is
active just when one holder has it, which then knows it with its surfaces, and
the shadow is with that holder instead of the record. Only a teardown takes a
record from under a holder.
-/

set_option autoImplicit false

namespace RenderRelay.Tenancy

structure Exclusive (s : Tenancy) : Prop where
  single : ∀ g h c d, s.registry.record? g = some c → s.registry.record? h = some d →
    c.display = d.display → c.context = d.context → g = h
  active_iff : ∀ h c, s.registry.record? h = some c →
    (c.active = true ↔ ∃! k, ∃ x, s.held k = some x ∧ x.current.handle = h)
  equal : ∀ k x c, s.held k = some x → s.registry.record? x.current.handle = some c →
    x.current.display = c.display ∧ x.current.context = c.context ∧
      x.current.draw = c.draw ∧ x.current.read = c.read
  shadow_iff : ∀ h c, s.registry.record? h = some c → (c.shadow.isSome = true ↔ c.active = false)
  torn : ∀ k x, s.held k = some x → s.registry.record? x.current.handle = none →
    ∃ deed ∈ x.since, deed.act = .teardown
  apart : ∀ k l x y, s.held k = some x → s.held l = some y →
    (s.registry.record? x.current.handle).isSome → (s.registry.record? y.current.handle).isSome →
    x.current.display = y.current.display → x.current.context = y.current.context → k = l

variable {s : Tenancy}

theorem Coherent.active_iff (hc : Coherent s.registry s.held) {h : Handle} {c : ContextRecord}
    (hv : s.registry.record? h = some c) :
    c.active = true ↔ ∃! k, ∃ x, s.held k = some x ∧ x.current.handle = h := by
  constructor
  · intro ha
    obtain ⟨k, x, hk, hx⟩ := hc.owned h c hv ha
    refine ⟨k, ⟨x, hk, hx⟩, ?_⟩
    rintro l ⟨y, hl, hy⟩
    exact hc.apart l k y x hl hk (hy.trans hx.symm)
  · rintro ⟨k, ⟨x, hk, rfl⟩, -⟩
    exact (hc.agrees k x c hk hv).active

theorem Coherent.exclusive (hc : Coherent s.registry s.held) : s.Exclusive := by
  constructor
  case single => exact hc.orderly.single
  case active_iff =>
    intro h c hv
    exact hc.active_iff hv
  case equal =>
    intro k x c hk hv
    have ha := hc.agrees k x c hk hv
    exact ⟨ha.display, ha.context, ha.draw, ha.read⟩
  case shadow_iff =>
    intro h c hv
    rw [(hc.orderly.tidy h c hv).shadow, Bool.not_eq_true']
  case torn => exact hc.torn
  case apart =>
    intro k l x y hk hl hx hy hdis hcon
    obtain ⟨c, hx⟩ := Option.isSome_iff_exists.mp hx
    obtain ⟨d, hy⟩ := Option.isSome_iff_exists.mp hy
    have hxc := hc.agrees k x c hk hx
    have hyd := hc.agrees l y d hl hy
    have hsame : x.current.handle = y.current.handle :=
      hc.orderly.single _ _ c d hx hy (by rw [← hxc.display, ← hyd.display, hdis])
        (by rw [← hxc.context, ← hyd.context, hcon])
    exact hc.apart k l x y hk hl hsame

/-- Whatever is done with a new registry, who has which context is as the
records say. -/
theorem run_exclusive (acts : List Act) (hb : (run {} acts).Bounded) : (run {} acts).Exclusive :=
  (run_kept start_kept acts hb).coherent.exclusive

/-- A context is destroyed while it is current and its slot is let again; then
another is lost, and everything is torn down but one context. -/
def relet : List Act :=
  [.makeCurrent 0 ⟨1⟩ ⟨3⟩ ⟨4⟩ ⟨7⟩, .makeCurrent 1 ⟨1⟩ ⟨3⟩ ⟨3⟩ ⟨8⟩, .destroyContext ⟨1⟩ ⟨7⟩,
    .makeCurrent 1 ⟨1⟩ ⟨3⟩ ⟨3⟩ ⟨7⟩, .release 0, .findOrCreate 0 ⟨1⟩ ⟨3⟩ ⟨3⟩ ⟨7⟩, .drop 1,
    .teardown, .makeCurrent 1 ⟨1⟩ ⟨3⟩ ⟨3⟩ ⟨7⟩]

theorem run_exclusive_of_relet :
    (run {} relet).Bounded ∧
    ((run {} relet).held (.worker 0)).map (fun x => x.current.handle) = some ⟨0, 1⟩ ∧
    ((run {} relet).held (.lost 6)).map (fun x => x.current.handle) = some ⟨1, 0⟩ ∧
    ((run {} relet).held (.worker 1)).map (fun x => x.current.handle) = some ⟨1, 1⟩ ∧
    (run {} relet).Exclusive := by
  have hb := bounded_of_length relet (by decide +kernel) (by decide)
  exact ⟨hb, by decide +kernel, by decide +kernel, by decide +kernel, run_exclusive relet hb⟩

end RenderRelay.Tenancy
