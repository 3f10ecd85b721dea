import RenderRelay.Proofs.Registry.Tenancy

/-!
# Records and what is out agree at all times

Every act is made of a few kinds of change: something happens to each record
and is noted by every holder, one holder lets go, a record is handed out to a
holder that has none, a record is added, and what is out passes to another
holder. Each of them keeps the registry and what is out coherent.
-/

set_option autoImplicit false

namespace RenderRelay.Tenancy

open Function (update)
open Registry (Transforms Keeps destroyed revived)

variable {r r' : Registry} {held held' : Holder → Option Holding}

theorem witnessed_eq_some {a : Act} {k : Holder} {y : Holding} (hk : witnessed a held k = some y) :
    ∃ x, held k = some x ∧ y = x.noting (a.deedFor k) := by
  obtain ⟨x, hx, hy⟩ := Option.map_eq_some_iff.mp hk
  exact ⟨x, hx, hy.symm⟩

/-- Where every record changes, those that are out must change as the deeds say,
and may go only in a teardown. -/
theorem Coherent.every (hc : Coherent r held) {a : Act}
    {each : Handle → ContextRecord → Option ContextRecord} (ht : r.Transforms r' each)
    (hage : r.arena.Ages r'.arena) (hkeep : Keeps each)
    (hactive : ∀ h c d, each h c = some d → d.active = c.active)
    (hheld : ∀ k x c d, held k = some x → Agrees x c → each x.current.handle c = some d →
      Agrees (x.noting (a.deedFor k)) d)
    (hgone : ∀ k x c, held k = some x → Agrees x c → each x.current.handle c = none →
      a = .teardown) :
    Coherent r' (witnessed a held) := by
  constructor
  case orderly => exact hc.orderly.transform ht hkeep
  case owned =>
    intro h d hd ha
    obtain ⟨c, hh, hcd⟩ := ht.before hd
    rw [hactive _ _ _ hcd] at ha
    obtain ⟨k, x, hk, hx⟩ := hc.owned h c hh ha
    exact ⟨k, x.noting (a.deedFor k), by rw [witnessed, hk]; rfl, hx⟩
  case apart =>
    intro k l y z hy hz he
    obtain ⟨y, hy', rfl⟩ := witnessed_eq_some hy
    obtain ⟨z, hz', rfl⟩ := witnessed_eq_some hz
    exact hc.apart k l y z hy' hz' he
  case agrees =>
    intro k y d hy hd
    obtain ⟨x, hx, rfl⟩ := witnessed_eq_some hy
    obtain ⟨c, hh, hcd⟩ := ht.before hd
    exact hheld k x c d hx (hc.agrees k x c hx hh) hcd
  case torn =>
    intro k y hy hn
    obtain ⟨x, hx, rfl⟩ := witnessed_eq_some hy
    have hn : r'.record? x.current.handle = none := hn
    rw [ht.record?] at hn
    cases hv : r.record? x.current.handle with
    | none =>
      obtain ⟨deed, hd, htorn⟩ := hc.torn k x hx hv
      exact ⟨deed, List.mem_cons_of_mem _ hd, htorn⟩
    | some c =>
      rw [hv] at hn
      have ha := hgone k x c hx (hc.agrees k x c hx hv) hn
      exact ⟨a.deedFor k, List.mem_cons_self, ha⟩
  case issued =>
    intro k y hy
    obtain ⟨x, hx, rfl⟩ := witnessed_eq_some hy
    exact Arena.issued_of_advances ht.advances hage (hc.issued k x hx)

/-- An act that destroys nothing and calls nothing back only has its witnesses. -/
theorem Coherent.witness (hc : Coherent r held) {a : Act}
    (hq : ∀ current own doom, Deed.destroys current ⟨a, own⟩ doom = doom) :
    Coherent r (witnessed a held) := by
  apply hc.every (Registry.transforms_refl hc.orderly.sound) fun _ => Nat.le_refl _
  case hkeep =>
    intro h c d hd
    cases hd
    exact ⟨rfl, rfl, id⟩
  case hactive =>
    intro h c d hd
    cases hd
    rfl
  case hheld =>
    intro k x c d _ ha hd
    cases hd
    exact { ha with doom := ha.doom.trans (hq ..).symm }
  case hgone =>
    intro k x c _ _ hn
    cases hn

theorem Coherent.mark (hc : Coherent r held) {a : Act}
    {doomed : Handle → ContextRecord → Option Doom}
    (hage : r.arena.Ages (r.mark doomed).2.arena)
    (hdoom : ∀ k x c, held k = some x → Agrees x c →
      c.doom.union ((doomed x.current.handle c).getD {}) =
        doomOf x.current (a.deedFor k :: x.since)) :
    Coherent (r.mark doomed).2 (witnessed a held) := by
  apply hc.every (Registry.mark_transforms hc.orderly.sound doomed) hage
    (Registry.destroyed_keeps doomed) fun _ _ _ hd => (Registry.destroyed_same hd).2.2.1
  case hheld =>
    intro k x c d hk ha hd
    rw [Registry.destroyed_of_active ha.active] at hd
    cases hd
    exact { ha with doom := hdoom k x c hk ha }
  case hgone =>
    intro k x c hk ha hn
    rw [Registry.destroyed_of_active ha.active] at hn
    cases hn

theorem Coherent.initDisplay (hc : Coherent r held) (display : Display)
    (hage : r.arena.Ages (r.initDisplay display).arena) :
    Coherent (r.initDisplay display) (witnessed (.initDisplay display) held) := by
  apply hc.every (Registry.initDisplay_transforms hc.orderly.sound display) hage
    (Registry.revived_keeps display)
  case hactive =>
    intro h c d hd
    cases hd
    rfl
  case hheld =>
    intro k x c d _ ha hd
    cases hd
    refine { ha with doom := ?doom }
    case doom =>
      show (if c.display = display then _ else c.doom) = if x.current.display = display then _ else _
      rw [ha.display, ha.doom]
      rfl
  case hgone =>
    intro k x c _ _ hn
    cases hn

theorem Coherent.teardown (hc : Coherent r held) (hage : r.arena.Ages r.teardown.2.arena) :
    Coherent r.teardown.2 (witnessed .teardown held) := by
  apply hc.every (Registry.teardown_transforms hc.orderly.sound) hage
  case hkeep =>
    intro h c d hd
    cases hd
  case hactive =>
    intro h c d hd
    cases hd
  case hheld =>
    intro k x c d _ _ hd
    cases hd
  case hgone =>
    intro k x c _ _ _
    rfl

/-! Letting go -/

theorem Coherent.letGo (hc : Coherent r held) {k : Holder} {x : Holding} (hk : held k = some x)
    (hage : r.arena.Ages (r.release x.current).arena) :
    Coherent (r.release x.current) (update held k none) := by
  have ht := Registry.release_transforms hc.orderly.sound x.current
  have hother : ∀ l y, update held k none l = some y → held l = some y ∧
      (r.release x.current).record? y.current.handle = r.record? y.current.handle := by
    intro l y hl
    obtain ⟨hlk, hl⟩ := update_none_eq_some hl
    exact ⟨hl, Registry.record?_release_of_ne fun he => hlk (hc.apart l k y x hl hk he)⟩
  constructor
  case orderly => exact hc.orderly.release x.current
  case owned =>
    intro h d hd ha
    obtain ⟨c, hv, hcd⟩ := ht.before hd
    rcases Registry.returning_eq_some hcd with ⟨hne, rfl⟩ | ⟨-, -, rfl⟩
    · obtain ⟨l, y, hl, hy⟩ := hc.owned h d hv ha
      have hlk : l ≠ k := by
        intro e
        rw [e, hk] at hl
        cases hl
        exact hne hy.symm
      exact ⟨l, y, by rw [Function.update_of_ne hlk, hl], hy⟩
    · cases ha
  case apart =>
    intro l m y z hl hm he
    exact hc.apart l m y z (hother l y hl).1 (hother m z hm).1 he
  case agrees =>
    intro l y d hl hd
    obtain ⟨hl, hsame⟩ := hother l y hl
    rw [hsame] at hd
    exact hc.agrees l y d hl hd
  case torn =>
    intro l y hl hn
    obtain ⟨hl, hsame⟩ := hother l y hl
    rw [hsame] at hn
    exact hc.torn l y hl hn
  case issued =>
    intro l y hl
    exact Arena.issued_of_advances ht.advances hage (hc.issued l y (hother l y hl).1)

/-! Handing out -/

theorem Coherent.unheld (hc : Coherent r held) {h : Handle} {c : ContextRecord}
    (hv : r.record? h = some c) (ha : c.active = false) {l : Holder} {y : Holding}
    (hl : held l = some y) : y.current.handle ≠ h := by
  intro he
  have hy := (hc.agrees l y c hl (by rw [he, hv])).active
  rw [ha] at hy
  cases hy

theorem Coherent.handOut (hc : Coherent r held) {k : Holder} (hk : held k = none) {h : Handle}
    {c : ContextRecord} (hv : r.record? h = some c) (ha : c.active = false)
    (draw read : Surface) (shadow : Shadow) :
    Coherent (r.handOut h draw read)
      (update held k (some { current := ⟨h, c.display, c.context, draw, read, shadow⟩ })) := by
  have ht := Registry.handOut_transforms hc.orderly.sound h draw read
  have hself : (r.handOut h draw read).record? h = some (c.taken draw read) := by
    rw [ht.record?, hv]
    exact if_pos rfl
  have hother : ∀ l y, held l = some y → (r.handOut h draw read).record? y.current.handle =
      r.record? y.current.handle :=
    fun l y hl => Registry.record?_handOut_of_ne (hc.unheld hv ha hl) draw read
  constructor
  case orderly => exact hc.orderly.handOut h draw read
  case owned =>
    intro g d hd hda
    by_cases hg : g = h
    · exact ⟨k, _, Function.update_self .., hg.symm⟩
    · obtain ⟨e, he, hed⟩ := ht.before hd
      simp only [Registry.taking, if_neg hg] at hed
      cases hed
      obtain ⟨l, y, hl, hy⟩ := hc.owned g d he hda
      have hlk : l ≠ k := by
        intro e
        rw [e, hk] at hl
        cases hl
      exact ⟨l, y, by rw [Function.update_of_ne hlk, hl], hy⟩
  case apart =>
    intro l m y z hl hm he
    rcases update_some_eq_some hl with ⟨hlk, hy⟩ | ⟨-, hl'⟩
    · rcases update_some_eq_some hm with ⟨hmk, -⟩ | ⟨-, hm'⟩
      · exact hlk.trans hmk.symm
      · rw [hy] at he
        exact absurd he.symm (hc.unheld hv ha hm')
    · rcases update_some_eq_some hm with ⟨-, hz⟩ | ⟨-, hm'⟩
      · rw [hz] at he
        exact absurd he (hc.unheld hv ha hl')
      · exact hc.apart l m y z hl' hm' he
  case agrees =>
    intro l y d hl hd
    rcases update_some_eq_some hl with ⟨rfl, rfl⟩ | ⟨-, hl⟩
    · rw [hself] at hd
      cases hd
      exact ⟨rfl, rfl, rfl, rfl, rfl, (hc.orderly.tidy h c hv).idle ha⟩
    · rw [hother l y hl] at hd
      exact hc.agrees l y d hl hd
  case torn =>
    intro l y hl hn
    rcases update_some_eq_some hl with ⟨rfl, rfl⟩ | ⟨-, hl⟩
    · rw [hself] at hn
      cases hn
    · rw [hother l y hl] at hn
      exact hc.torn l y hl hn
  case issued =>
    have hage : r.arena.Ages (r.handOut h draw read).arena :=
      fun i => Nat.le_of_eq (by rw [Registry.generationAt_handOut])
    intro l y hl
    rcases update_some_eq_some hl with ⟨rfl, rfl⟩ | ⟨-, hl⟩
    · exact .inl (Option.isSome_iff_exists.mpr ⟨_, hself⟩)
    · exact Arena.issued_of_advances ht.advances hage (hc.issued l y hl)

/-! A new record -/

/-- A handle that is out was given out, so it is not that of a new record. -/
theorem Coherent.record?_add (hc : Coherent r held) {k : Holder} {x : Holding}
    (hk : held k = some x) (display : Display) (context : Context) (draw read : Surface) :
    (r.add display context draw read).2.record? x.current.handle =
      r.record? x.current.handle := by
  rw [Registry.record?_add hc.orderly.sound, if_neg]
  intro he
  have hi := hc.issued k x hk
  rw [he] at hi
  exact Arena.not_issued_insert hc.orderly.sound _ hi

theorem Coherent.add (hc : Coherent r held) {display : Display} {context : Context}
    (hn : ∀ h c, r.record? h = some c → ¬ (c.display = display ∧ c.context = context))
    (draw read : Surface)
    (hl : (r.add display context draw read).2.arena.slots.length < UInt32.size) :
    Coherent (r.add display context draw read).2 held := by
  constructor
  case orderly => exact hc.orderly.add hn draw read hl
  case owned =>
    intro h d hd ha
    rw [Registry.record?_add hc.orderly.sound] at hd
    split at hd
    · cases hd
      cases ha
    · exact hc.owned h d hd ha
  case apart => exact hc.apart
  case agrees =>
    intro k x d hk hd
    rw [hc.record?_add hk] at hd
    exact hc.agrees k x d hk hd
  case torn =>
    intro k x hk hv
    rw [hc.record?_add hk] at hv
    exact hc.torn k x hk hv
  case issued =>
    have hage : r.arena.Ages (r.add display context draw read).2.arena :=
      fun i => Nat.le_of_eq (congrArg _ (Arena.generationAt_insert hc.orderly.sound _ i).symm)
    intro k x hk
    exact Arena.issued_of_advances (Arena.insert_advances hc.orderly.sound _) hage
      (hc.issued k x hk)

/-! What is out passes to another, or is drawn with -/

theorem doomOf_shadow (current : Current) (shadow : Shadow) (since : List Deed) :
    doomOf { current with shadow } since = doomOf current since := by
  induction since with
  | nil => rfl
  | cons deed since ih => exact congrArg (deed.destroys current) ih

theorem Coherent.pass (hc : Coherent r held) (f : Holder → Holder)
    (hto : ∀ l y, held' l = some y → ∃ x shadow, held (f l) = some x ∧
      y = { x with current := { x.current with shadow } })
    (hinj : ∀ l m y z, held' l = some y → held' m = some z → f l = f m → l = m)
    (hback : ∀ k x, held k = some x → ∃ l y, held' l = some y ∧
      y.current.handle = x.current.handle) : Coherent r held' := by
  constructor
  case orderly => exact hc.orderly
  case owned =>
    intro h c hh ha
    obtain ⟨k, x, hk, hx⟩ := hc.owned h c hh ha
    obtain ⟨l, y, hl, hy⟩ := hback k x hk
    exact ⟨l, y, hl, hy.trans hx⟩
  case apart =>
    intro l m y z hl hm he
    obtain ⟨x, _, hx, rfl⟩ := hto l y hl
    obtain ⟨w, _, hw, rfl⟩ := hto m z hm
    exact hinj l m _ _ hl hm (hc.apart _ _ x w hx hw he)
  case agrees =>
    intro l y c hl hv
    obtain ⟨x, shadow, hx, rfl⟩ := hto l y hl
    have ha := hc.agrees _ x c hx hv
    exact { ha with doom := ha.doom.trans (doomOf_shadow x.current shadow x.since).symm }
  case torn =>
    intro l y hl hn
    obtain ⟨x, _, hx, rfl⟩ := hto l y hl
    exact hc.torn _ x hx hn
  case issued =>
    intro l y hl
    obtain ⟨x, _, hx, rfl⟩ := hto l y hl
    exact hc.issued _ x hx

theorem Coherent.drop (hc : Coherent r held) {w n : Nat} (hn : held (.lost n) = none) :
    Coherent r (update (update held (.lost n) (held (.worker w))) (.worker w) none) := by
  have hlost : ∀ l y, update (update held (.lost n) (held (.worker w))) (.worker w) none l =
      some y → l ≠ .worker w ∧ ((l = .lost n ∧ held (.worker w) = some y) ∨
        (l ≠ .lost n ∧ held l = some y)) := by
    intro l y hl
    obtain ⟨hlw, hl⟩ := update_none_eq_some hl
    by_cases hln : l = .lost n
    · rw [hln, Function.update_self] at hl
      exact ⟨hlw, .inl ⟨hln, hl⟩⟩
    · rw [Function.update_of_ne hln] at hl
      exact ⟨hlw, .inr ⟨hln, hl⟩⟩
  apply hc.pass fun l => if l = .lost n then .worker w else l
  case hto =>
    intro l y hl
    rcases (hlost l y hl).2 with ⟨hln, hy⟩ | ⟨hln, hy⟩
    · exact ⟨y, y.current.shadow, by rw [if_pos hln]; exact hy, rfl⟩
    · exact ⟨y, y.current.shadow, by rw [if_neg hln]; exact hy, rfl⟩
  case hinj =>
    intro l m y z hl hm he
    obtain ⟨hlw, hl⟩ := hlost l y hl
    obtain ⟨hmw, hm⟩ := hlost m z hm
    by_cases hln : l = .lost n
    · by_cases hmn : m = .lost n
      · exact hln.trans hmn.symm
      · rw [if_pos hln, if_neg hmn] at he
        exact absurd he.symm hmw
    · by_cases hmn : m = .lost n
      · rw [if_neg hln, if_pos hmn] at he
        exact absurd he hlw
      · rw [if_neg hln, if_neg hmn] at he
        exact he
  case hback =>
    intro k x hk
    have hkn : k ≠ .lost n := by
      intro e
      rw [e, hn] at hk
      cases hk
    by_cases hkw : k = .worker w
    · refine ⟨.lost n, x, ?_, rfl⟩
      rw [Function.update_of_ne Holder.noConfusion, Function.update_self, ← hkw]
      exact hk
    · refine ⟨k, x, ?_, rfl⟩
      rw [Function.update_of_ne hkw, Function.update_of_ne hkn]
      exact hk

theorem Coherent.use (hc : Coherent r held) (w : Nat) (shadow : Shadow) :
    Coherent r (update held (.worker w) ((held (.worker w)).map fun x =>
      { x with current := { x.current with shadow } })) := by
  apply hc.pass id
  case hto =>
    intro l y hl
    by_cases hlw : l = .worker w
    · subst hlw
      rw [Function.update_self] at hl
      obtain ⟨x, hx, hy⟩ := Option.map_eq_some_iff.mp hl
      exact ⟨x, shadow, hx, hy.symm⟩
    · rw [Function.update_of_ne hlw] at hl
      exact ⟨y, y.current.shadow, hl, rfl⟩
  case hinj => exact fun _ _ _ _ _ _ he => he
  case hback =>
    intro k x hk
    by_cases hkw : k = .worker w
    · subst hkw
      refine ⟨.worker w, { x with current := { x.current with shadow } }, ?_, rfl⟩
      rw [Function.update_self, hk]
      rfl
    · exact ⟨k, x, by rw [Function.update_of_ne hkw, hk], rfl⟩

end RenderRelay.Tenancy
