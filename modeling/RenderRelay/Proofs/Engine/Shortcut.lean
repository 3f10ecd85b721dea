import RenderRelay.Driver.Recorder
import RenderRelay.Proofs.Engine.Fleet
import RenderRelay.Proofs.Registry.Distinct

/-!
# Making current what is current already

A worker that asks for just what it has is answered without a call, and all
stays as it is. Had the driver been asked and agreed, the answer would be the
same, and as long as nothing of the context was destroyed, so would be every
record and what the worker has. Had surfaces been destroyed, that would no
longer be noted; had the display or the context, a new record would have come
for the old one.
-/

set_option autoImplicit false

namespace RenderRelay

open Function (update)
open Registry (Custody Distinct Bears)

/-! ## What is kept in a fleet -/

namespace Fleet

variable {δ : Type} {f : Fleet δ} {w : Nat}

structure Housed (f : Fleet δ) : Prop where
  custody : Custody f.server.registry f.out
  distinct : f.server.registry.Distinct
  bears : f.server.registry.Bears f.out

theorem start_housed (d : δ) (names : NameTable) : (start d names).Housed where
  custody := Registry.empty_custody
  distinct := Registry.empty_distinct
  bears _ _ hk := by cases hk

theorem Housed.shadow_of_own (hf : f.Housed) {k : Current} {c : ContextRecord}
    (hv : f.server.registry.record? k.handle = some c) (hof : k.Of c) : c.shadow = none := by
  have htidy := hf.custody.tidy _ c hv
  rw [hof.active] at htidy
  simpa using htidy

theorem Housed.handles (hf : f.Housed) {e : Engine δ} {more : Handle → List (Deed δ)}
    (hh : f.server.registry.Handles (f.out w) e.server.registry e.current) :
    (f.become w e more).Housed := by
  have hcustody := hf.custody
  have hd := hf.distinct
  have hb := hf.bears
  have hsame : update f.out w (f.out w) = f.out := Function.update_eq_self w f.out
  suffices h : e.server.registry.Distinct ∧
      e.server.registry.Bears (update f.out w e.current) from
    ⟨(hh.passes hcustody).custody, h.1, h.2⟩
  generalize e.server.registry = r at hh ⊢
  generalize e.current = next at hh ⊢
  cases hh with
  | rest => exact ⟨hd, hsame.symm ▸ hb⟩
  | revive display =>
    exact ⟨hd.narrow (Registry.narrows_initDisplay _ display),
      hsame.symm ▸ hb.steady (Registry.steadies_initDisplay _ display)⟩
  | mark doomed =>
    exact ⟨hd.narrow (Registry.narrows_mark _ doomed),
      hsame.symm ▸ hb.steady (Registry.steadies_mark _ doomed)⟩
  | release => exact ⟨hd.narrow (Registry.narrows_giveBack _ _), hb.giveBack hcustody w⟩
  | make display draw read context =>
    exact ⟨hd.makeCurrent display draw read context (f.out w),
      hb.makeCurrent hcustody w display draw read context⟩
  | refuse display draw read context =>
    have hdistinct := hd.makeCurrent display draw read context (f.out w)
    have hbears := hb.makeCurrent hcustody w display draw read context
    have hpasses := hcustody.passes_makeCurrent w display draw read context rfl
    have hback := hbears.giveBack hpasses.custody w
    rw [Function.update_self, Function.update_idem] at hback
    exact ⟨hdistinct.narrow (Registry.narrows_giveBack _ _), hback⟩

/-- Only the shadow of the worker's context changes, which neither the slots nor the records
know. -/
theorem Housed.render (hf : f.Housed) {k : Current} (hk : f.out w = some k) (s : Scope δ)
    (more : Handle → List (Deed δ)) : (f.become w ((f.engine w).leave k s) more).Housed where
  custody := hf.custody.rework hk rfl
  distinct := hf.distinct
  bears := by
    intro v j hj
    rcases update_some_eq_some hj with ⟨-, rfl⟩ | ⟨-, hj⟩
    · obtain ⟨record, hv, hof⟩ := hf.bears w k hk
      exact ⟨record, hv, { hof with }⟩
    · exact hf.bears v j hj

variable [Driver δ]

theorem Housed.move (hf : f.Housed) (m : Move) : (f.move m).Housed := by
  cases m with
  | drop w => exact hf.handles .release
  | execute w c =>
    have hx := (f.engine w).execute_executed c
    rw [Fleet.move]
    generalize ((f.engine w).execute c).2 = e at hx
    cases hx with
    | display _ h => exact hf.handles h.registry
    | idle => exact hf.handles .rest
    | rendering hk _ => exact hf.render hk _ _

theorem Housed.run (hf : f.Housed) (moves : List Move) : (f.run moves).Housed := by
  induction moves generalizing f with
  | nil => exact hf
  | cons m moves ih => exact ih (hf.move m)

end Fleet

/-! ## The statement -/

namespace Engine

variable {δ : Type} [Driver δ]

/-- What a call that the driver accepts leads to, against the answer without one, for a worker
that has `k` and asks for just that; `c` is the record of `k`. -/
structure Repeats (e : Engine δ) (display : Display) (draw read : Surface) (context : Context)
    (k : Current) (c : ContextRecord) : Prop where
  reply : (e.makeCurrentAnew display draw read context).1 =
    (e.makeCurrent display draw read context).1
  /-- With nothing destroyed of the context, all is the same. -/
  same : c.doom = {} →
    (e.makeCurrentAnew display draw read context).2.server.registry =
        (e.makeCurrent display draw read context).2.server.registry ∧
      (e.makeCurrentAnew display draw read context).2.current =
        (e.makeCurrent display draw read context).2.current
  /-- With no more than surfaces destroyed, all is the same but that this is still noted. -/
  noted : c.doom.display = false → c.doom.context = false →
    (e.makeCurrentAnew display draw read context).2.server.registry =
        (e.makeCurrent display draw read context).2.server.registry.set k.handle
          { c with doom := {} } ∧
      (e.makeCurrentAnew display draw read context).2.current =
        (e.makeCurrent display draw read context).2.current
  /-- With the display or the context destroyed, the record is gone and a new one has come, with
  a fresh shadow. -/
  begun : c.doom.display = true ∨ c.doom.context = true → ∃ h, h ≠ k.handle ∧
    (e.makeCurrentAnew display draw read context).2.current =
        some ⟨h, display, context, draw, read, .fresh⟩ ∧
      ∀ g, (e.makeCurrentAnew display draw read context).2.server.registry.record? g =
        if g = h then some { display, context, draw, read, active := true, shadow := none }
        else if g = k.handle then none
        else (e.makeCurrent display draw read context).2.server.registry.record? g

structure Spares (e : Engine δ) (display : Display) (draw read : Surface) (context : Context)
    (k : Current) (c : ContextRecord) : Prop where
  found : e.server.registry.record? k.handle = some c
  own : k.Of c
  /-- The answer is counted, and that is all. -/
  rests : e.makeCurrent display draw read context =
    (true, { e with server := { e.server with stats := e.server.stats.elided } })
  accepted : (Driver.perform e.server.driver (.makeCurrent display draw read context)).1 = true →
    e.Repeats display draw read context k c

theorem makeCurrent_of_matches {e : Engine δ} {k : Current} {display : Display}
    {draw read : Surface} {context : Context} (hk : e.current = some k)
    (hm : k.matches display draw read context = true)
    (hb : Driver.bound e.server.driver .eglMakeCurrent = true) :
    e.makeCurrent display draw read context =
      (true, { e with server := { e.server with stats := e.server.stats.elided } }) := by
  have hholds : e.holds display draw read context = true := by
    rw [holds, hk]
    exact hm
  rw [makeCurrent_eq, hb, hholds]
  rfl

theorem makeCurrentAnew_of_ok {e : Engine δ} {display : Display} {draw read : Surface}
    {context : Context} {r : Registry} {next : Option Current}
    (ha : (Driver.perform e.server.driver (.makeCurrent display draw read context)).1 = true)
    (hm : e.server.registry.makeCurrent display draw read context e.current =
      (.ok (), r, next)) :
    (e.makeCurrentAnew display draw read context).1 = true ∧
      (e.makeCurrentAnew display draw read context).2.server.registry = r ∧
      (e.makeCurrentAnew display draw read context).2.current = next := by
  unfold makeCurrentAnew call
  dsimp only
  rw [ha]
  dsimp only
  rw [hm]
  exact ⟨rfl, rfl, rfl⟩

end Engine

namespace Fleet

variable {δ : Type} [Driver δ]

/-- With no more than surfaces destroyed, the record stays and so does what the worker has. -/
theorem Housed.makeCurrentAnew_noted {f : Fleet δ} (hf : f.Housed) {w : Nat} {k : Current}
    {c : ContextRecord} (hk : (f.engine w).current = some k)
    (hv : f.server.registry.record? k.handle = some c) (hof : k.Of c)
    (ha : (Driver.perform f.server.driver (.makeCurrent k.display k.draw k.read k.context)).1 =
      true) (hreaps : c.doom.reaps = false) :
    ((f.engine w).makeCurrentAnew k.display k.draw k.read k.context).1 = true ∧
      ((f.engine w).makeCurrentAnew k.display k.draw k.read k.context).2.server.registry =
        f.server.registry.set k.handle { c with doom := {} } ∧
      ((f.engine w).makeCurrentAnew k.display k.draw k.read k.context).2.current = some k := by
  have hmade := hf.distinct.makeCurrent_own hv hof (hf.shadow_of_own hv hof) hreaps
  rw [← hk] at hmade ⊢
  exact Engine.makeCurrentAnew_of_ok (e := f.engine w) ha hmade

/-- With the display or the context destroyed, the record goes and a new one comes. -/
theorem Housed.makeCurrentAnew_begun {f : Fleet δ} (hf : f.Housed) {w : Nat} {k : Current}
    {c : ContextRecord} (hk : (f.engine w).current = some k)
    (hv : f.server.registry.record? k.handle = some c) (hof : k.Of c)
    (ha : (Driver.perform f.server.driver (.makeCurrent k.display k.draw k.read k.context)).1 =
      true) (hreaps : c.doom.reaps = true) :
    ((f.engine w).makeCurrentAnew k.display k.draw k.read k.context).1 = true ∧
      ∃ h, h ≠ k.handle ∧
        ((f.engine w).makeCurrentAnew k.display k.draw k.read k.context).2.current =
          some ⟨h, k.display, k.context, k.draw, k.read, .fresh⟩ ∧
        ∀ g, ((f.engine w).makeCurrentAnew k.display k.draw k.read
            k.context).2.server.registry.record? g =
          if g = h then
            some ((Registry.fresh k.display k.context k.draw k.read).taken k.draw k.read)
          else if g = k.handle then none
          else f.server.registry.record? g := by
  obtain ⟨h, r, hmade, hne, hrecords⟩ := hf.distinct.makeCurrent_gone hv hof hreaps
  rw [← hk] at hmade
  obtain ⟨hreply, hregistry, hcurrent⟩ :=
    Engine.makeCurrentAnew_of_ok (e := f.engine w) ha hmade
  rw [hregistry]
  exact ⟨hreply, h, hne, hcurrent, hrecords⟩

theorem Housed.repeats {f : Fleet δ} (hf : f.Housed) {w : Nat} {k : Current} {c : ContextRecord}
    (hk : (f.engine w).current = some k) (hv : f.server.registry.record? k.handle = some c)
    (hof : k.Of c)
    (hshort : (f.engine w).makeCurrent k.display k.draw k.read k.context =
      (true, { f.engine w with server := { f.server with stats := f.server.stats.elided } }))
    (ha : (Driver.perform f.server.driver (.makeCurrent k.display k.draw k.read k.context)).1 =
      true) : (f.engine w).Repeats k.display k.draw k.read k.context k c := by
  have hcurrent : some k = f.out w := hk.symm
  constructor <;> rw [hshort]
  case reply =>
    cases hreaps : c.doom.reaps with
    | false => exact (hf.makeCurrentAnew_noted hk hv hof ha hreaps).1
    | true => exact (hf.makeCurrentAnew_begun hk hv hof ha hreaps).1
  case same =>
    intro hdoom
    obtain ⟨-, hregistry, hnext⟩ := hf.makeCurrentAnew_noted hk hv hof ha (by rw [hdoom]; rfl)
    have hsame : f.server.registry.set k.handle { c with doom := {} } = f.server.registry := by
      rw [← hdoom]
      exact congrArg (fun arena => { f.server.registry with arena }) (Arena.set_self hv)
    exact ⟨hregistry.trans hsame, hnext.trans hcurrent⟩
  case noted =>
    intro hdisplay hcontext
    obtain ⟨-, hregistry, hnext⟩ :=
      hf.makeCurrentAnew_noted hk hv hof ha (by rw [Doom.reaps, hdisplay, hcontext]; rfl)
    exact ⟨hregistry, hnext.trans hcurrent⟩
  case begun =>
    intro hdoomed
    exact (hf.makeCurrentAnew_begun hk hv hof ha ((Bool.or_eq_true _ _).mpr hdoomed)).2

/-- After any run of any engines of a server, a worker that asks for just what it has is told yes
without a call. Had the driver been asked and agreed, it would be told the same; what else would
be the same goes by what was destroyed of the context. -/
theorem run_spares (d : δ) (names : NameTable) (moves : List Move) (w : Nat) (k : Current)
    (display : Display) (draw read : Surface) (context : Context)
    (hk : (((start d names).run moves).engine w).current = some k)
    (hm : k.matches display draw read context = true)
    (hb : Driver.bound ((start d names).run moves).server.driver .eglMakeCurrent = true) :
    ∃ c, (((start d names).run moves).engine w).Spares display draw read context k c := by
  have hf := (start_housed d names).run moves
  generalize (start d names).run moves = f at hk hb hf
  obtain ⟨c, hv, hof⟩ := hf.bears w k hk
  have hshort := Engine.makeCurrent_of_matches (e := f.engine w) hk hm hb
  simp only [Current.matches, Bool.and_eq_true, decide_eq_true_eq] at hm
  obtain ⟨⟨⟨rfl, rfl⟩, rfl⟩, rfl⟩ := hm
  exact ⟨c, hv, hof, hshort, hf.repeats hk hv hof hshort⟩

/-! A context is destroyed while it is current -/

/-- The stencil value is set before, so that the shadow is not a fresh one. -/
def doomed : List Move :=
  [.execute 0 (.makeCurrent ⟨1⟩ ⟨3⟩ ⟨3⟩ ⟨7⟩), .execute 0 (.clearStencil 5),
    .execute 0 (.destroyContext ⟨1⟩ ⟨7⟩)]

/-- With the surface destroyed only, all but the note of this is the same. -/
def bereft : List Move :=
  [.execute 0 (.makeCurrent ⟨1⟩ ⟨3⟩ ⟨3⟩ ⟨7⟩), .execute 0 (.clearStencil 5),
    .execute 0 (.destroySurface ⟨1⟩ ⟨3⟩)]

theorem run_spares_of_bereft :
    ∃ k c, (((start ({} : Recorder) {}).run bereft).engine 0).current = some k ∧
      k.matches ⟨1⟩ ⟨3⟩ ⟨3⟩ ⟨7⟩ = true ∧ c.doom = { draw := true, read := true } ∧
      (((start ({} : Recorder) {}).run bereft).engine 0).Spares ⟨1⟩ ⟨3⟩ ⟨3⟩ ⟨7⟩ k c ∧
      (((start ({} : Recorder) {}).run bereft).engine 0).Repeats ⟨1⟩ ⟨3⟩ ⟨3⟩ ⟨7⟩ k c := by
  have hheld : (((start ({} : Recorder) {}).run bereft).engine 0).current.map
      (fun k => (k.handle, k.matches ⟨1⟩ ⟨3⟩ ⟨3⟩ ⟨7⟩)) = some (⟨0, 0⟩, true) := by
    decide +kernel
  obtain ⟨k, hk, hkm⟩ := Option.map_eq_some_iff.mp hheld
  obtain ⟨hhandle, hm⟩ := Prod.mk.inj hkm
  obtain ⟨c, hc⟩ := run_spares ({} : Recorder) {} bereft 0 k ⟨1⟩ ⟨3⟩ ⟨3⟩ ⟨7⟩ hk hm
    (by decide +kernel)
  have hdoom : (((start ({} : Recorder) {}).run bereft).server.registry.record? ⟨0, 0⟩).map
      ContextRecord.doom = some { draw := true, read := true } := by
    decide +kernel
  have hfound : ((start ({} : Recorder) {}).run bereft).server.registry.record? ⟨0, 0⟩ = some c :=
    hhandle ▸ hc.found
  rw [hfound] at hdoom
  exact ⟨k, c, hk, hm, Option.some.inj hdoom, hc, hc.accepted (by decide +kernel)⟩

/-- The worker keeps the context that is gone, where the call would have made a new record. -/
theorem kept_of_doomed :
    let e := ((start ({} : Recorder) {}).run doomed).engine 0
    e.holds ⟨1⟩ ⟨3⟩ ⟨3⟩ ⟨7⟩ = true ∧
      Driver.bound e.server.driver .eglMakeCurrent = true ∧
      (Driver.perform e.server.driver (.makeCurrent ⟨1⟩ ⟨3⟩ ⟨3⟩ ⟨7⟩)).1 = true ∧
      (e.makeCurrent ⟨1⟩ ⟨3⟩ ⟨3⟩ ⟨7⟩).1 = true ∧
      (e.makeCurrentAnew ⟨1⟩ ⟨3⟩ ⟨3⟩ ⟨7⟩).1 = true ∧
      (e.makeCurrent ⟨1⟩ ⟨3⟩ ⟨3⟩ ⟨7⟩).2.server.registry.records.map
        (fun r => (r.1, r.2.doom)) = [(⟨0, 0⟩, { context := true })] ∧
      (e.makeCurrentAnew ⟨1⟩ ⟨3⟩ ⟨3⟩ ⟨7⟩).2.server.registry.records.map
        (fun r => (r.1, r.2.doom)) = [(⟨0, 1⟩, {})] ∧
      (e.makeCurrent ⟨1⟩ ⟨3⟩ ⟨3⟩ ⟨7⟩).2.current.map (·.shadow.clearStencil) = some 5 ∧
      (e.makeCurrentAnew ⟨1⟩ ⟨3⟩ ⟨3⟩ ⟨7⟩).2.current.map (·.shadow.clearStencil) = some 0 := by
  decide +kernel

end Fleet

end RenderRelay
